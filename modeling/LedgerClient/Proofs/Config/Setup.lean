import LedgerClient.Config
import LedgerClient.Proofs.Execution.Course
import LedgerClient.Proofs.Network.Assembly
import LedgerClient.Proofs.Outcome

/-!
# Setting up a client

A configuration that fails a check sets up no client, and for that reason. One that passes
sets one up, provided that no two of its nodes have one account: accounts are compared only
when the network is made.
-/

namespace LedgerClient

variable {ω χ : Type}

/-! ### What has passed the checks -/

/-- Whether an operator can be made of a section does not depend on the world it signs in. -/
theorem OperatorSection.resolve_of_ok {s : OperatorSection} {operator : Operator Unit}
    (hok : s.resolve = .ok operator) : ∃ payer : Operator ω, s.resolve = .ok payer := by
  obtain ⟨account, haccount, hok⟩ := Outcome.bind_eq_ok.mp hok
  obtain ⟨type, htype, hok⟩ := Outcome.bind_eq_ok.mp hok
  obtain ⟨key, hkey, _⟩ := Outcome.bind_eq_ok.mp hok
  refine ⟨⟨account, key.signer⟩, ?_⟩
  exact Outcome.bind_eq_ok.mpr ⟨account, haccount,
    Outcome.bind_eq_ok.mpr ⟨type, htype, Outcome.bind_eq_ok.mpr ⟨key, hkey, rfl⟩⟩⟩

namespace ClientConfig

theorem resolveOperator_of_ok {c : ClientConfig} {operator : Option (Operator Unit)}
    (hok : c.resolveOperator = .ok operator) :
    ∃ payer : Option (Operator ω), c.resolveOperator = .ok payer := by
  unfold resolveOperator at hok ⊢
  cases hsection : c.operator with
  | none => exact ⟨none, rfl⟩
  | some payer =>
      rw [hsection] at hok
      cases hresolve : payer.resolve (ω := Unit) with
      | error error =>
          simp only [hresolve] at hok
          cases hok
      | ok resolved =>
          obtain ⟨operator, hoperator⟩ := OperatorSection.resolve_of_ok (ω := ω) hresolve
          exact ⟨some operator, by simp only [hoperator]; rfl⟩

/-- A configuration that passes its checks has bounds, a network and an operator. -/
theorem validate_eq_ok {c : ClientConfig} (hvalid : c.validate = .ok ()) :
    c.backoffBounds.validate = .ok () ∧ (∃ resolved, c.network.resolve = .ok resolved) ∧
      ∃ payer : Option (Operator ω), c.resolveOperator = .ok payer := by
  obtain ⟨_, _, hvalid⟩ := Outcome.bind_eq_ok.mp hvalid
  obtain ⟨_, hbounds, hvalid⟩ := Outcome.bind_eq_ok.mp hvalid
  obtain ⟨resolved, hnetwork, hvalid⟩ := Outcome.bind_eq_ok.mp hvalid
  obtain ⟨operator, hoperator, _⟩ := Outcome.bind_eq_ok.mp hvalid
  exact ⟨hbounds, ⟨resolved, hnetwork⟩, resolveOperator_of_ok hoperator⟩

end ClientConfig

namespace NetworkSection

/-- A network known by name has its own nodes, whatever takes precedence over the rest of it. -/
theorem addresses_of_preset {s : NetworkSection} {name : String} {resolved : ResolvedNetwork}
    (hresolve : s.resolvePreset name = .ok resolved) :
    ∃ preset : NetworkPreset, resolved.addresses = preset.nodes := by
  obtain ⟨preset, _, hresolve⟩ := Outcome.bind_eq_ok.mp hresolve
  refine ⟨preset, ?_⟩
  cases hledger : s.ledgerId with
  | none =>
      simp only [hledger] at hresolve
      cases hresolve
      rfl
  | some hex =>
      simp only [hledger] at hresolve
      obtain ⟨ledgerId, _, hresolve⟩ := Outcome.bind_eq_ok.mp hresolve
      cases hresolve
      rfl

theorem addresses_ne_nil {s : NetworkSection} {resolved : ResolvedNetwork}
    (hresolve : s.resolve = .ok resolved) : resolved.addresses ≠ [] := by
  unfold resolve at hresolve
  split at hresolve
  next => cases hresolve
  next => cases hresolve
  next name _ _ =>
    obtain ⟨preset, hsame⟩ := addresses_of_preset hresolve
    rw [hsame]
    cases preset <;> decide
  next node rest _ hnodes =>
    unfold resolveNodes at hresolve
    split at hresolve
    next => cases hresolve
    next hex _ =>
      obtain ⟨addresses, haddresses, hresolve⟩ := Outcome.bind_eq_ok.mp hresolve
      obtain ⟨ledgerId, _, hresolve⟩ := Outcome.bind_eq_ok.mp hresolve
      cases hresolve
      -- The list is not empty, and each entry that is read gives an address.
      rw [hnodes, List.mapM_cons] at haddresses
      obtain ⟨first, _, haddresses⟩ := Outcome.bind_eq_ok.mp haddresses
      obtain ⟨others, _, haddresses⟩ := Outcome.bind_eq_ok.mp haddresses
      cases haddresses
      simp

end NetworkSection

/-! ### Setting up -/

namespace ClientSetup

def keys (resolved : ResolvedNetwork) : List (UInt64 × UInt64 × UInt64) :=
  resolved.addresses.map fun address => address.account.key

def members (c : ClientConfig) (resolved : ResolvedNetwork) : List Member :=
  (Network.enlist c.networkOptions.backoff (fun _ => none) resolved.addresses .empty).1

theorem keys_members (c : ClientConfig) (resolved : ResolvedNetwork) :
    (members c resolved).map (fun member => member.account.key) = keys resolved :=
  Network.keys_enlist _ (by simp) resolved.addresses .empty

/-- Behind the checks, a client is set up just where its network is put together. -/
theorem ofConfig_of_validate (surroundings : Surroundings ω χ) {c : ClientConfig}
    (hvalid : c.validate = .ok ()) {resolved : ResolvedNetwork}
    (hresolve : c.network.resolve = .ok resolved) :
    ∃ client health, ofConfig surroundings c =
      (Network.assemble (members c resolved) resolved.ledgerId resolved.mirror
        c.networkOptions).map fun network => ⟨client, network, health⟩ := by
  obtain ⟨hbounds, _, operator, hoperator⟩ := ClientConfig.validate_eq_ok (ω := ω) hvalid
  let client : Client ω χ :=
    { surroundings, operator, settings := c.executeSettings, autoValidate := c.autoValidate }
  let health : HealthBook :=
    (Network.enlist c.networkOptions.backoff (fun _ => none) resolved.addresses .empty).2
  refine ⟨client.withMaxNodes c.maxNodes, health, ?_⟩
  refine (Outcome.bind_of_ok hvalid _).trans ((Outcome.bind_of_ok hresolve _).trans ?_)
  have hnetwork : (Network.ofAddresses resolved.addresses resolved.ledgerId resolved.mirror
      c.networkOptions .empty : Outcome (Network χ × HealthBook)) =
        (Network.assemble (members c resolved) resolved.ledgerId resolved.mirror
          c.networkOptions).map fun network => (network, health) := by
    refine (Outcome.bind_of_ok hbounds _).trans ?_
    change (do
      let network ← Network.assemble (members c resolved) resolved.ledgerId resolved.mirror
        c.networkOptions
      pure (network, health)) = _
    cases (Network.assemble (members c resolved) _ _ _ : Outcome (Network χ)) <;> rfl
  rw [hnetwork]
  cases (Network.assemble (members c resolved) _ _ _ : Outcome (Network χ)) with
  | error error => rfl
  | ok network => exact Outcome.bind_of_ok hoperator _

theorem ofConfig_of_invalid (surroundings : Surroundings ω χ) {c : ClientConfig}
    {error : ClientError} (hinvalid : c.validate = .error error) : ofConfig surroundings c = .error error := by
  unfold ofConfig
  rw [hinvalid]
  rfl

theorem exists_setup_of_nodup (surroundings : Surroundings ω χ) {c : ClientConfig}
    (hvalid : c.validate = .ok ()) {resolved : ResolvedNetwork}
    (hresolve : c.network.resolve = .ok resolved) (hnodup : (keys resolved).Nodup) :
    ∃ setup, ofConfig surroundings c = .ok setup := by
  obtain ⟨client, health, hsetup⟩ := ofConfig_of_validate surroundings hvalid hresolve
  have hsome : members c resolved ≠ [] := by
    intro hnone
    have hkeys := keys_members c resolved
    rw [hnone] at hkeys
    exact NetworkSection.addresses_ne_nil hresolve (List.map_eq_nil_iff.mp hkeys.symm)
  obtain ⟨network, hnetwork⟩ := Network.assemble_of_nodup (χ := χ) hsome
    ((keys_members c resolved).symm ▸ hnodup) resolved.ledgerId resolved.mirror c.networkOptions
  rw [hnetwork] at hsetup
  exact ⟨_, hsetup⟩

theorem ofConfig_of_not_nodup (surroundings : Surroundings ω χ) {c : ClientConfig}
    (hvalid : c.validate = .ok ()) {resolved : ResolvedNetwork}
    (hresolve : c.network.resolve = .ok resolved) (htwice : ¬ (keys resolved).Nodup) :
    ∃ account, ofConfig surroundings c = .error (.config (.duplicateNode account)) ∧
      2 ≤ (keys resolved).count account.key := by
  obtain ⟨client, health, hsetup⟩ := ofConfig_of_validate surroundings hvalid hresolve
  obtain ⟨account, hnetwork, hcount⟩ := Network.assemble_of_not_nodup (χ := χ)
    ((keys_members c resolved).symm ▸ htwice) resolved.ledgerId resolved.mirror c.networkOptions
  rw [hnetwork] at hsetup
  rw [keys_members] at hcount
  exact ⟨account, hsetup, hcount⟩

/-- A configuration sets up a client just where it passes the checks and no two of its nodes have
one account. A check that fails is why there is no client; behind the checks, it is an account that
comes twice. -/
theorem ofConfig_outcome (surroundings : Surroundings ω χ) (c : ClientConfig) :
    ((∃ setup, ofConfig surroundings c = .ok setup) ↔
      c.validate = .ok () ∧ ∃ resolved, c.network.resolve = .ok resolved ∧ (keys resolved).Nodup) ∧
    (∀ error, c.validate = .error error → ofConfig surroundings c = .error error) ∧
    (c.validate = .ok () → ∀ error, ofConfig surroundings c = .error error →
      ∃ resolved account, c.network.resolve = .ok resolved ∧
        2 ≤ (keys resolved).count account.key ∧ error = .config (.duplicateNode account)) := by
  refine ⟨⟨?_, ?_⟩, fun error hinvalid => ofConfig_of_invalid surroundings hinvalid, ?_⟩
  · rintro ⟨setup, hmade⟩
    cases hvalid : c.validate with
    | error error => cases (ofConfig_of_invalid surroundings hvalid).symm.trans hmade
    | ok =>
        obtain ⟨_, ⟨resolved, hresolve⟩, _⟩ := ClientConfig.validate_eq_ok (ω := Unit) hvalid
        refine ⟨rfl, resolved, hresolve, ?_⟩
        by_contra htwice
        obtain ⟨_, hrefused, _⟩ := ofConfig_of_not_nodup surroundings hvalid hresolve htwice
        cases hrefused.symm.trans hmade
  · rintro ⟨hvalid, resolved, hresolve, hnodup⟩
    exact exists_setup_of_nodup surroundings hvalid hresolve hnodup
  · intro hvalid error hrefused
    obtain ⟨_, ⟨resolved, hresolve⟩, _⟩ := ClientConfig.validate_eq_ok (ω := Unit) hvalid
    by_cases hnodup : (keys resolved).Nodup
    · obtain ⟨_, hmade⟩ := exists_setup_of_nodup surroundings hvalid hresolve hnodup
      cases hmade.symm.trans hrefused
    · obtain ⟨account, hfound, hcount⟩ := ofConfig_of_not_nodup surroundings hvalid hresolve hnodup
      exact ⟨resolved, account, hresolve, hcount,
        Except.error.inj (hrefused.symm.trans hfound)⟩

/-- A configuration that lists two nodes, of accounts given in words. -/
def twoNodes (first second : String) : ClientConfig where
  network := {
    nodes := [⟨first, "one.example:50211", none⟩, ⟨second, "two.example:50211", none⟩]
    ledgerId := some "03" }

theorem ofConfig_outcome_two_accounts :
    (twoNodes "0.0.3" "0.0.4").validate = .ok () ∧
      ∃ setup, ofConfig Execution.scripted (twoNodes "0.0.3" "0.0.4") = .ok setup := by
  have hvalid : (twoNodes "0.0.3" "0.0.4").validate = .ok () := by rfl
  obtain ⟨hiff, _⟩ := ofConfig_outcome Execution.scripted (twoNodes "0.0.3" "0.0.4")
  exact ⟨hvalid, hiff.mpr ⟨hvalid, _, rfl, by decide +kernel⟩⟩

/-- A list with an account that comes twice passes the checks, and sets up no client. -/
theorem validate_accepts_one_account_twice :
    (twoNodes "0.0.3" "0.0.3").validate = .ok () ∧
      ofConfig Execution.scripted (twoNodes "0.0.3" "0.0.3") =
        .error (.config (.duplicateNode (.ofNum 3))) := by
  exact ⟨rfl, rfl⟩

end ClientSetup

end LedgerClient
