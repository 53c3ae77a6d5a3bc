import LedgerClient.Error

/-!
# Steps that may fail

What is done in steps is done if no step fails, and otherwise it ends in the error of the first
step that does.
-/

namespace LedgerClient.Outcome

variable {α β : Type}

/-- What is done in two steps succeeds where both of them do. -/
theorem bind_eq_ok {first : Outcome α} {next : α → Outcome β} {value : β} :
    (first >>= next) = .ok value ↔ ∃ found, first = .ok found ∧ next found = .ok value := by
  cases first with
  | error error => simp [bind, Except.bind]
  | ok found => simp [bind, Except.bind]

theorem bind_of_ok {first : Outcome α} {found : α} (hfirst : first = .ok found)
    (next : α → Outcome β) : (first >>= next) = next found := by
  rw [hfirst]
  rfl

theorem bind_of_error {first : Outcome α} {error : ClientError} (hfirst : first = .error error)
    (next : α → Outcome β) : (first >>= next) = .error error := by
  rw [hfirst]
  rfl

/-! ### Checks of the items of a list -/

variable {check : α → Outcome Unit} {items : List α} {error : ClientError}

theorem forM_cons (check : α → Outcome Unit) (first : α) (rest : List α) :
    (first :: rest).forM check = (check first >>= fun _ => rest.forM check) := rfl

theorem forM_eq_ok_iff : items.forM check = .ok () ↔ ∀ item ∈ items, check item = .ok () := by
  induction items with
  | nil => exact ⟨fun _ => nofun, fun _ => rfl⟩
  | cons first rest ih =>
      rw [forM_cons, bind_eq_ok, List.forall_mem_cons, ← ih]
      exact ⟨fun ⟨_, hfirst, hrest⟩ => ⟨hfirst, hrest⟩, fun ⟨hfirst, hrest⟩ => ⟨(), hfirst, hrest⟩⟩

/-- The checks fail at the first item that does not pass. -/
theorem forM_eq_error (herror : items.forM check = .error error) :
    ∃ before item after, items = before ++ item :: after ∧
      (∀ other ∈ before, check other = .ok ()) ∧ check item = .error error := by
  induction items with
  | nil => cases herror
  | cons first rest ih =>
      rw [forM_cons] at herror
      cases hfirst : check first with
      | error other =>
          cases (bind_of_error hfirst _).symm.trans herror
          exact ⟨[], first, rest, rfl, nofun, hfirst⟩
      | ok =>
          rw [bind_of_ok hfirst] at herror
          obtain ⟨before, item, after, rfl, hbefore, hitem⟩ := ih herror
          refine ⟨first :: before, item, after, rfl, ?_, hitem⟩
          exact List.forall_mem_cons.mpr ⟨hfirst, hbefore⟩

theorem forM_map_congr {name : β → α} {others : List β} {also : β → Outcome Unit}
    (hsame : ∀ other ∈ others, check (name other) = also other) :
    (others.map name).forM check = others.forM also := by
  induction others with
  | nil => rfl
  | cons first rest ih =>
      obtain ⟨hfirst, hrest⟩ := List.forall_mem_cons.mp hsame
      rw [List.map_cons, forM_cons, forM_cons, hfirst, ih hrest]

end LedgerClient.Outcome
