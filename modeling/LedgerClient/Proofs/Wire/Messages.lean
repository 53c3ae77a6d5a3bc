import LedgerClient.Proofs.Wire.Canonical
import LedgerClient.Proofs.Wire.RoundTrip
import LedgerClient.Wire.Codec

/-!
# Messages read back

A message is read back part by part. What is lost on the way is the checksums of
the identifiers in it. And part by part, a message that is read was written so.
-/

namespace LedgerClient.Wire

open Faithful (length_pos carries)

theorem length_writeVariant_pos (index : Nat) : 0 < (writeVariant index).length := by
  rw [length_writeVariant]
  decide

/-- Sequences of values without identifiers are carried as they are. -/
theorem carries_list {α : Type} [Encoded α] [Faithful α] (hsame : ∀ value : α, carried value = value)
    (values : List α) : Carries read (write values) values := by
  have hvalues : carried values = values :=
    (List.map_congr_left fun value _ => hsame value).trans (List.map_id values)
  have hcarries := carries values
  rwa [hvalues] at hcarries

theorem carries_bytes (bytes : Bytes) : Carries read (write bytes) bytes :=
  carries_list (fun _ => rfl) bytes

instance : Faithful EntityId where
  carried := EntityId.bare
  length_pos id := length_append_pos (length_append_pos (length_pos id.shard) _) _
  carries id := by
    show Carries read (write id.shard ++ write id.realm ++ write id.num) _
    rw [List.append_assoc]
    exact (carries id.shard).bind ((carries id.realm).bind ((carries id.num).bind_pure _))

instance : Faithful Timestamp where
  carried := id
  length_pos t := length_append_pos (length_pos t.seconds) _
  carries t := (carries t.seconds).bind ((carries t.nanos).bind_pure _)

instance : Faithful TransactionId where
  carried id := { id with account := id.account.bare }
  length_pos id := length_append_pos (length_append_pos (length_append_pos
    (length_pos id.account) _) _) _
  carries id := by
    show Carries read (write id.account ++ write id.validStart ++ write id.scheduled ++
      write id.nonce) _
    simp only [List.append_assoc]
    exact (carries id.account).bind ((carries id.validStart).bind
      ((carries id.scheduled).bind ((carries id.nonce).bind_pure _)))

instance : Faithful AccountAmount where
  carried a := { a with account := a.account.bare }
  length_pos a := length_append_pos (length_pos a.account) _
  carries a := (carries a.account).bind ((carries a.amount).bind_pure _)

instance : Faithful TransactionData where
  carried
    | .cryptoTransfer transfers => .cryptoTransfer (carried transfers)
    | .submitMessage topic message => .submitMessage topic.bare message
    | .external kind payload => .external kind payload
  length_pos data := by
    cases data with
    | cryptoTransfer => exact length_append_pos (length_writeVariant_pos 0) _
    | submitMessage =>
        exact length_append_pos (length_append_pos (length_writeVariant_pos 1) _) _
    | external => exact length_append_pos (length_append_pos (length_writeVariant_pos 2) _) _
  carries data := by
    cases data with
    | cryptoTransfer transfers =>
        exact carries_variant (by decide) (by decide) ((carries transfers).bind_pure _)
    | submitMessage topic message =>
        show Carries read (writeVariant 1 ++ write topic ++ write message) _
        rw [List.append_assoc]
        exact carries_variant (by decide) (by decide)
          ((carries topic).bind ((carries_bytes message).bind_pure _))
    | external kind payload =>
        show Carries read (writeVariant 2 ++ write kind ++ write payload) _
        rw [List.append_assoc]
        exact carries_variant (by decide) (by decide)
          ((carries kind).bind ((carries_bytes payload).bind_pure _))

instance : Faithful TransactionBody where
  carried b :=
    { b with transactionId := carried b.transactionId, node := b.node.bare, data := carried b.data }
  length_pos b := length_append_pos (length_append_pos (length_append_pos (length_append_pos
    (length_append_pos (length_pos b.transactionId) _) _) _) _) _
  carries b := by
    show Carries read (write b.transactionId ++ write b.node ++ write b.fee ++
      write b.validSeconds ++ write b.memo ++ write b.data) _
    simp only [List.append_assoc]
    exact (carries b.transactionId).bind ((carries b.node).bind ((carries b.fee).bind
      ((carries b.validSeconds).bind ((carries b.memo).bind ((carries b.data).bind_pure _)))))

instance : Faithful SignaturePair where
  carried := id
  length_pos p := length_append_pos (length_pos p.publicKey) _
  carries p := (carries_bytes p.publicKey).bind ((carries_bytes p.signature).bind_pure _)

instance : Faithful SignatureMap where
  carried := id
  length_pos m := length_pos m.pairs
  carries m := (carries_list (fun _ => rfl) m.pairs).bind_pure _

instance : Faithful SignedTransaction where
  carried := id
  length_pos s := length_append_pos (length_pos s.body) _
  carries s := (carries_bytes s.body).bind ((carries s.signatures).bind_pure _)

instance : Faithful ResponseType where
  carried := id
  length_pos type := by cases type <;> exact length_writeVariant_pos _
  carries type _ := by
    cases type with
    | answerOnly => exact (takes_readVariant (by decide) (by decide)).bind_nil (.pure _)
    | costAnswer => exact (takes_readVariant (by decide) (by decide)).bind_nil (.pure _)

instance : Faithful QueryHeader where
  carried := id
  length_pos h := length_append_pos (length_pos h.payment) _
  carries h := by
    have hpayment : carried h.payment = h.payment := by cases h.payment <;> rfl
    have hcarries := carries h.payment
    rw [hpayment] at hcarries
    exact hcarries.bind ((carries h.responseType).bind_pure _)

instance : Faithful QueryBody where
  carried
    | .receipt transaction children duplicates =>
        .receipt (carried transaction) children duplicates
    | .record transaction children duplicates => .record (carried transaction) children duplicates
    | .accountBalance account => .accountBalance account.bare
    | .external kind payload => .external kind payload
  length_pos body := by
    cases body with
    | receipt =>
        exact length_append_pos (length_append_pos (length_append_pos
          (length_writeVariant_pos 0) _) _) _
    | record =>
        exact length_append_pos (length_append_pos (length_append_pos
          (length_writeVariant_pos 1) _) _) _
    | accountBalance => exact length_append_pos (length_writeVariant_pos 2) _
    | external => exact length_append_pos (length_append_pos (length_writeVariant_pos 3) _) _
  carries body := by
    cases body with
    | receipt transaction children duplicates =>
        show Carries read (writeVariant 0 ++ write transaction ++ write children ++
          write duplicates) _
        simp only [List.append_assoc]
        exact carries_variant (by decide) (by decide) ((carries transaction).bind
          ((carries children).bind ((carries duplicates).bind_pure _)))
    | record transaction children duplicates =>
        show Carries read (writeVariant 1 ++ write transaction ++ write children ++
          write duplicates) _
        simp only [List.append_assoc]
        exact carries_variant (by decide) (by decide) ((carries transaction).bind
          ((carries children).bind ((carries duplicates).bind_pure _)))
    | accountBalance account =>
        exact carries_variant (by decide) (by decide) ((carries account).bind_pure _)
    | external kind payload =>
        show Carries read (writeVariant 3 ++ write kind ++ write payload) _
        rw [List.append_assoc]
        exact carries_variant (by decide) (by decide)
          ((carries kind).bind ((carries_bytes payload).bind_pure _))

instance : Faithful QueryRequest where
  carried q := { q with body := carried q.body }
  length_pos q := length_append_pos (length_pos q.header) _
  carries q := (carries q.header).bind ((carries q.body).bind_pure _)

instance : Faithful Request where
  carried
    | .transaction signed => .transaction signed
    | .query query => .query (carried query)
  length_pos request := by
    cases request with
    | transaction => exact length_append_pos (length_writeVariant_pos 0) _
    | query => exact length_append_pos (length_writeVariant_pos 1) _
  carries request := by
    cases request with
    | transaction signed =>
        exact carries_variant (by decide) (by decide) ((carries signed).bind_pure _)
    | query query => exact carries_variant (by decide) (by decide) ((carries query).bind_pure _)

/-! ### Statuses -/

theorem index_lt_of_status (status : Status) : status.index < Status.named.length + 1 := by
  cases status with
  | other code => exact Nat.lt_succ_self Status.named.length
  | _ => decide

/-- A status with a name is written as its number. -/
theorem write_of_named {status : Status} (hnamed : ∀ code, status ≠ .other code) :
    write status = writeVariant status.index := by
  cases status with
  | other code => exact absurd rfl (hnamed code)
  | _ => rfl

theorem index_of_mem_named :
    ∀ placed ∈ Status.named.zipIdx, placed.1.1.index = placed.2 := by decide

theorem named_of_mem_named :
    ∀ entry ∈ Status.named, entry.1.index < Status.named.length := by decide

theorem named_of_index_lt {status : Status} (hindex : status.index < Status.named.length)
    (code : Int32) : status ≠ .other code := by
  rintro rfl
  exact Nat.lt_irrefl Status.named.length hindex

/-- The status at a number is the one with that number, and it has a name. -/
theorem of_ofIndex?_eq_some {index : Nat} {status : Status}
    (hstatus : Status.ofIndex? index = some status) :
    status.index = index ∧ ∀ code, status ≠ .other code := by
  unfold Status.ofIndex? at hstatus
  obtain ⟨entry, hentry, rfl⟩ := Option.map_eq_some_iff.mp hstatus
  have hplaced := List.mk_mem_zipIdx_iff_getElem?.mpr hentry
  have hmem := List.mem_of_getElem? hentry
  exact ⟨index_of_mem_named _ hplaced, named_of_index_lt (named_of_mem_named entry hmem)⟩

instance : Faithful Status where
  carried := id
  length_pos status := by
    cases status with
    | other code => exact length_append_pos (length_writeVariant_pos _) _
    | _ => exact length_writeVariant_pos _
  carries status hlength := by
    by_cases hnamed : ∀ code, status ≠ .other code
    · rw [write_of_named hnamed]
      refine (takes_readVariant (index_lt_of_status status) (by decide)).bind_nil ?_
      rw [Status.ofIndex?_index status hnamed]
      exact .pure status
    · obtain ⟨code, hcode⟩ := Classical.not_forall.mp hnamed
      rw [Classical.not_not.mp hcode] at hlength ⊢
      exact carries_variant (index_lt_of_status (.other code)) (by decide)
        ((carries code).bind_pure _) hlength

instance : Canonical Status where
  spells := by
    intro bytes status rest hread
    obtain ⟨index, hindex, middle, rfl, hstatus⟩ := readVariant_bind_eq_ok hread
    cases hfound : Status.ofIndex? index with
    | some found =>
        rw [hfound] at hstatus
        cases hstatus
        obtain ⟨rfl, hnamed⟩ := of_ofIndex?_eq_some hfound
        rw [write_of_named hnamed]
    | none =>
        rw [hfound] at hstatus
        obtain ⟨code, _, rfl, hpure⟩ := read_bind_eq_ok hstatus
        cases hpure
        -- Of all numbers below the count, only the last one has no name.
        have hlast : Status.named.length ≤ index := by
          simpa [Status.ofIndex?] using hfound
        have hindex : index = (Status.other code).index := by
          change index = Status.named.length
          omega
        rw [hindex]
        exact (List.append_assoc _ _ _).symm

/-! ### One encoding for each message -/

instance : Canonical EntityId where
  spells := by
    intro bytes id rest hread
    obtain ⟨shard, _, rfl, hrealm⟩ := read_bind_eq_ok hread
    obtain ⟨realm, _, rfl, hnum⟩ := read_bind_eq_ok hrealm
    obtain ⟨num, _, rfl, hpure⟩ := read_bind_eq_ok hnum
    cases hpure
    change _ = write shard ++ write realm ++ write num ++ rest
    simp only [List.append_assoc]

instance : Canonical Timestamp where
  spells := by
    intro bytes t rest hread
    obtain ⟨seconds, _, rfl, hnanos⟩ := read_bind_eq_ok hread
    obtain ⟨nanos, _, rfl, hpure⟩ := read_bind_eq_ok hnanos
    cases hpure
    change _ = write seconds ++ write nanos ++ rest
    simp only [List.append_assoc]

instance : Canonical TransactionId where
  spells := by
    intro bytes id rest hread
    obtain ⟨account, _, rfl, hstart⟩ := read_bind_eq_ok hread
    obtain ⟨start, _, rfl, hscheduled⟩ := read_bind_eq_ok hstart
    obtain ⟨scheduled, _, rfl, hnonce⟩ := read_bind_eq_ok hscheduled
    obtain ⟨nonce, _, rfl, hpure⟩ := read_bind_eq_ok hnonce
    cases hpure
    change _ = write account ++ write start ++ write scheduled ++ write nonce ++ rest
    simp only [List.append_assoc]

instance : Canonical AccountAmount where
  spells := by
    intro bytes leg rest hread
    obtain ⟨account, _, rfl, hamount⟩ := read_bind_eq_ok hread
    obtain ⟨amount, _, rfl, hpure⟩ := read_bind_eq_ok hamount
    cases hpure
    change _ = write account ++ write amount ++ rest
    simp only [List.append_assoc]

instance : Canonical TransactionData where
  spells := by
    intro bytes data rest hread
    obtain ⟨index, hindex, _, rfl, hdata⟩ := readVariant_bind_eq_ok hread
    have hcases : index = 0 ∨ index = 1 ∨ index = 2 := by omega
    rcases hcases with rfl | rfl | rfl
    · obtain ⟨transfers, _, rfl, hpure⟩ := read_bind_eq_ok hdata
      cases hpure
      change _ = writeVariant 0 ++ write transfers ++ rest
      simp only [List.append_assoc]
    · obtain ⟨topic, _, rfl, hmessage⟩ := read_bind_eq_ok hdata
      obtain ⟨message, _, rfl, hpure⟩ := read_bind_eq_ok hmessage
      cases hpure
      change _ = writeVariant 1 ++ write topic ++ write message ++ rest
      simp only [List.append_assoc]
    · obtain ⟨kind, _, rfl, hpayload⟩ := read_bind_eq_ok hdata
      obtain ⟨payload, _, rfl, hpure⟩ := read_bind_eq_ok hpayload
      cases hpure
      change _ = writeVariant 2 ++ write kind ++ write payload ++ rest
      simp only [List.append_assoc]

instance : Canonical TransactionBody where
  spells := by
    intro bytes body rest hread
    obtain ⟨id, _, rfl, hnode⟩ := read_bind_eq_ok hread
    obtain ⟨node, _, rfl, hfee⟩ := read_bind_eq_ok hnode
    obtain ⟨fee, _, rfl, hvalid⟩ := read_bind_eq_ok hfee
    obtain ⟨valid, _, rfl, hmemo⟩ := read_bind_eq_ok hvalid
    obtain ⟨memo, _, rfl, hdata⟩ := read_bind_eq_ok hmemo
    obtain ⟨data, _, rfl, hpure⟩ := read_bind_eq_ok hdata
    cases hpure
    change _ =
      write id ++ write node ++ write fee ++ write valid ++ write memo ++ write data ++ rest
    simp only [List.append_assoc]

instance : Canonical SignaturePair where
  spells := by
    intro bytes pair rest hread
    obtain ⟨key, _, rfl, hsignature⟩ := read_bind_eq_ok hread
    obtain ⟨signature, _, rfl, hpure⟩ := read_bind_eq_ok hsignature
    cases hpure
    change _ = write key ++ write signature ++ rest
    simp only [List.append_assoc]

instance : Canonical SignatureMap where
  spells := by
    intro bytes map rest hread
    obtain ⟨pairs, _, rfl, hpure⟩ := read_bind_eq_ok hread
    cases hpure
    rfl

instance : Canonical SignedTransaction where
  spells := by
    intro bytes signed rest hread
    obtain ⟨body, _, rfl, hsignatures⟩ := read_bind_eq_ok hread
    obtain ⟨signatures, _, rfl, hpure⟩ := read_bind_eq_ok hsignatures
    cases hpure
    change _ = write body ++ write signatures ++ rest
    simp only [List.append_assoc]

instance : Canonical ResponseType where
  spells := by
    intro bytes type rest hread
    obtain ⟨index, hindex, _, rfl, hpure⟩ := readVariant_bind_eq_ok hread
    have hcases : index = 0 ∨ index = 1 := by omega
    rcases hcases with rfl | rfl
    · cases hpure
      rfl
    · cases hpure
      rfl

instance : Canonical QueryHeader where
  spells := by
    intro bytes header rest hread
    obtain ⟨payment, _, rfl, htype⟩ := read_bind_eq_ok hread
    obtain ⟨type, _, rfl, hpure⟩ := read_bind_eq_ok htype
    cases hpure
    change _ = write payment ++ write type ++ rest
    simp only [List.append_assoc]

instance : Canonical QueryBody where
  spells := by
    intro bytes body rest hread
    obtain ⟨index, hindex, _, rfl, hbody⟩ := readVariant_bind_eq_ok hread
    have hcases : index = 0 ∨ index = 1 ∨ index = 2 ∨ index = 3 := by omega
    rcases hcases with rfl | rfl | rfl | rfl
    · obtain ⟨transaction, _, rfl, hchildren⟩ := read_bind_eq_ok hbody
      obtain ⟨children, _, rfl, hduplicates⟩ := read_bind_eq_ok hchildren
      obtain ⟨duplicates, _, rfl, hpure⟩ := read_bind_eq_ok hduplicates
      cases hpure
      change _ = writeVariant 0 ++ write transaction ++ write children ++ write duplicates ++ rest
      simp only [List.append_assoc]
    · obtain ⟨transaction, _, rfl, hchildren⟩ := read_bind_eq_ok hbody
      obtain ⟨children, _, rfl, hduplicates⟩ := read_bind_eq_ok hchildren
      obtain ⟨duplicates, _, rfl, hpure⟩ := read_bind_eq_ok hduplicates
      cases hpure
      change _ = writeVariant 1 ++ write transaction ++ write children ++ write duplicates ++ rest
      simp only [List.append_assoc]
    · obtain ⟨account, _, rfl, hpure⟩ := read_bind_eq_ok hbody
      cases hpure
      change _ = writeVariant 2 ++ write account ++ rest
      simp only [List.append_assoc]
    · obtain ⟨kind, _, rfl, hpayload⟩ := read_bind_eq_ok hbody
      obtain ⟨payload, _, rfl, hpure⟩ := read_bind_eq_ok hpayload
      cases hpure
      change _ = writeVariant 3 ++ write kind ++ write payload ++ rest
      simp only [List.append_assoc]

instance : Canonical QueryRequest where
  spells := by
    intro bytes query rest hread
    obtain ⟨header, _, rfl, hbody⟩ := read_bind_eq_ok hread
    obtain ⟨body, _, rfl, hpure⟩ := read_bind_eq_ok hbody
    cases hpure
    change _ = write header ++ write body ++ rest
    simp only [List.append_assoc]

instance : Canonical Request where
  spells := by
    intro bytes request rest hread
    obtain ⟨index, hindex, _, rfl, hrequest⟩ := readVariant_bind_eq_ok hread
    have hcases : index = 0 ∨ index = 1 := by omega
    rcases hcases with rfl | rfl
    · obtain ⟨signed, _, rfl, hpure⟩ := read_bind_eq_ok hrequest
      cases hpure
      change _ = writeVariant 0 ++ write signed ++ rest
      simp only [List.append_assoc]
    · obtain ⟨query, _, rfl, hpure⟩ := read_bind_eq_ok hrequest
      cases hpure
      change _ = writeVariant 1 ++ write query ++ rest
      simp only [List.append_assoc]

end LedgerClient.Wire
