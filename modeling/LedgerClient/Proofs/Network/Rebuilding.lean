import LedgerClient.Proofs.Execution.Course
import LedgerClient.Proofs.Network.Assembly
import LedgerClient.Proofs.Network.Choice
import LedgerClient.Proofs.Node.Health
import LedgerClient.Proofs.Outcome
import LedgerClient.Scene

/-!
# What a rebuilt network takes over

A network that is put over other addresses keeps the nodes whose address it already has, each
with its health record, so what is entered in the record through either of the two networks
shows in both. All other nodes start with a record of their own. Where the addresses make no
network, nothing has changed.
-/

namespace LedgerClient

variable {ω χ : Type}

namespace Network

/-! ### Nodes by account and by address -/

theorem member?_eq_some_iff {network : Network χ} {account : AccountId} {member : Member} :
    network.member? account = some member ↔
      member ∈ network.members ∧ (member.account == account) = true := by
  unfold member?
  constructor
  · intro hfound
    exact ⟨List.mem_of_find?_eq_some hfound,
      List.find?_some (p := fun member : Member => member.account == account) hfound⟩
  · rintro ⟨hmember, haccount⟩
    cases hfound : network.members.find? (·.account == account) with
    | none => exact absurd haccount (List.find?_eq_none.mp hfound member hmember)
    | some other =>
        have hother := List.find?_some hfound
        have hkey : other.account.key = member.account.key :=
          (EntityId.beq_iff.mp hother).trans (EntityId.beq_iff.mp haccount).symm
        rw [eq_of_key_eq (List.mem_of_find?_eq_some hfound) hmember hkey]

theorem known?_eq_some_iff {network : Network χ} {address : NodeAddress} {member : Member} :
    network.known? address = some member ↔
      member ∈ network.members ∧ (member.address == address) = true := by
  unfold known?
  rw [Option.filter_eq_some_iff, member?_eq_some_iff]
  constructor
  · rintro ⟨⟨hmember, _⟩, hequal⟩
    exact ⟨hmember, hequal⟩
  · rintro ⟨hmember, hequal⟩
    exact ⟨⟨hmember, (NodeAddress.beq_iff.mp hequal).1⟩, hequal⟩

theorem known?_eq_none_iff {network : Network χ} {address : NodeAddress} :
    network.known? address = none ↔
      ∀ member ∈ network.members, (member.address == address) = false := by
  rw [Option.eq_none_iff_forall_ne_some]
  simp only [ne_eq, known?_eq_some_iff, not_and, Bool.not_eq_true]

/-! ### Records of a network -/

/-- The records of the nodes are in a book. -/
def IsRegistered (network : Network χ) (book : HealthBook) : Prop :=
  ∀ member ∈ network.members, member.number < book.next

theorem IsRegistered.of_le {network : Network χ} {book grown : HealthBook}
    (hregistered : network.IsRegistered book) (hnext : book.next ≤ grown.next) :
    network.IsRegistered grown :=
  fun member hmember => Nat.lt_of_lt_of_le (hregistered member hmember) hnext

/-- A network of given addresses has its records in the book that it comes with. -/
theorem isRegistered_of_ofAddresses {addresses : List NodeAddress} {ledgerId : LedgerId}
    {mirror : Option String} {options : NetworkOptions} {book grown : HealthBook}
    {network : Network χ}
    (hmade : ofAddresses addresses ledgerId mirror options book = .ok (network, grown)) :
    network.IsRegistered grown := by
  obtain ⟨_, _, hlisted⟩ := Outcome.bind_eq_ok.mp hmade
  obtain ⟨assembled, hassembled, hdone⟩ := Outcome.bind_eq_ok.mp hlisted
  cases hdone
  intro member hmember
  rw [(assemble_eq_ok hassembled).1] at hmember
  exact number_lt_of_mem_enlist _ _ (fun _ _ hsome => by cases hsome) hmember

/-! ### The rebuilt network -/

/-- A node for an address, where an old network has its records in a book: the node of the old
network that has an equal address, or a node of its own with a fresh record. -/
inductive IsNodeFor (old : Network χ) (book grown : HealthBook) (member : Member)
    (address : NodeAddress) : Prop where
  | kept (hmember : member ∈ old.members) (hequal : (member.address == address) = true)
      (hrecord : grown.get member.record = book.get member.record)
  | fresh (hnone : ∀ other ∈ old.members, (other.address == address) = false)
      (haddress : member.address = address)
      (hnew : ∀ other ∈ old.members, other.record ≠ member.record)
      (hfresh : grown.get member.record = .fresh old.options.backoff)

/-- A network is another one put over other addresses, where their records are in a book that has
grown with the new one. -/
structure IsRebuilt (surroundings : Surroundings ω χ) (old : Network χ)
    (addresses : List NodeAddress) (book : HealthBook) (new : Network χ) (grown : HealthBook) :
    Prop where
  listed : List.Forall₂ (IsNodeFor old book grown) new.members addresses
  found : ∀ account member, new.member? account = some member ↔
    member ∈ new.members ∧ (member.account == account) = true
  untouched : ∀ member ∈ old.members, grown.get member.record = book.get member.record
  ledgerId : new.ledgerId = old.ledgerId
  mirror : new.mirror = old.mirror
  options : new.options = old.options
  /-- A node is reached as the old network would reach it: over the channel that was kept for its
  endpoint, or over one that is opened in the same way. -/
  reached : ∀ member ∈ new.members, ∀ allowed world,
    (new.channel surroundings member allowed world).1 =
        (old.channel surroundings member allowed world).1 ∧
      (new.channel surroundings member allowed world).2.2 =
        (old.channel surroundings member allowed world).2.2

theorem forall₂_isNodeFor {old : Network χ} {book : HealthBook}
    (hregistered : old.IsRegistered book) (addresses : List NodeAddress) :
    let enlisted := enlist old.options.backoff old.known? addresses book
    List.Forall₂ (IsNodeFor old book enlisted.2) enlisted.1 addresses := by
  intro enlisted
  apply (enlist_spec old.options.backoff old.known? addresses book).imp
  rintro member address (hknown | ⟨hnone, haddress, hle, _, hfresh⟩)
  · obtain ⟨hmember, hequal⟩ := known?_eq_some_iff.mp hknown
    exact .kept hmember hequal (get_enlist_of_lt _ _ _ (hregistered member hmember))
  · refine .fresh (known?_eq_none_iff.mp hnone) haddress (fun other hother hrecord => ?_) hfresh
    have hnumber : other.number = member.number := congrArg RecordName.number hrecord
    exact absurd (hregistered other hother) (by omega)

theorem lookup_filter {used : String → Bool} {endpoint : String} (hused : used endpoint = true)
    (channels : List (String × χ)) :
    (channels.filter fun placed => used placed.1).lookup endpoint = channels.lookup endpoint := by
  induction channels with
  | nil => rfl
  | cons placed rest ih =>
      by_cases hplaced : used placed.1 = true
      · rw [List.filter_cons, if_pos hplaced, List.lookup_cons, List.lookup_cons, ih]
      · have hother : (endpoint == placed.1) = false := by
          apply beq_false_of_ne
          rintro rfl
          exact hplaced hused
        rw [List.filter_cons, if_neg hplaced, ih, List.lookup_cons, hother]

theorem lookup_inherit {network rebuilt : Network χ} {member : Member}
    (hmember : member ∈ rebuilt.members) :
    (network.inherit rebuilt).1.channels.lookup (rebuilt.endpoint member) =
      network.channels.lookup (rebuilt.endpoint member) := by
  simp only [inherit, List.partition_eq_filter_filter]
  exact lookup_filter (List.contains_iff_mem.mpr (List.mem_map_of_mem hmember)) network.channels

/-- Two networks with the same settings and the same channel for an endpoint reach it alike. -/
theorem channel_congr {a b : Network χ} {member : Member} (hoptions : a.options = b.options)
    (hlookup : a.channels.lookup (a.endpoint member) = b.channels.lookup (a.endpoint member))
    (surroundings : Surroundings ω χ) (allowed : Duration) (world : ω) :
    (a.channel surroundings member allowed world).1 =
        (b.channel surroundings member allowed world).1 ∧
      (a.channel surroundings member allowed world).2.2 =
        (b.channel surroundings member allowed world).2.2 := by
  have hendpoint : b.endpoint member = a.endpoint member := by simp only [endpoint, hoptions]
  unfold channel
  simp only [hendpoint, ← hoptions, hlookup]
  split
  · exact ⟨rfl, rfl⟩
  · split
    · exact ⟨rfl, rfl⟩
    · exact ⟨rfl, rfl⟩

/-- Whatever is assembled of the nodes for some addresses is the network put over them. -/
theorem isRebuilt_of_assemble {old assembled : Network χ} {book : HealthBook}
    (hregistered : old.IsRegistered book) {addresses : List NodeAddress}
    (hmade : assemble (enlist old.options.backoff old.known? addresses book).1 old.ledgerId
      old.mirror old.options = .ok assembled) (surroundings : Surroundings ω χ) :
    IsRebuilt surroundings old addresses book (old.inherit assembled).1
      (enlist old.options.backoff old.known? addresses book).2 := by
  obtain ⟨hmembers, hledgerId, hmirror, hoptions, _⟩ := assemble_eq_ok hmade
  constructor
  · change List.Forall₂ _ assembled.members addresses
    rw [hmembers]
    exact forall₂_isNodeFor hregistered addresses
  · intro account member
    exact member?_eq_some_iff
  · intro member hmember
    exact get_enlist_of_lt _ _ _ (hregistered member hmember)
  · exact hledgerId
  · exact hmirror
  · exact hoptions
  · intro member hmember allowed world
    exact channel_congr (a := (old.inherit assembled).1) hoptions (lookup_inherit hmember)
      surroundings allowed world

/-! ### When a rebuilding fails -/

/-- No two of the addresses are for one account. -/
def HaveOwnAccounts (addresses : List NodeAddress) : Prop :=
  addresses.Pairwise fun a b => (a.account == b.account) = false

instance (addresses : List NodeAddress) : Decidable (HaveOwnAccounts addresses) :=
  inferInstanceAs (Decidable (addresses.Pairwise _))

theorem haveOwnAccounts_iff {addresses : List NodeAddress} :
    HaveOwnAccounts addresses ↔ (addresses.map fun address => address.account.key).Nodup := by
  unfold HaveOwnAccounts List.Nodup
  rw [List.pairwise_map]
  simp only [ne_eq, ← EntityId.beq_iff, Bool.not_eq_true]

theorem address_eq_of_known?_eq_some (network : Network χ) (address : NodeAddress)
    (member : Member) (hknown : network.known? address = some member) :
    (member.address == address) = true :=
  (known?_eq_some_iff.mp hknown).2

/-- An assembly for addresses succeeds where there are some, each for an account of its own. -/
theorem assemble_enlist_eq_ok_iff (old : Network χ) (addresses : List NodeAddress)
    (book : HealthBook) :
    (∃ assembled : Network χ, assemble (enlist old.options.backoff old.known? addresses book).1
        old.ledgerId old.mirror old.options = .ok assembled) ↔
      addresses ≠ [] ∧ HaveOwnAccounts addresses := by
  have hkeys := keys_enlist old.options.backoff old.address_eq_of_known?_eq_some addresses book
  rw [haveOwnAccounts_iff, ← hkeys]
  constructor
  · rintro ⟨assembled, hmade⟩
    have hnodup := assembled.keys_nodup
    have hsome := assembled.members_ne_nil
    rw [(assemble_eq_ok hmade).1] at hnodup hsome
    refine ⟨?_, hnodup⟩
    rintro rfl
    exact hsome rfl
  · rintro ⟨hsome, hnodup⟩
    refine assemble_of_nodup (fun hnil => hsome ?_) hnodup _ _ _
    rw [hnil] at hkeys
    exact List.map_eq_nil_iff.mp hkeys.symm

/-- What an assembly for addresses that fails complains of. -/
theorem error_of_assemble_enlist {old : Network χ} {addresses : List NodeAddress}
    {book : HealthBook} {error : ClientError}
    (herror : (assemble (enlist old.options.backoff old.known? addresses book).1
      old.ledgerId old.mirror old.options : Outcome (Network χ)) = .error error) :
    addresses = [] ∧ error = .config .emptyNetwork ∨
      ∃ account, 2 ≤ addresses.countP (·.account == account) ∧
        error = .config (.duplicateNode account) := by
  have hkeys := keys_enlist old.options.backoff old.address_eq_of_known?_eq_some addresses book
  by_cases hempty : addresses = []
  · subst hempty
    cases herror
    exact .inl ⟨rfl, rfl⟩
  · right
    have hrepeats : ¬ HaveOwnAccounts addresses := by
      intro hdistinct
      obtain ⟨assembled, hmade⟩ :=
        (assemble_enlist_eq_ok_iff old addresses book).mpr ⟨hempty, hdistinct⟩
      cases herror.symm.trans hmade
    rw [haveOwnAccounts_iff, ← hkeys] at hrepeats
    obtain ⟨account, hduplicate, htwice⟩ :=
      @assemble_of_not_nodup χ _ hrepeats old.ledgerId old.mirror old.options
    cases herror.symm.trans hduplicate
    refine ⟨account, ?_, rfl⟩
    rw [hkeys, List.count_eq_countP, List.countP_map] at htwice
    exact htwice

/-! ### Records that two networks share -/

/-- One of two networks: one that was there, and the one that was rebuilt from it. -/
inductive Side where
  | old
  | new
  deriving DecidableEq

/-- An entry that is made in the record of the node of an account, as one of two networks has
it. -/
structure Report where
  side : Side
  account : AccountId
  entry : Health.Entry

/-- What a network tells of the health of an account's node. -/
def health? (network : Network χ) (book : HealthBook) (account : AccountId) : Option Health :=
  (network.member? account).map fun member => book.get member.record

namespace Side

/-- The network of the side. -/
def of (old new : Network χ) : Side → Network χ
  | .old => old
  | .new => new

end Side

namespace Report

variable (old new : Network χ)

/-- The node whose record the entry is made in. -/
def member? (report : Report) : Option Member := (report.side.of old new).member? report.account

/-- Makes the entry, if the network has the node. -/
def file (book : HealthBook) (report : Report) : HealthBook :=
  match report.member? old new with
  | none => book
  | some member => book.modify member.record (·.enter report.entry)

/-- Whether the entry is made in a given record. -/
def isFiledUnder (name : RecordName) (report : Report) : Bool :=
  (report.member? old new).any fun member => member.record == name

/-- The entries of reports on an account, in order. -/
def entriesOn (account : AccountId) (reports : List Report) : List Health.Entry :=
  (reports.filter fun report => report.account == account).map entry

theorem get_file (book : HealthBook) (report : Report) (name : RecordName) :
    (file old new book report).get name =
      if report.isFiledUnder old new name then (book.get name).enter report.entry
      else book.get name := by
  unfold file isFiledUnder
  cases report.member? old new with
  | none => rfl
  | some member => simp only [HealthBook.get_modify, Option.any_some, beq_iff_eq]

/-- After reports, a record holds the entries of those that are filed under its name. -/
theorem get_foldl_file (reports : List Report) (book : HealthBook) (name : RecordName) :
    (reports.foldl (file old new) book).get name =
      ((reports.filter (isFiledUnder old new name)).map entry).foldl Health.enter
        (book.get name) := by
  induction reports generalizing book with
  | nil => rfl
  | cons report rest ih =>
      rw [List.foldl_cons, ih, get_file]
      by_cases hfiled : report.isFiledUnder old new name = true
      · rw [if_pos hfiled, List.filter_cons_of_pos hfiled, List.map_cons, List.foldl_cons]
      · rw [if_neg hfiled, List.filter_cons_of_neg hfiled]

variable {old new}

/-- Through a network that has a node, an entry goes in its record exactly when it is made under
its account. -/
theorem isFiledUnder_of_mem {report : Report} {member : Member}
    (hmember : member ∈ (report.side.of old new).members) :
    report.isFiledUnder old new member.record = (report.account == member.account) := by
  rw [Bool.eq_iff_iff, isFiledUnder, Option.any_eq_true]
  constructor
  · rintro ⟨other, hfound, hrecord⟩
    obtain ⟨hother, haccount⟩ := member?_eq_some_iff.mp hfound
    have hsame := (record_eq_iff hother hmember).mp (beq_iff_eq.mp hrecord)
    exact BEq.trans (BEq.symm haccount) hsame
  · intro haccount
    exact ⟨member, member?_eq_some_iff.mpr ⟨hmember, BEq.symm haccount⟩, beq_iff_eq.mpr rfl⟩

theorem isFiledUnder_of_forall_ne {report : Report} {name : RecordName}
    (hforeign : ∀ other ∈ (report.side.of old new).members, other.record ≠ name) :
    report.isFiledUnder old new name = false := by
  apply Bool.eq_false_iff.mpr
  intro hfiled
  rw [isFiledUnder, Option.any_eq_true] at hfiled
  obtain ⟨other, hfound, hrecord⟩ := hfiled
  exact hforeign other (member?_eq_some_iff.mp hfound).1 (beq_iff_eq.mp hrecord)

/-- A node that one side has, and whose record the other side does not, has the entries made
through its own side. -/
theorem entries_of_one_side (side : Side) {member : Member}
    (hmember : member ∈ (side.of old new).members)
    (hforeign : ∀ other ≠ side, ∀ node ∈ (other.of old new).members, node.record ≠ member.record)
    (reports : List Report) :
    (reports.filter (isFiledUnder old new member.record)).map entry =
      entriesOn member.account (reports.filter fun report => report.side = side) := by
  unfold entriesOn
  rw [List.filter_filter]
  congr 1
  apply List.filter_congr
  intro report _
  by_cases hside : report.side = side
  · rw [isFiledUnder_of_mem (by rwa [hside]), decide_eq_true hside, Bool.and_true]
  · rw [isFiledUnder_of_forall_ne (hforeign _ hside), decide_eq_false hside, Bool.and_false]

theorem entries_of_both_sides {member : Member} (hold : member ∈ old.members)
    (hnew : member ∈ new.members) (reports : List Report) :
    (reports.filter (isFiledUnder old new member.record)).map entry =
      entriesOn member.account reports := by
  unfold entriesOn
  congr 1
  apply List.filter_congr
  rintro ⟨side, account, entry⟩ _
  cases side with
  | old => exact isFiledUnder_of_mem hold
  | new => exact isFiledUnder_of_mem hnew

end Report

theorem health?_eq_some {network : Network χ} {member : Member}
    (hmember : member ∈ network.members) (book : HealthBook) :
    network.health? book member.account = some (book.get member.record) := by
  unfold health?
  rw [member?_eq_some_iff.mpr ⟨hmember, BEq.rfl⟩]
  rfl

/-- What two networks tell after any reports through them, where the second was rebuilt from the
first: of a node of both they tell the same, which has all that was reported on it. Of a node of
one of them, that one tells what was reported through it; and if the node is new, from nothing. -/
structure ShareRecords (old new : Network χ) (book grown : HealthBook) : Prop where
  shared : ∀ member ∈ old.members, member ∈ new.members → ∀ reports : List Report,
    let later := reports.foldl (Report.file old new) grown
    let told := (Report.entriesOn member.account reports).foldl .enter (book.get member.record)
    old.health? later member.account = some told ∧ new.health? later member.account = some told
  left : ∀ member ∈ old.members, member ∉ new.members → ∀ reports : List Report,
    old.health? (reports.foldl (Report.file old new) grown) member.account =
      some ((Report.entriesOn member.account
        (reports.filter fun report => report.side = .old)).foldl .enter (book.get member.record))
  fresh : ∀ member ∈ new.members, member ∉ old.members → ∀ reports : List Report,
    new.health? (reports.foldl (Report.file old new) grown) member.account =
      some (.ofEntries old.options.backoff (Report.entriesOn member.account
        (reports.filter fun report => report.side = .new)))

theorem IsRebuilt.shareRecords {surroundings : Surroundings ω χ} {old new : Network χ}
    {addresses : List NodeAddress} {book grown : HealthBook}
    (hrebuilt : IsRebuilt surroundings old addresses book new grown) :
    ShareRecords old new book grown := by
  -- A record of both networks is that of a node of both.
  have hshared : ∀ node ∈ new.members, ∀ other ∈ old.members, other.record = node.record →
      node = other := by
    intro node hnode other hother hrecord
    obtain ⟨_, _, ⟨hkept, _, _⟩ | ⟨_, _, hnew, _⟩⟩ := exists_address_of_mem hrebuilt.listed hnode
    · exact eq_of_record_eq hkept hother hrecord.symm
    · exact absurd hrecord (hnew other hother)
  constructor
  · intro member hold hnew reports later told
    have hlater : later.get member.record = told := by
      simp only [later, told, Report.get_foldl_file, Report.entries_of_both_sides hold hnew,
        hrebuilt.untouched member hold]
    rw [health?_eq_some hold, health?_eq_some hnew, hlater]
    exact ⟨rfl, rfl⟩
  · intro member hold hgone reports
    have hforeign : ∀ other ≠ Side.old, ∀ node ∈ (other.of old new).members,
        node.record ≠ member.record := by
      rintro (_ | _) hother node hnode hrecord
      · exact hother rfl
      · exact hgone (hshared node hnode member hold hrecord.symm ▸ hnode)
    rw [health?_eq_some hold, Report.get_foldl_file,
      Report.entries_of_one_side .old hold hforeign, hrebuilt.untouched member hold]
  · intro member hnew hunknown reports
    have hforeign : ∀ other ≠ Side.new, ∀ node ∈ (other.of old new).members,
        node.record ≠ member.record := by
      rintro (_ | _) hother node hnode hrecord
      · exact hunknown (hshared member hnew node hnode hrecord ▸ hnode)
      · exact hother rfl
    obtain ⟨_, _, ⟨hkept, _, _⟩ | ⟨_, _, _, hfresh⟩⟩ := exists_address_of_mem hrebuilt.listed hnew
    · exact absurd hkept hunknown
    · rw [health?_eq_some hnew, Report.get_foldl_file,
        Report.entries_of_one_side .new hnew hforeign, hfresh]
      rfl

end Network

namespace Scene

open Network

/-- Both the network that was there and the one that takes its place have their records in the
book. -/
theorem isRegistered_setNetwork (surroundings : Surroundings ω χ) {scene : Scene ω χ}
    (hregistered : scene.network.IsRegistered scene.health) (addresses : List NodeAddress) :
    let done := (scene.setNetwork surroundings addresses).2
    scene.network.IsRegistered done.health ∧ done.network.IsRegistered done.health := by
  intro done
  have hdone : done = (scene.setNetwork surroundings addresses).2 := rfl
  unfold setNetwork at hdone
  rcases rebuild_cases scene.network surroundings addresses scene.health scene.world with
    ⟨error, _, hrebuild⟩ | ⟨assembled, hmade, hrebuild⟩
  · rw [hrebuild] at hdone
    rw [hdone]
    exact ⟨hregistered, hregistered⟩
  · rw [hrebuild] at hdone
    rw [hdone]
    refine ⟨hregistered.of_le (next_le_enlist _ _ _ _), fun member hmember => ?_⟩
    change member ∈ assembled.members at hmember
    rw [(assemble_eq_ok hmade).1] at hmember
    exact number_lt_of_mem_enlist _ _
      (fun address known hknown => hregistered known (known?_eq_some_iff.mp hknown).1) hmember

/-- A network is put over other addresses exactly where there are some, each for an account of its
own. Where it is not, nothing has changed. Where it is, the new network takes over all that it
can, and shares the records of the nodes that it took over. -/
theorem setNetwork_keeps_or_rebuilds (surroundings : Surroundings ω χ) (scene : Scene ω χ)
    (hregistered : scene.network.IsRegistered scene.health) (addresses : List NodeAddress) :
    let done := scene.setNetwork surroundings addresses
    (done.1 = .ok () ↔ addresses ≠ [] ∧ HaveOwnAccounts addresses) ∧
    (∀ error, done.1 = .error error → done.2 = scene ∧
      (addresses = [] ∧ error = .config .emptyNetwork ∨
        ∃ account, 2 ≤ addresses.countP (·.account == account) ∧
          error = .config (.duplicateNode account))) ∧
    (done.1 = .ok () →
      IsRebuilt surroundings scene.network addresses scene.health done.2.network done.2.health ∧
        ShareRecords scene.network done.2.network scene.health done.2.health) := by
  intro done
  have hdone : done = scene.setNetwork surroundings addresses := rfl
  have hmakes := assemble_enlist_eq_ok_iff scene.network addresses scene.health
  unfold setNetwork at hdone
  rcases rebuild_cases scene.network surroundings addresses scene.health scene.world with
    ⟨error, hfails, hrebuild⟩ | ⟨assembled, hmade, hrebuild⟩
  · rw [hrebuild] at hdone
    rw [← hmakes, hdone]
    refine ⟨⟨fun hok => ?_, ?_⟩, ?_, fun hok => ?_⟩
    · cases hok
    · rintro ⟨assembled, hmade⟩
      cases hfails.symm.trans hmade
    · intro other hother
      cases hother
      exact ⟨rfl, error_of_assemble_enlist hfails⟩
    · cases hok
  · rw [hrebuild] at hdone
    have hrebuilt := isRebuilt_of_assemble hregistered hmade surroundings
    rw [← hmakes, hdone]
    refine ⟨⟨fun _ => ⟨assembled, hmade⟩, fun _ => rfl⟩, fun error herror => ?_, fun _ => ?_⟩
    · cases herror
    · exact ⟨hrebuilt, hrebuilt.shareRecords⟩

/-- Nodes of two accounts, the records of both being in the book. -/
def twoNodes : Scene (List (Except TransportError Bytes)) Unit :=
  { Execution.rehearsed [] with health := { HealthBook.empty with next := 2 } }

/-- The first node at another host, the second one as it was, and one more. -/
def movedFirst : List NodeAddress :=
  [⟨.ofNum 4, "four", plainPort, none⟩, ⟨.ofNum 3, "elsewhere", plainPort, none⟩,
    ⟨.ofNum 5, "five", plainPort, none⟩]

/-- Failures of both nodes, each through both networks. -/
def failuresOfBoth : List Report :=
  [⟨.old, .ofNum 4, .failure .epoch⟩, ⟨.new, .ofNum 4, .failure .epoch⟩,
    ⟨.old, .ofNum 3, .failure .epoch⟩, ⟨.old, .ofNum 3, .failure .epoch⟩,
    ⟨.new, .ofNum 3, .failure .epoch⟩]

theorem setNetwork_keeps_or_rebuilds_moved :
    twoNodes.network.IsRegistered twoNodes.health ∧
      (twoNodes.setNetwork Execution.scripted movedFirst).1 = .ok () ∧
      let rebuilt := (twoNodes.setNetwork Execution.scripted movedFirst).2
      let later :=
        failuresOfBoth.foldl (Report.file twoNodes.network rebuilt.network) rebuilt.health
      (twoNodes.network.health? later (.ofNum 4)).map Health.failures = some 2 ∧
      (rebuilt.network.health? later (.ofNum 4)).map Health.failures = some 2 ∧
      (twoNodes.network.health? later (.ofNum 3)).map Health.failures = some 2 ∧
      (rebuilt.network.health? later (.ofNum 3)).map Health.failures = some 1 := by
  have hregistered : twoNodes.network.IsRegistered twoNodes.health := by
    intro member hmember
    simp only [twoNodes, Execution.rehearsed, List.mem_cons, List.not_mem_nil, or_false] at hmember
    rcases hmember with rfl | rfl
    · decide
    · decide
  obtain ⟨hmakes, _, htakes⟩ :=
    setNetwork_keeps_or_rebuilds Execution.scripted twoNodes hregistered movedFirst
  have hok := hmakes.mpr ⟨by decide, by decide⟩
  obtain ⟨_, hshares⟩ := htakes hok
  have hmembers : (twoNodes.setNetwork Execution.scripted movedFirst).2.network.members =
      [⟨⟨.ofNum 4, "four", plainPort, none⟩, 1⟩, ⟨⟨.ofNum 3, "elsewhere", plainPort, none⟩, 2⟩,
        ⟨⟨.ofNum 5, "five", plainPort, none⟩, 3⟩] := rfl
  obtain ⟨hold, hnew⟩ := hshares.shared ⟨⟨.ofNum 4, "four", plainPort, none⟩, 1⟩
    (List.mem_cons_of_mem _ List.mem_cons_self) (by rw [hmembers]; exact List.mem_cons_self)
    failuresOfBoth
  have hleft := hshares.left ⟨⟨.ofNum 3, "three", plainPort, none⟩, 0⟩ List.mem_cons_self
    (by rw [hmembers]; simp) failuresOfBoth
  have hfresh := hshares.fresh ⟨⟨.ofNum 3, "elsewhere", plainPort, none⟩, 2⟩
    (by rw [hmembers]; simp) (by simp [twoNodes, Execution.rehearsed]) failuresOfBoth
  refine ⟨hregistered, hok, ?_, ?_, ?_, ?_⟩
  · exact (congrArg (Option.map Health.failures) hold).trans rfl
  · exact (congrArg (Option.map Health.failures) hnew).trans rfl
  · exact (congrArg (Option.map Health.failures) hleft).trans rfl
  · exact (congrArg (Option.map Health.failures) hfresh).trans rfl

end Scene

end LedgerClient
