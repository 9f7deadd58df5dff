import PodAddressing.Proofs.Allocator.Booking
import PodAddressing.Proofs.Allocator.Ownership
import PodAddressing.Proofs.Allocator.Ranges
/-!
What a rebuild does with one record, said once: it files the record with its pod or its ordinal, or it drops it for
a reason. So nothing of a list is lost and nothing is there twice, and what was dropped had a reason at the time.
-/

namespace PodAddressing

/-- A binding to a node without a pod, or to neither and without an index. -/
def Record.IsMalformed (r : Record) : Prop :=
  r.binding.podUID = "" ∧ (r.binding.nodeName ≠ "" ∨ r.binding.index = none)

instance : DecidablePred Record.IsMalformed := fun r =>
  inferInstanceAs (Decidable (r.binding.podUID = "" ∧ (r.binding.nodeName ≠ "" ∨ r.binding.index = none)))

namespace Rebuilding
variable {s s' : Rebuilding} {r : Record}

section Filing

inductive Filed (s : Rebuilding) (r : Record) : Rebuilding → Prop
  | retained {key : OrdinalKey} (unnamed : r.binding.podUID = "") (free : r.binding.nodeName = "")
      (known : r.key? = some key) : Filed s r { s with retained := s.retained.gather key r }
  | plain (named : r.binding.podUID ≠ "") (unknown : r.key? = none) : Filed s r (s.addActive r)
  | claimed {key : OrdinalKey} (named : r.binding.podUID ≠ "") (known : r.key? = some key)
      (vacant : s.holders.get? key = none) :
      Filed s r ({ s with holders := s.holders.put key r.binding.podUID }.addActive r)
  | joined {key : OrdinalKey} (named : r.binding.podUID ≠ "") (known : r.key? = some key)
      (own : s.holders.get? key = some r.binding.podUID) : Filed s r (s.addActive r)
  | malformed (bad : r.IsMalformed) : Filed s r (s.drop r)
  | contested {key : OrdinalKey} {holder : String} (named : r.binding.podUID ≠ "")
      (known : r.key? = some key) (held : s.holders.get? key = some holder)
      (other : holder ≠ r.binding.podUID) : Filed s r (s.drop r)

theorem file_outcome (s : Rebuilding) (r : Record) : Filed s r (s.file r) := by
  unfold file
  by_cases unnamed : r.binding.podUID = ""
  · rw [if_pos unnamed]
    split
    case h_1 key free known =>
      have apart : r.binding.nodeName = "" := by
        simpa [Binding.isRetained, unnamed] using free
      exact .retained unnamed apart known
    case h_2 odd =>
      refine .malformed ⟨unnamed, ?_⟩
      by_contra whole
      rw [not_or, not_not] at whole
      obtain ⟨index, indexed⟩ := Option.ne_none_iff_exists'.mp whole.2
      have free : r.binding.isRetained = true := by
        simp [Binding.isRetained, unnamed, whole.1]
      exact odd (r.keyAt index) free (by rw [Record.key?, indexed, Option.map_some])
  · rw [if_neg unnamed]
    split
    case h_1 unknown => exact .plain unnamed unknown
    case h_2 key known =>
      split
      case h_1 vacant => exact .claimed unnamed known vacant
      case h_2 holder held =>
        split
        case isTrue own => exact .joined unnamed known (own ▸ held)
        case isFalse other => exact .contested unnamed known held other

theorem holders_file {key : OrdinalKey} {uid : String} (s : Rebuilding) (r : Record)
    (held : s.holders.get? key = some uid) : (s.file r).holders.get? key = some uid := by
  have outcome := file_outcome s r
  generalize s.file r = result at outcome
  cases outcome with
  | retained unnamed free known => exact held
  | plain named unknown => exact held
  | @claimed mine named known vacant =>
      have other : mine ≠ key := by
        rintro rfl
        rw [vacant] at held
        cases held
      exact (Table.get?_put_ne other _ _).trans held
  | joined named known own => exact held
  | malformed bad =>
      rw [(drop_filed s r).2.1]
      exact held
  | contested named known held' other =>
      rw [(drop_filed s r).2.1]
      exact held

theorem holders_adopt {key : OrdinalKey} {uid : String} (s : Rebuilding) (r : Record)
    (held : s.holders.get? key = some uid) : (s.adopt r).holders.get? key = some uid := by
  unfold adopt
  split
  case h_1 next reserved =>
    apply holders_file
    rw [(reserve?_filed reserved).2.1]
    exact held
  case h_2 => exact held

end Filing

section Parts

def dealt (s : Rebuilding) : List Record := s.filed ++ s.skipped

theorem skipped_drop (s : Rebuilding) (r : Record) : (s.drop r).skipped = s.skipped ++ [r] := by
  unfold drop
  split
  · rfl
  · split <;> rfl

theorem skipped_drops (s : Rebuilding) (records : List Record) :
    (records.foldl drop s).skipped = s.skipped ++ records := by
  induction records generalizing s with
  | nil => simp
  | cons r rest ih =>
      rw [List.foldl_cons, ih, skipped_drop, List.append_assoc, List.singleton_append]

theorem skipped_reserve? (reserved : s.reserve? r = some s') : s'.skipped = s.skipped := by
  unfold reserve? at reserved
  split at reserved
  · cases reserved
  · split at reserved
    · cases reserved
      rfl
    · cases reserved

theorem dealt_drop (s : Rebuilding) (r : Record) : (s.drop r).dealt.Perm (r :: s.dealt) := by
  rw [dealt, dealt, filed_of_filed (drop_filed s r), skipped_drop, ← List.append_assoc]
  exact List.perm_append_singleton r _

theorem dealt_file (valid : s.Agrees) (r : Record) : (s.file r).dealt.Perm (r :: s.dealt) := by
  have outcome := file_outcome s r
  generalize s.file r = result at outcome
  cases outcome with
  | @retained key unnamed free known =>
      have joined := (Table.members_gather valid.groups_unique key r).append_left
        s.active.values.flatten
      exact (joined.trans List.perm_middle).append_right _
  | plain named unknown => exact (filed_addActive valid r).append_right _
  | claimed named known vacant => exact (filed_addActive valid r).append_right _
  | joined named known own => exact (filed_addActive valid r).append_right _
  | malformed bad => exact dealt_drop s r
  | contested named known held other => exact dealt_drop s r

theorem dealt_adopt (valid : s.Agrees) (r : Record) : (s.adopt r).dealt.Perm (r :: s.dealt) := by
  unfold adopt
  split
  case h_1 next reserved =>
    have same := reserve?_filed reserved
    have before : next.dealt = s.dealt := by
      rw [dealt, dealt, filed_of_filed same, skipped_reserve? reserved]
    rw [← before]
    exact dealt_file (agrees_of_filed valid same) r
  case h_2 =>
    change (s.filed ++ (s.skipped ++ [r])).Perm _
    rw [← List.append_assoc]
    exact List.perm_append_singleton r _

theorem dealt_adopts (valid : s.Agrees) (records : List Record) :
    (records.foldl adopt s).dealt.Perm (records ++ s.dealt) := by
  induction records generalizing s with
  | nil => exact List.Perm.refl _
  | cons r rest ih =>
      have step := (ih (agrees_adopt valid r)).trans ((dealt_adopt valid r).append_left rest)
      exact step.trans List.perm_middle

theorem skipped_settle (s : Rebuilding) :
    s.settle.skipped = s.skipped ++ s.lost.values.flatten := by
  rw [settle_eq, skipped_drops]

theorem dealt_settle (s : Rebuilding) : s.settle.dealt.Perm s.dealt := by
  have moved := (settle_parts s).append_right s.skipped
  rw [dealt, skipped_settle, dealt]
  refine List.Perm.trans ?_ moved.symm
  rw [List.append_assoc, ← List.append_assoc s.settle.filed]
  exact List.perm_append_comm

end Parts

end Rebuilding

namespace Allocator
variable {a : Allocator}

/-- Every record of the list is taken over or skipped, once. -/
theorem rebuild_parts (a : Allocator) (records : List Record) :
    ((a.rebuild records).2.records ++ (a.rebuild records).1).Perm records := by
  have adopted := Rebuilding.dealt_adopts (s := .ofPools a.pools) Indexed.nothing records
  have settled := (Rebuilding.dealt_settle _).trans adopted
  rwa [show (Rebuilding.ofPools a.pools).dealt = [] from rfl, List.append_nil] at settled

end Allocator

/-!
What a rebuild makes of a list. Every record is taken over or skipped, the pools have in use just what was taken
over, and nothing that was there before makes a difference but which subnets are registered. A rebuild in which
every step may fail says the same, so no step of it does.
-/

theorem Pool.bad_of_reserve {p : Pool} {address : String} {fault : Fault}
    (refused : p.reserve address = .error fault) : ∃ value, fault = .bad value := by
  unfold reserve valueOf valueIn Address.ofText at refused
  cases read : Address.parse? address with
  | none =>
      rw [read] at refused
      cases refused
      exact ⟨_, rfl⟩
  | some found =>
      simp only [read, bind, Except.bind] at refused
      split at refused
      · rename_i foreign
        split at foreign
        · cases foreign
        · cases foreign
          cases refused
          exact ⟨_, rfl⟩
      · split at refused
        · cases refused
          exact ⟨_, rfl⟩
        · split at refused <;> cases refused

namespace Rebuilding
variable {s t s' : Rebuilding} {r : Record}

section Matching

/-- Two rebuilds stand the same, though their pools may be listed in another order. -/
def Matches (s t : Rebuilding) : Prop :=
  ∃ pools, t = { s with pools := pools } ∧ ∀ name, s.pools.get? name = pools.get? name

theorem matches_setPool (same : Matches s t) (r : Record) (pool : Pool) :
    Matches (s.setPool r pool) (t.setPool r pool) := by
  obtain ⟨pools, rfl, same⟩ := same
  refine ⟨pools.put r.subnet pool, rfl, fun name => ?_⟩
  change (s.pools.put r.subnet pool).get? name = _
  rw [Table.get?_put, Table.get?_put, same]

theorem matches_skip (same : Matches s t) (r : Record) : Matches (s.skip r) (t.skip r) := by
  obtain ⟨pools, rfl, same⟩ := same
  exact ⟨pools, rfl, same⟩

theorem Matches.get? (same : Matches s t) (name : String) : t.pools.get? name = s.pools.get? name := by
  obtain ⟨pools, rfl, same⟩ := same
  exact (same name).symm

theorem matches_drop (same : Matches s t) (r : Record) : Matches (s.drop r) (t.drop r) := by
  unfold drop
  rw [same.get?]
  split
  · exact matches_skip same r
  · split
    · exact matches_skip (matches_setPool same r _) r
    · exact matches_skip same r

theorem matches_drops (same : Matches s t) (records : List Record) :
    Matches (records.foldl drop s) (records.foldl drop t) := by
  induction records generalizing s t with
  | nil => exact same
  | cons r rest ih => exact ih (matches_drop same r)

theorem matches_file (same : Matches s t) (r : Record) : Matches (s.file r) (t.file r) := by
  have dropped := matches_drop same r
  obtain ⟨pools, rfl, same⟩ := same
  unfold file
  by_cases unnamed : r.binding.podUID = ""
  · rw [if_pos unnamed, if_pos unnamed]
    split
    · exact ⟨pools, rfl, same⟩
    · exact dropped
  · rw [if_neg unnamed, if_neg unnamed]
    split
    · exact ⟨pools, rfl, same⟩
    · dsimp only
      split
      · exact ⟨pools, rfl, same⟩
      · split
        · exact ⟨pools, rfl, same⟩
        · exact dropped

theorem matches_adopt (same : Matches s t) (r : Record) : Matches (s.adopt r) (t.adopt r) := by
  unfold adopt reserve?
  rw [same.get?]
  cases s.pools.get? r.subnet with
  | none => exact matches_skip same r
  | some pool =>
      dsimp only
      split
      · rename_i reserved
        split at reserved
        · cases reserved
          exact matches_file (matches_setPool same r _) r
        · cases reserved
      · rename_i refused
        split at refused
        · cases refused
        · exact matches_skip same r

theorem matches_adopts (same : Matches s t) (records : List Record) :
    Matches (records.foldl adopt s) (records.foldl adopt t) := by
  induction records generalizing s t with
  | nil => exact same
  | cons r rest ih => exact ih (matches_adopt same r)

theorem matches_settle (same : Matches s t) : Matches s.settle t.settle := by
  obtain ⟨pools, rfl, same⟩ := same
  exact matches_drops (s := { s with retained := s.kept })
    (t := { s with retained := s.kept, pools := pools }) ⟨pools, rfl, same⟩ _

end Matching

section Faults

/-- Skips a record whose address was reserved, if its pool is there and takes the address back. -/
def tryDrop (s : Rebuilding) (r : Record) : Except Fault Rebuilding :=
  match s.pools.get? r.subnet with
  | none => .error (.missing r.subnet)
  | some pool => (pool.release r.address).map fun (_, pool) => (s.setPool r pool).skip r

-- A bad value is a reason to skip the record, and any other fault ends the rebuild.
def tryReserve (s : Rebuilding) (r : Record) : Except Fault (Option Rebuilding) :=
  match s.pools.get? r.subnet with
  | none => .ok none
  | some pool =>
      match pool.reserve r.address with
      | .ok (true, pool) => .ok (some (s.setPool r pool))
      | .ok (false, _) => .ok none
      | .error (.bad _) => .ok none
      | .error fault => .error fault

def tryFile (s : Rebuilding) (r : Record) : Except Fault Rebuilding :=
  if r.binding.podUID = "" ∧ r.binding.nodeName ≠ "" then s.tryDrop r
  else if r.binding.isRetained then
    if r.isStateful then r.key.map fun key => { s with retained := s.retained.gather key r }
    else s.tryDrop r
  else if r.isStateful then
    match r.key with
    | .error fault => .error fault
    | .ok key =>
        match s.holders.get? key with
        | none => .ok ({ s with holders := s.holders.put key r.binding.podUID }.addActive r)
        | some holder => if holder = r.binding.podUID then .ok (s.addActive r) else s.tryDrop r
  else .ok (s.addActive r)

def tryAdopt (s : Rebuilding) (r : Record) : Except Fault Rebuilding := do
  match ← s.tryReserve r with
  | some s => s.tryFile r
  | none => pure (s.skip r)

/-- Drops the group of an ordinal that a pod holds; the group of any other has to be taken in by the store. -/
def trySettle (sofar : Rebuilding × Retention) (entry : OrdinalKey × List Record) :
    Except Fault (Rebuilding × Retention) :=
  if sofar.1.holders.has entry.1 then (entry.2.foldlM tryDrop sofar.1).map (·, sofar.2)
  else (sofar.2.retain entry.2).map (sofar.1, ·)

theorem tryReserve_eq (s : Rebuilding) (r : Record) : s.tryReserve r = .ok (s.reserve? r) := by
  unfold tryReserve reserve?
  cases s.pools.get? r.subnet with
  | none => rfl
  | some pool =>
      dsimp only
      cases answer : pool.reserve r.address with
      | ok found =>
          obtain ⟨fresh, pool'⟩ := found
          cases fresh <;> rfl
      | error fault =>
          obtain ⟨value, rfl⟩ := Pool.bad_of_reserve answer
          rfl

theorem drop_retained (s : Rebuilding) (groups : Table OrdinalKey (List Record)) (r : Record) :
    ({ s with retained := groups } : Rebuilding).drop r = { s.drop r with retained := groups } := by
  unfold drop
  dsimp only
  split
  · rfl
  · split <;> rfl

theorem drops_retained (s : Rebuilding) (groups : Table OrdinalKey (List Record))
    (records : List Record) :
    records.foldl drop { s with retained := groups } =
      { records.foldl drop s with retained := groups } := by
  induction records generalizing s with
  | nil => rfl
  | cons r rest ih => rw [List.foldl_cons, drop_retained, ih, List.foldl_cons]

variable {held : List Spot}

theorem tryDrop_eq (booked : Booked s.pools (r.spot :: held)) : s.tryDrop r = .ok (s.drop r) := by
  obtain ⟨pool, pool', found, answer, _⟩ := booked.release
  simp only [tryDrop, drop, found, answer, Except.map]

theorem tryDrops_eq {records : List Record}
    (booked : Booked s.pools (records.map Record.spot ++ held)) :
    records.foldlM tryDrop s = .ok (records.foldl drop s) := by
  induction records generalizing s with
  | nil => rfl
  | cons r rest ih =>
      rw [List.foldlM_cons, tryDrop_eq (r := r) booked, List.foldl_cons]
      exact ih (booked_drop (r := r) booked)

theorem tryFile_eq (booked : Booked s.pools (r.spot :: held)) : s.tryFile r = .ok (s.file r) := by
  have dropped := tryDrop_eq booked
  unfold tryFile file
  by_cases unnamed : r.binding.podUID = ""
  · by_cases placed : r.binding.nodeName = ""
    · have retained : r.binding.isRetained = true := by simp [Binding.isRetained, unnamed, placed]
      rw [if_neg (by simp [placed]), if_pos retained, if_pos unnamed]
      cases known : r.key? with
      | none => simp [retained, dropped, r.isStateful_iff, known]
      | some key => simp [retained, r.isStateful_iff, known, r.key_of_key? known, Except.map]
    · have bound : r.binding.isRetained = false := by simp [Binding.isRetained, placed]
      rw [if_pos ⟨unnamed, placed⟩, if_pos unnamed, dropped]
      simp [bound]
  · have bound : r.binding.isRetained = false := by simp [Binding.isRetained, unnamed]
    rw [if_neg (by simp [unnamed]), if_neg (by simp [bound]), if_neg unnamed]
    cases known : r.key? with
    | none => simp [r.isStateful_iff, known]
    | some key =>
        rw [if_pos (r.isStateful_iff.mpr ⟨key, known⟩), r.key_of_key? known]
        dsimp only
        cases s.holders.get? key with
        | none => rfl
        | some holder => by_cases own : holder = r.binding.podUID <;> simp [own, dropped]

theorem tryAdopt_eq (balanced : s.Balanced) (r : Record) : s.tryAdopt r = .ok (s.adopt r) := by
  unfold tryAdopt adopt
  rw [tryReserve_eq]
  cases reserved : s.reserve? r with
  | none => rfl
  | some next => exact tryFile_eq (booked_reserve? balanced reserved)

theorem tryAdopts_eq (valid : s.Agrees) (balanced : s.Balanced) (records : List Record) :
    records.foldlM tryAdopt s = .ok (records.foldl adopt s) := by
  induction records generalizing s with
  | nil => rfl
  | cons r rest ih =>
      rw [List.foldlM_cons, tryAdopt_eq balanced, List.foldl_cons]
      exact ih (agrees_adopt valid r) (balanced_adopt valid balanced r)

/-- Groups are dropped one by one or taken in, and no store has two groups of one ordinal. -/
theorem trySettles_eq {groups : Table OrdinalKey (List Record)} {store : Retention}
    (booked : Booked s.pools
      ((Table.values (groups.filter fun entry => s.holders.has entry.1)).flatten.map Record.spot ++ held))
    (unique : groups.Unique) (absent : ∀ key ∈ groups.keys, store.groups.get? key = none)
    (kept : ∀ entry ∈ groups, entry.2 ≠ [] ∧
      ∀ r ∈ entry.2, r.key? = some entry.1 ∧ r.binding.isRetained = true) :
    groups.foldlM trySettle (s, store) =
      .ok ((Table.values (groups.filter fun entry => s.holders.has entry.1)).flatten.foldl drop s,
        ⟨store.groups ++ groups.filter fun entry => !s.holders.has entry.1⟩) := by
  induction groups generalizing s store with
  | nil => simp [Table.values, pure, Except.pure]
  | cons entry rest ih =>
      obtain ⟨key, group⟩ := entry
      obtain ⟨first, others⟩ := List.forall_mem_cons.mp kept
      obtain ⟨alone, unique⟩ := List.nodup_cons.mp unique
      have absent_later : ∀ k ∈ Table.keys rest, store.groups.get? k = none := fun k member =>
        absent k (List.mem_cons_of_mem _ member)
      rw [List.foldlM_cons]
      by_cases taken : s.holders.has key = true
      · simp only [List.filter_cons, taken, ↓reduceIte, Table.values, List.map_cons, List.flatten_cons,
          List.map_append, List.append_assoc, List.foldl_append, Bool.not_true, Bool.false_eq_true]
          at booked ⊢
        have dropped := drops_filed s group
        have balanced := booked_drops booked
        have next := ih (s := group.foldl drop s) (by rw [dropped.2.1]; exact balanced) unique absent_later others
        rw [dropped.2.1] at next
        rw [trySettle, if_pos taken, tryDrops_eq booked]
        exact next
      · simp only [List.filter_cons, taken, ↓reduceIte, Bool.not_false, Bool.false_eq_true] at booked ⊢
        have vacant : store.groups.get? key = none := absent key List.mem_cons_self
        have stored := Retention.retain_of_vacant vacant first.1 first.2
        have absent_now : ∀ k ∈ Table.keys rest,
            Table.get? (store.groups ++ [(key, group)]) k = none := by
          intro k member
          have other : key ≠ k := by
            rintro rfl
            exact alone member
          rw [← Table.put_of_absent vacant, Table.get?_put_ne other]
          exact absent_later k member
        have next := ih booked unique absent_now others
        rw [List.append_assoc, List.singleton_append] at next
        rw [trySettle, if_neg taken, stored]
        exact next

end Faults

end Rebuilding

namespace Allocator
variable {a b : Allocator}

def rebuiltAs (a : Allocator) (s : Rebuilding) : List Record × Allocator :=
  (s.skipped, { a with
    pools := s.pools
    active := s.active
    holders := s.holders
    retention := ⟨s.retained⟩ })

theorem rebuild_eq (a : Allocator) (records : List Record) :
    a.rebuild records = a.rebuiltAs (records.foldl Rebuilding.adopt (.ofPools a.pools)).settle := rfl

section Faults

/-- A rebuild that ends where anything goes wrong. -/
def tryRebuild (a : Allocator) (records : List Record) : Except Fault (List Record × Allocator) := do
  let s ← records.foldlM Rebuilding.tryAdopt (.ofPools a.pools)
  let (settled, retention) ← s.retained.foldlM Rebuilding.trySettle (s, {})
  pure (a.rebuiltAs { settled with retained := retention.groups })

theorem tryRebuild_eq (registered : Registered a.pools) (records : List Record) :
    a.tryRebuild records = .ok (a.rebuild records) := by
  have adopted := Rebuilding.tryAdopts_eq (s := .ofPools a.pools) Indexed.nothing registered.booked records
  have agrees := Rebuilding.agrees_adopts (s := .ofPools a.pools) Indexed.nothing records
  have balanced := Rebuilding.balanced_adopts (s := .ofPools a.pools) Indexed.nothing registered.booked records
  rw [rebuild_eq, tryRebuild, adopted]
  generalize records.foldl Rebuilding.adopt (.ofPools a.pools) = s at agrees balanced
  have parted := balanced.perm ((Rebuilding.settle_parts s).map Record.spot)
  rw [List.map_append] at parted
  have kept (entry : OrdinalKey × List Record) (member : entry ∈ s.retained) : entry.2 ≠ [] ∧
      ∀ r ∈ entry.2, r.key? = some entry.1 ∧ r.binding.isRetained = true := by
    obtain ⟨some_record, free⟩ := agrees.kept _ _ (Table.get?_of_mem agrees.groups_unique member)
    refine ⟨some_record, fun r listed => ⟨(free r listed).1, ?_⟩⟩
    simp [Binding.isRetained, (free r listed).2]
  have vacant (key : OrdinalKey) (_ : key ∈ s.retained.keys) : ({} : Retention).groups.get? key = none := rfl
  have settled := Rebuilding.trySettles_eq parted agrees.groups_unique vacant kept
  -- One rebuild takes what is lost out of the retained groups first, the other never does.
  rw [Rebuilding.settle_eq, Rebuilding.drops_retained]
  change (s.retained.foldlM Rebuilding.trySettle (s, {}) >>= _) = _
  rw [settled]
  rfl

end Faults

section Matching

/-- Two rebuilds have ended alike, though their pools may be listed in another order. -/
structure SameRebuilt (x y : List Record × Allocator) : Prop where
  skipped : x.1 = y.1
  records : x.2.records = y.2.records
  active : x.2.active = y.2.active
  holders : x.2.holders = y.2.holders
  retention : x.2.retention = y.2.retention
  pools : ∀ name, x.2.pools.get? name = y.2.pools.get? name

theorem sameRebuilt_of_subnets (registered : Registered a.pools) (registered' : Registered b.pools)
    (same : ∀ name, a.subnet? name = b.subnet? name) (records : List Record) :
    SameRebuilt (a.rebuild records) (b.rebuild records) := by
  have start : Rebuilding.Matches (.ofPools a.pools) (.ofPools b.pools) :=
    ⟨cleared b.pools, rfl, fun name => registered.clear_eq registered' (same name)⟩
  obtain ⟨pools, settled, alike⟩ := Rebuilding.matches_settle (Rebuilding.matches_adopts start records)
  rw [rebuild_eq, rebuild_eq, settled]
  exact ⟨rfl, rfl, rfl, rfl, rfl, alike⟩

end Matching

section Partition

theorem accounts_rebuild (registered : Registered a.pools) (records : List Record) :
    Accounts (a.rebuild records).2 [] := by
  rw [Accounts, List.append_nil]
  exact Rebuilding.balanced_settle
    (Rebuilding.balanced_adopts (s := .ofPools a.pools) Indexed.nothing registered.booked records)

/-- A rebuild takes over or skips every record of any list, and forgets all that was there before. -/
theorem rebuild_partitions (reached : Reachable a) (reached' : Reachable b)
    (same : ∀ name, a.subnet? name = b.subnet? name) (records : List Record) :
    a.tryRebuild records = .ok (a.rebuild records) ∧
      ((a.rebuild records).2.records ++ (a.rebuild records).1).Perm records ∧
      Exact (a.rebuild records).2 ∧ SameRebuilt (a.rebuild records) (b.rebuild records) := by
  have registered := registered_of_reachable reached
  have registered' := registered_of_reachable reached'
  exact ⟨tryRebuild_eq registered records, rebuild_parts a records,
    exact_of_accounts (accounts_rebuild registered records),
    sameRebuilt_of_subnets registered registered' same records⟩

/-- Records that dispute addresses and an ordinal, beside one that is malformed and one of no pool. -/
def disputedRecords : List Record := [
  webRecord "10.0.0.1" "", webRecord "10.0.0.1" "u1", webRecord "10.0.0.2" "u2", webRecord "10.0.0.3" "u3",
  { webRecord "10.0.0.4" "" with binding := ⟨"", "web-0", "node-1", ⟨"StatefulSet", "web", "set-1"⟩, some 0⟩ },
  { webRecord "10.0.0.5" "u4" with subnet := "seven" }, webRecord "garbage" "u2"]

theorem rebuild_partitions_disputed :
    let busy := sample.run [.allocate (webPod "web-1" "u5") ⟨.underlay, [.v4]⟩ none]
    (∀ name, busy.subnet? name = sample.subnet? name) ∧
      ((busy.rebuild disputedRecords).2.records.map (·.address)) = ["10.0.0.2"] ∧
      busy.tryRebuild disputedRecords = .ok (busy.rebuild disputedRecords) ∧
      SameRebuilt (busy.rebuild disputedRecords) (sample.rebuild disputedRecords) := by
  intro busy
  have reached : Reachable sample := reachable_of_started sample_started
  have pools : cleared busy.pools = cleared sample.pools := by decide +kernel
  have same (name : String) : busy.subnet? name = sample.subnet? name := by
    rw [← subnet?_cleared, pools, subnet?_cleared]
  obtain ⟨total, _, _, alike⟩ :=
    rebuild_partitions (reachable_run reached _) reached same disputedRecords
  exact ⟨same, by decide +kernel, total, alike⟩

end Partition

end Allocator

end PodAddressing
