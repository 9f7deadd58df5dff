import PodAddressing.Proofs.Allocator.Partition
/-!
Why a rebuild skips a record. There is always a reason when it is the record's turn, but a retained record that
stood in the way may be skipped itself at the end. So the reason is still there afterwards unless the address was
that of a record which went in this way.
-/

namespace PodAddressing

namespace Record
variable {pools : Table String Pool} {r : Record}

/-- The pools have one for the subnet of a record, and it may hand out its address. -/
def AllocatableIn (r : Record) (pools : Table String Pool) : Prop :=
  (pools.get? r.subnet).any (·.contains r.address) = true

instance (r : Record) (pools : Table String Pool) : Decidable (r.AllocatableIn pools) :=
  inferInstanceAs (Decidable (_ = true))

theorem allocatableIn_cleared : r.AllocatableIn (cleared pools) ↔ r.AllocatableIn pools := by
  rw [AllocatableIn, AllocatableIn, get?_cleared]
  cases pools.get? r.subnet <;> rfl

theorem AllocatableIn.exists_pool (allowed : r.AllocatableIn pools) :
    ∃ pool n, pools.get? r.subnet = some pool ∧ pool.valueOf r.address = .ok n ∧
      pool.isUsable n = true := by
  rw [AllocatableIn, Option.any_eq_true] at allowed
  obtain ⟨pool, found, inside⟩ := allowed
  unfold Pool.contains at inside
  split at inside
  case h_1 n value => exact ⟨pool, n, found, value, inside⟩
  case h_2 => cases inside

end Record

namespace Rebuilding
variable {s s' : Rebuilding} {r x : Record}

inductive Excluded (s : Rebuilding) (r : Record) : Prop
  | malformed (bad : r.IsMalformed)
  | taken (there : r.spot ∈ s.filed.map Record.spot)
  | contested {key : OrdinalKey} {holder : String} (known : r.key? = some key)
      (held : s.holders.get? key = some holder) (other : holder ≠ r.binding.podUID)

theorem taken_of_reserve? (balanced : s.Balanced) (allowed : r.AllocatableIn s.pools)
    (refused : s.reserve? r = none) : r.spot ∈ s.filed.map Record.spot := by
  obtain ⟨pool, n, found, value, usable⟩ := allowed.exists_pool
  rw [Booked.spot_of_value value, Booked.mem_iff balanced found]
  by_contra unused
  rw [reserve?, found] at refused
  simp [Pool.reserve, value, usable, unused, bind, Except.bind, pure, Except.pure] at refused

theorem filed_file (valid : s.Agrees) (r : Record) (member : x ∈ s.filed) : x ∈ (s.file r).filed := by
  rcases file_cases valid r with ⟨_, more⟩ | dropped
  · exact more.mem_iff.mpr (List.mem_cons_of_mem r member)
  · rw [dropped, filed_of_filed (drop_filed s r)]
    exact member

theorem filed_adopt (valid : s.Agrees) (r : Record) (member : x ∈ s.filed) : x ∈ (s.adopt r).filed := by
  unfold adopt
  split
  case h_1 next reserved =>
    have same := reserve?_filed reserved
    apply filed_file (agrees_of_filed valid same)
    rwa [filed_of_filed same]
  case h_2 => exact member

theorem excluded_adopt (valid : s.Agrees) (r : Record) (excluded : s.Excluded x) :
    (s.adopt r).Excluded x := by
  cases excluded with
  | malformed bad => exact .malformed bad
  | taken there =>
      obtain ⟨y, member, same⟩ := List.mem_map.mp there
      exact .taken (List.mem_map.mpr ⟨y, filed_adopt valid r member, same⟩)
  | contested known held other => exact .contested known (holders_adopt s r held) other

theorem excluded_of_file (skipped : x ∈ (s.file r).skipped) :
    x ∈ s.skipped ∨ (x = r ∧ (s.file r).Excluded r) := by
  have outcome := file_outcome s r
  generalize s.file r = result at outcome skipped
  cases outcome with
  | retained unnamed free known => exact .inl skipped
  | plain named unknown => exact .inl skipped
  | claimed named known vacant => exact .inl skipped
  | joined named known own => exact .inl skipped
  | malformed bad =>
      rw [skipped_drop, List.mem_append, List.mem_singleton] at skipped
      exact skipped.imp_right fun same => ⟨same, .malformed bad⟩
  | contested named known held other =>
      rw [skipped_drop, List.mem_append, List.mem_singleton] at skipped
      refine skipped.imp_right fun same => ⟨same, .contested known ?_ other⟩
      rw [(drop_filed s r).2.1]
      exact held

theorem excluded_of_adopt (balanced : s.Balanced) (allowed : x.AllocatableIn s.pools)
    (skipped : x ∈ (s.adopt r).skipped) : x ∈ s.skipped ∨ (s.adopt r).Excluded x := by
  unfold adopt at skipped ⊢
  cases reserved : s.reserve? r with
  | some next =>
      rw [reserved] at skipped
      rcases excluded_of_file skipped with before | ⟨rfl, excluded⟩
      · rw [skipped_reserve? reserved] at before
        exact .inl before
      · exact .inr excluded
  | none =>
      rw [reserved] at skipped
      rcases List.mem_append.mp skipped with before | last
      · exact .inl before
      · cases List.mem_singleton.mp last
        exact .inr (.taken (taken_of_reserve? (s := s) balanced allowed reserved))

theorem excluded_adopts (valid : s.Agrees) (balanced : s.Balanced) (allowed : x.AllocatableIn s.pools)
    (before : x ∈ s.skipped → s.Excluded x) {records : List Record}
    (skipped : x ∈ (records.foldl adopt s).skipped) : (records.foldl adopt s).Excluded x := by
  induction records generalizing s with
  | nil => exact before skipped
  | cons r rest ih =>
      have allowed' : x.AllocatableIn (s.adopt r).pools := by
        rw [← Record.allocatableIn_cleared, (served_adopt s r).cleared, Record.allocatableIn_cleared]
        exact allowed
      refine ih (agrees_adopt valid r) (balanced_adopt valid balanced r) allowed' ?_ skipped
      intro now
      rcases excluded_of_adopt balanced allowed now with earlier | excluded
      · exact excluded_adopt valid r (before earlier)
      · exact excluded

end Rebuilding

namespace Allocator
variable {a : Allocator} {r : Record} {records : List Record}

def Taken (a : Allocator) (r : Record) : Prop :=
  ∃ x ∈ a.records, x.subnet = r.subnet ∧ x.value? = r.value?

def HeldByOther (a : Allocator) (r : Record) : Prop :=
  ∃ x ∈ a.active.values.flatten,
    r.key? ≠ none ∧ x.key? = r.key? ∧ x.binding.podUID ≠ r.binding.podUID

/-- A reason to skip a record, in the state that a rebuild ends with. -/
def Excused (a : Allocator) (r : Record) : Prop := r.IsMalformed ∨ a.Taken r ∨ a.HeldByOther r

instance (a : Allocator) (r : Record) : Decidable (a.Taken r) :=
  inferInstanceAs (Decidable (∃ x ∈ a.records, x.subnet = r.subnet ∧ x.value? = r.value?))

instance (a : Allocator) (r : Record) : Decidable (a.HeldByOther r) :=
  inferInstanceAs (Decidable (∃ x ∈ a.active.values.flatten,
    r.key? ≠ none ∧ x.key? = r.key? ∧ x.binding.podUID ≠ r.binding.podUID))

instance (a : Allocator) (r : Record) : Decidable (a.Excused r) :=
  inferInstanceAs (Decidable (r.IsMalformed ∨ a.Taken r ∨ a.HeldByOther r))

/-- The retained records that a rebuild takes over first and skips at the end, since pods hold their ordinals. -/
def evicted (a : Allocator) (records : List Record) : List Record :=
  (records.foldl Rebuilding.adopt (.ofPools a.pools)).lost.values.flatten

theorem heldByOther_iff (valid : Consistent a) :
    a.HeldByOther r ↔
      ∃ key uid, r.key? = some key ∧ a.holders.get? key = some uid ∧ uid ≠ r.binding.podUID := by
  constructor
  · rintro ⟨x, member, keyed, same, other⟩
    obtain ⟨key, known⟩ := Option.ne_none_iff_exists'.mp keyed
    exact ⟨key, _, known, valid.holder_iff.mpr ⟨x, member, same.trans known, rfl⟩, other⟩
  · rintro ⟨key, uid, known, held, other⟩
    obtain ⟨x, member, same, rfl⟩ := valid.holder_iff.mp held
    exact ⟨x, member, by simp [known], same.trans known.symm, other⟩

theorem taken_iff {stray : List Spot} (accounts : Accounts a stray) (allowed : r.AllocatableIn a.pools) :
    a.Taken r ↔ r.spot ∈ a.records.map Record.spot := by
  obtain ⟨pool, n, found, value, _⟩ := allowed.exists_pool
  constructor
  · rintro ⟨x, member, subnet, same⟩
    obtain ⟨pool', n', found', value', _⟩ := accounts.exists_pool member
    rw [subnet, found] at found'
    cases found'
    rw [value?_of_valueOf value', value?_of_valueOf value] at same
    cases same
    refine List.mem_map.mpr ⟨x, member, ?_⟩
    rw [Booked.spot_of_value value', Booked.spot_of_value value, subnet]
  · intro listed
    obtain ⟨x, member, same⟩ := List.mem_map.mp listed
    obtain ⟨pool', n', found', value', _⟩ := accounts.exists_pool member
    rw [Booked.spot_of_value value', Booked.spot_of_value value] at same
    obtain ⟨subnet, within⟩ := Prod.mk.inj same
    refine ⟨x, member, subnet, ?_⟩
    rw [value?_of_valueOf value', value?_of_valueOf value, (Prod.mk.inj (Option.some.inj within)).2]

/-- What is evicted and what is taken over in the end have been taken over first, and no spot is in both. -/
theorem evicted_parts (registered : Registered a.pools) (records : List Record) :
    let first := records.foldl Rebuilding.adopt (.ofPools a.pools)
    (first.filed.map Record.spot).Perm
        ((a.evicted records).map Record.spot ++ (a.rebuild records).2.records.map Record.spot) ∧
      ((a.evicted records).map Record.spot).Disjoint ((a.rebuild records).2.records.map Record.spot) := by
  intro first
  have balanced : first.Balanced :=
    Rebuilding.balanced_adopts (s := .ofPools a.pools) Indexed.nothing registered.booked records
  have parted := (Rebuilding.settle_parts first).map Record.spot
  rw [List.map_append] at parted
  exact ⟨parted, (List.nodup_append'.mp (balanced.perm parted).single).2.2⟩

theorem holders_rebuild (a : Allocator) (records : List Record) :
    (a.rebuild records).2.holders = (records.foldl Rebuilding.adopt (.ofPools a.pools)).holders :=
  (Rebuilding.settle_filed _).2.1

theorem heldByOther_of_evicted (gone : r ∈ a.evicted records) :
    (a.rebuild records).2.HeldByOther r := by
  have agrees := Rebuilding.agrees_adopts (s := .ofPools a.pools) Indexed.nothing records
  have valid := consistent_rebuild a records
  have unique := Table.unique_filter agrees.groups_unique fun entry =>
    (records.foldl Rebuilding.adopt (.ofPools a.pools)).holders.has entry.1
  obtain ⟨key, group, found, member⟩ := (Table.mem_members unique).mp gone
  rw [Table.get?_filter agrees.groups_unique, Option.filter_eq_some_iff] at found
  obtain ⟨known, unnamed, _⟩ := (agrees.kept key group found.1).2 r member
  obtain ⟨uid, held⟩ := Table.has_iff.mp found.2
  rw [← holders_rebuild] at held
  obtain ⟨_, active, _⟩ := (valid.holds key uid).mp held
  refine (heldByOther_iff valid).mpr ⟨key, uid, known, held, ?_⟩
  rw [unnamed]
  exact (valid.bound uid _ active).1

/-- Why a record is skipped: it is malformed, another pod has its ordinal, or its spot was taken before it was
its turn, for good or until a record was evicted. -/
theorem reason_of_skipped (registered : Registered a.pools) (allowed : r.AllocatableIn a.pools)
    (skipped : r ∈ (a.rebuild records).1) :
    r.IsMalformed ∨ (a.rebuild records).2.HeldByOther r ∨
      r.spot ∈ (a.rebuild records).2.records.map Record.spot ∨ ∃ d ∈ a.evicted records, d.spot = r.spot := by
  have listed : r ∈ (records.foldl Rebuilding.adopt (.ofPools a.pools)).skipped ++ a.evicted records := by
    rw [evicted, ← Rebuilding.skipped_settle]
    exact skipped
  rcases List.mem_append.mp listed with first | gone
  · have excluded := Rebuilding.excluded_adopts (s := .ofPools a.pools) Indexed.nothing registered.booked
      (Record.allocatableIn_cleared.mpr allowed) (fun nothing => absurd nothing List.not_mem_nil) first
    cases excluded with
    | malformed bad => exact .inl bad
    | taken there =>
        rw [(evicted_parts registered records).1.mem_iff, List.mem_append, List.mem_map, or_comm] at there
        exact .inr (.inr there)
    | @contested key holder known held other =>
        rw [← holders_rebuild] at held
        exact .inr (.inl ((heldByOther_iff (consistent_rebuild a records)).mpr
          ⟨key, holder, known, held, other⟩))
  · exact .inr (.inl (heldByOther_of_evicted gone))

/-- A record that is well formed and whose ordinal no other pod has is skipped with a reason unless its spot
was that of an evicted one. -/
theorem excused_iff (reached : Reachable a) (skipped : r ∈ (a.rebuild records).1)
    (allowed : r.AllocatableIn a.pools) :
    (a.rebuild records).2.Excused r ↔
      r.IsMalformed ∨ (a.rebuild records).2.HeldByOther r ∨ ∀ d ∈ a.evicted records, d.spot ≠ r.spot := by
  have registered := registered_of_reachable reached
  have allowed' : r.AllocatableIn (a.rebuild records).2.pools := by
    rw [← Record.allocatableIn_cleared, (served_rebuild a records).cleared, Record.allocatableIn_cleared]
    exact allowed
  rw [Excused, taken_iff (accounts_rebuild registered records) allowed']
  constructor
  · rintro (bad | taken | held)
    · exact .inl bad
    · refine .inr (.inr fun d gone same => ?_)
      exact (evicted_parts registered records).2 (List.mem_map.mpr ⟨d, gone, same⟩) taken
    · exact .inr (.inl held)
  · rintro (bad | held | others)
    · exact .inl bad
    · exact .inr (.inr held)
    · rcases reason_of_skipped registered allowed skipped with bad | held | taken | ⟨d, gone, same⟩
      · exact .inl bad
      · exact .inr (.inr held)
      · exact .inr (.inl taken)
      · exact absurd same (others d gone)

def plainRecord (address podUID : String) : Record :=
  { webRecord address podUID with binding := ⟨podUID, "job", "node-1", ⟨"Pod", "job", podUID⟩, none⟩ }

/-- What is retained for an ordinal stands before the record of a running pod with its address, and another pod
has the ordinal. -/
def usurped : List Record := [webRecord "10.0.0.1" "", plainRecord "10.0.0.1" "u2", webRecord "10.0.0.2" "u1"]

/-- The record of the running pod is skipped for nothing, and its address is left free. -/
theorem usurped_not_excused :
    (¬ ∀ r ∈ (sample.rebuild usurped).1, r.AllocatableIn sample.pools → (sample.rebuild usurped).2.Excused r) ∧
      (sample.rebuild usurped).2.records = [webRecord "10.0.0.2" "u1"] ∧
      usedIn (sample.rebuild usurped).2.pools "four" = [167772162] := by
  decide +kernel

theorem duplicate_excused :
    let records := usurped ++ [plainRecord "10.0.0.2" "u3"]
    webRecord "10.0.0.1" "" ∈ sample.evicted records ∧
      (sample.rebuild records).2.Excused (plainRecord "10.0.0.2" "u3") := by
  intro records
  refine ⟨by decide +kernel, ?_⟩
  have apart : ∀ d ∈ sample.evicted records, d.spot ≠ (plainRecord "10.0.0.2" "u3").spot := by
    decide +kernel
  exact (excused_iff (reachable_of_started sample_started) (by decide +kernel) (by decide +kernel)).mpr
    (.inr (.inr apart))

end Allocator

end PodAddressing
