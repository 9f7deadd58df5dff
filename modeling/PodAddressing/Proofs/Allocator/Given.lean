import Mathlib.Data.List.Pairwise
import PodAddressing.Proofs.Allocator.Churn
import PodAddressing.Proofs.Allocator.Filling
import PodAddressing.Proofs.Allocator.Ranges
import PodAddressing.Proofs.Retention.Run
/-!
Stores that an allocator is given. What a given store retains is not marked in the pools, so its addresses are safe
just where the pools would not hand them out anyway.
-/

namespace PodAddressing

namespace Record
variable {r s : Record} {pools : Table String Pool}

def Shares (r s : Record) : Prop := r.subnet = s.subnet ∧ ∃ n, r.value? = some n ∧ s.value? = some n

instance (r s : Record) : Decidable (r.Shares s) :=
  decidable_of_iff (r.subnet = s.subnet ∧ (r.value?.any fun n => s.value? = some n) = true) (by
    simp [Shares, Option.any_eq_true])

theorem Shares.symm (shares : Shares r s) : Shares s r := by
  obtain ⟨subnet, n, left, right⟩ := shares
  exact ⟨subnet.symm, n, right, left⟩

instance : Std.Symm fun r s : Record => ¬ r.Shares s := ⟨fun _ _ => mt Shares.symm⟩

/-- The pool of the subnet of a record may hand out the value of its address, whatever the family of its text. -/
def OfferedIn (r : Record) (pools : Table String Pool) : Prop :=
  (pools.get? r.subnet).any (fun pool => r.value?.any pool.isUsable) = true

instance (r : Record) (pools : Table String Pool) : Decidable (r.OfferedIn pools) :=
  inferInstanceAs (Decidable (_ = true))

theorem offeredIn_iff : r.OfferedIn pools ↔
    ∃ pool n, pools.get? r.subnet = some pool ∧ r.value? = some n ∧ pool.isUsable n = true := by
  simp [OfferedIn, Option.any_eq_true]

theorem offeredIn_cleared : r.OfferedIn (cleared pools) ↔ r.OfferedIn pools := by
  rw [OfferedIn, get?_cleared, OfferedIn, Option.any_map]
  rfl

theorem offeredIn_of_shares (shares : Shares r s) (offered : r.OfferedIn pools) : s.OfferedIn pools := by
  obtain ⟨subnet, n, left, right⟩ := shares
  obtain ⟨pool, m, found, value, usable⟩ := offeredIn_iff.mp offered
  rw [left] at value
  cases value
  exact offeredIn_iff.mpr ⟨pool, n, subnet ▸ found, right, usable⟩

theorem offeredIn_of_booked {held : List Spot} (booked : Booked pools held) (member : r.spot ∈ held) :
    r.OfferedIn pools := by
  obtain ⟨pool, n, found, value, used⟩ := booked.exists_pool member
  exact offeredIn_iff.mpr
    ⟨pool, n, found, value?_of_valueOf value, (booked.valid _ _ found).1.used_usable n used⟩

/-- What a record keeps whatever pod has it: its ordinal, its subnet, and the value of its address there. -/
def place (r : Record) : Option OrdinalKey × String × Option Nat := (r.key?, r.subnet, r.value?)

end Record

namespace Allocator
variable {a a' : Allocator} {w : Identity}

section Making
variable {macs : MacSource} {networks : List Network} {subnets : List Subnet} {store : Retention}

/-- An allocator that has just been made: nothing is in use, and the store is the one that was given. -/
structure JustMade (a : Allocator) (store : Retention) : Prop where
  active : a.active = []
  holders : a.holders = []
  limits : a.limits = []
  retention : a.retention = store
  booked : Booked a.pools []

theorem justMade_of_create (made : create macs networks subnets (some store) = .ok a) : JustMade a store := by
  obtain ⟨_, _, rfl, added, frame⟩ := create_eq_ok made
  rw [given_retention] at added frame
  have booked : Booked a.pools [] := foldlM_keeps (fun _ _ _ => booked_addSubnet) Booked.nothing added
  exact ⟨frame.active, frame.holders, frame.limits, frame.retention, booked⟩

theorem JustMade.records (just : JustMade a store) : a.records = store.records := by
  rw [Allocator.records, just.active, just.retention]
  rfl

theorem JustMade.steady (just : JustMade a store) (valid : Indexed [] [] store.groups) : Steady a where
  consistent := by
    refine ⟨?_, ?_⟩
    · rw [just.active, just.holders, just.retention]
      exact valid
    · rw [just.holders]
      simp
  same_key := by
    rw [Alike, just.active]
    simp

end Making

section Moving

theorem perm_of_bare {β : Type} {records others : List Record}
    (same : (records.map Record.bare).Perm (others.map Record.bare)) (p : Record → Bool) (f : Record → β)
    (p_bare : ∀ r, p r.bare = p r) (f_bare : ∀ r, f r.bare = f r) :
    ((records.filter p).map f).Perm ((others.filter p).map f) := by
  have read (records : List Record) : ((records.map Record.bare).filter p).map f = (records.filter p).map f := by
    simp only [List.filter_map, List.map_map, Function.comp_def, p_bare, f_bare]
  have moved := (same.filter p).map f
  rwa [read, read] at moved

theorem release_moves (steady : Steady a) (w : Identity) :
    ((a.release w).2.pools = a.pools ∧
        ((a.release w).2.records.map Record.bare).Perm (a.records.map Record.bare)) ∨
      (a.outlives (a.recordsFor w) = false ∧
        (a.release w).2.pools = ((a.without w).freeAll (a.recordsFor w)).2.pools ∧
        a.records.Perm (a.recordsFor w ++ (a.release w).2.records)) := by
  have valid := steady.consistent
  have outcome := steady.left w
  generalize (a.release w).2 = next at outcome
  cases outcome with
  | unchanged idle => exact .inl ⟨rfl, .refl _⟩
  | freed some_record ends =>
      refine .inr ⟨ends, by rw [freed_snd], ?_⟩
      rw [(freed_frame _ _).records]
      exact records_without valid some_record
  | @retained key some_record stays known vacant =>
      refine .inl ⟨rfl, ?_⟩
      have joined := records_retain (a := a.without w) vacant ((a.recordsFor w).map Record.unbound)
      have parted := (records_without valid some_record).map Record.bare
      refine (joined.map Record.bare).trans (List.Perm.trans ?_ parted.symm)
      rw [List.map_append, List.map_append, List.map_map]
      exact .refl _

end Moving

section Separate
variable {made : Allocator}

theorem perm_offered {pools : Table String Pool} {records given others : List Record}
    (parted : records.Perm (given ++ others)) (offered : ∀ r ∈ given, r.OfferedIn pools) :
    (records.filter fun r => r.OfferedIn pools).Perm (given ++ others.filter fun r => r.OfferedIn pools) ∧
      (records.filter fun r => ¬ r.OfferedIn pools).Perm (others.filter fun r => ¬ r.OfferedIn pools) := by
  have all : (given.filter fun r => r.OfferedIn pools) = given :=
    List.filter_eq_self.mpr fun r member => decide_eq_true (offered r member)
  have none : (given.filter fun r => ¬ r.OfferedIn pools) = [] :=
    List.filter_eq_nil_iff.mpr fun r member => by simpa using offered r member
  have ours := parted.filter fun r => r.OfferedIn pools
  have theirs := parted.filter fun r => ¬ r.OfferedIn pools
  rw [List.filter_append, all] at ours
  rw [List.filter_append, none, List.nil_append] at theirs
  exact ⟨ours, theirs⟩

/-- What allocations and releases keep of an allocator as it was made: the pools account for what they offer, and
what they do not offer stays what it was. -/
structure Separate (made a : Allocator) : Prop where
  steady : Steady a
  unlimited : a.limits = []
  registered : Registered a.pools
  ranges : cleared a.pools = cleared made.pools
  booked : Booked a.pools ((a.records.filter fun r => r.OfferedIn made.pools).map Record.spot)
  others : ((a.records.filter fun r => ¬ r.OfferedIn made.pools).map Record.place).Perm
    ((made.records.filter fun r => ¬ r.OfferedIn made.pools).map Record.place)

theorem Separate.bound (separate : Separate made a) (steady : Steady a') (limits : a'.limits = a.limits)
    (pools : a'.pools = a.pools) (moved : (a'.records.map Record.bare).Perm (a.records.map Record.bare)) :
    Separate made a' where
  steady := steady
  unlimited := limits.trans separate.unlimited
  registered := pools ▸ separate.registered
  ranges := pools ▸ separate.ranges
  booked := by
    have spots := perm_of_bare moved (fun r => r.OfferedIn made.pools) Record.spot (fun _ => rfl) fun _ => rfl
    rw [pools]
    exact separate.booked.perm spots.symm
  others := by
    have places := perm_of_bare moved (fun r => ¬ r.OfferedIn made.pools) Record.place (fun _ => rfl) fun _ => rfl
    exact places.trans separate.others

theorem separate_allocate (separate : Separate made a) (w : Identity) (c : Criteria)
    (eligible : Option (List String)) : Separate made (a.allocate w c eligible).2 := by
  have own : FromOwn a (.allocate w c eligible) := trivial
  have steady : Steady (a.allocate w c eligible).2 := steady_apply separate.steady own
  have limits := limits_allocate a w c eligible
  rcases allocate_moves separate.steady.consistent w c eligible with ⟨pools, moved⟩ | ⟨index, drawn, joined⟩
  · exact separate.bound steady limits pools moved
  · have served := served_allocate separate.registered w c eligible
    have ranges := served.cleared.trans separate.ranges
    have booked : Booked (a.allocateFresh w index c eligible).2.pools _ :=
      booked_allocateFresh separate.booked w index c eligible
    rw [← drawn] at booked
    -- What a pool hands out it offers.
    have offered : ∀ r ∈ recordsIn (a.allocateFresh w index c eligible).1, r.OfferedIn made.pools := by
      intro r member
      rw [← Record.offeredIn_cleared, ← ranges, Record.offeredIn_cleared]
      exact Record.offeredIn_of_booked booked (List.mem_append_left _ (List.mem_map_of_mem member))
    obtain ⟨ours, theirs⟩ := perm_offered joined offered
    rw [← List.map_append] at booked
    exact {
      steady := steady
      unlimited := limits.trans separate.unlimited
      registered := separate.registered.of_served served
      ranges := ranges
      booked := booked.perm (ours.map Record.spot).symm
      others := (theirs.map Record.place).trans separate.others }

/-- While nothing is scaled, a release frees nothing but what a pool has handed out. -/
theorem Separate.offered_of_freed (separate : Separate made a) (keyed : ∀ r ∈ made.records, r.isStateful = true)
    (ends : a.outlives (a.recordsFor w) = false) : ∀ r ∈ a.recordsFor w, r.OfferedIn made.pools := by
  intro r member
  by_contra unoffered
  have some_record := List.ne_nil_of_mem member
  have listed : r ∈ a.records :=
    (records_without separate.steady.consistent some_record).mem_iff.mpr (List.mem_append_left _ member)
  -- What is not offered has an ordinal from the beginning, and that outlives the pod.
  obtain ⟨origin, first, same⟩ := List.mem_map.mp (separate.others.mem_iff.mp
    (List.mem_map_of_mem (List.mem_filter.mpr ⟨listed, decide_eq_true unoffered⟩)))
  obtain ⟨key, known⟩ := origin.isStateful_iff.mp (keyed origin (List.mem_filter.mp first).1)
  have stateful : r.isStateful = true := r.isStateful_iff.mpr ⟨key, (Prod.mk.inj same).1 ▸ known⟩
  obtain ⟨key, alike⟩ := separate.steady.common_key some_record ⟨r, member, stateful⟩
  have allows : Allows a key := by
    intro limit found
    rw [separate.unlimited] at found
    cases found
  rw [allows.outlives alike] at ends
  cases ends

theorem separate_release (separate : Separate made a) (keyed : ∀ r ∈ made.records, r.isStateful = true)
    (w : Identity) : Separate made (a.release w).2 := by
  have own : FromOwn a (.release w) := trivial
  have steady : Steady (a.release w).2 := steady_apply separate.steady own
  have limits := limits_release a w
  rcases release_moves separate.steady w with ⟨pools, moved⟩ | ⟨ends, freed, parted⟩
  · exact separate.bound steady limits pools moved
  · have served := served_release separate.registered w
    obtain ⟨ours, theirs⟩ := perm_offered parted (separate.offered_of_freed keyed ends)
    have booked := separate.booked.perm (ours.map Record.spot)
    rw [List.map_append] at booked
    exact {
      steady := steady
      unlimited := limits.trans separate.unlimited
      registered := separate.registered.of_served served
      ranges := served.cleared.trans separate.ranges
      booked := freed ▸ booked_freeAll_snd (a := a.without w) booked
      others := (theirs.map Record.place).symm.trans separate.others }

theorem separate_run (separate : Separate made a) (keyed : ∀ r ∈ made.records, r.isStateful = true)
    {ops : List Op} (leases : ∀ op ∈ ops, op.leases = true) : Separate made (a.run ops) := by
  have step (b : Allocator) (op : Op) (leases : op.leases = true) (separate : Separate made b) :
      Separate made (b.apply op).2 := by
    cases op with
    | allocate w c eligible => exact separate_allocate separate w c eligible
    | release w => exact separate_release separate keyed w
    | _ => cases leases
  exact run_keeps step (along_of_all leases) separate

theorem Separate.apart (separate : Separate made a) (first : made.records.Pairwise fun r s => ¬ r.Shares s) :
    a.records.Pairwise fun r s => ¬ r.Shares s := by
  have parted := List.filter_append_perm (fun r => decide (r.OfferedIn made.pools)) a.records
  have others := separate.others
  simp only [decide_not] at others
  refine (parted.pairwise_iff symm).mp (List.pairwise_append.mpr ⟨?_, ?_, ?_⟩)
  · -- The books hold a spot once.
    refine (List.pairwise_map.mp separate.booked.single).imp_of_mem ?_
    rintro r s left right different ⟨subnet, n, here, there⟩
    exact different (separate.booked.same_spot (List.mem_map_of_mem left) (List.mem_map_of_mem right) subnet
      (here.trans there.symm))
  · -- Records of the same places share the same addresses.
    let apart (p q : Option OrdinalKey × String × Option Nat) : Prop :=
      ¬ (p.2.1 = q.2.1 ∧ ∃ n, p.2.2 = some n ∧ q.2.2 = some n)
    have symmetric {p q} (pq : apart p q) : apart q p := by
      rintro ⟨subnet, n, left, right⟩
      exact pq ⟨subnet.symm, n, right, left⟩
    have before : ((made.records.filter fun r => !decide (r.OfferedIn made.pools)).map Record.place).Pairwise apart :=
      List.pairwise_map.mpr (first.filter _)
    exact List.pairwise_map.mp ((others.pairwise_iff symmetric).mpr before)
  · intro r offered s unoffered shares
    have mine := of_decide_eq_true (List.mem_filter.mp offered).2
    have theirs := (List.mem_filter.mp unoffered).2
    simp [Record.offeredIn_of_shares shares mine] at theirs

end Separate

section Respecting
variable {macs : MacSource} {networks : List Network} {subnets : List Subnet} {calls : List Retention.Call}

/-- What is retained keeps its address: an allocation gives none that is retained for another ordinal, and no two
records share one. -/
structure Respects (a : Allocator) : Prop where
  elsewhere : ∀ w c eligible given, (a.allocate w c eligible).1 = .ok given →
    ∀ r ∈ given, ∀ s ∈ a.retention.records, r.key? ≠ s.key? → ¬ r.Shares s
  apart : a.records.Pairwise fun r s => ¬ r.Shares s

theorem mem_records_allocate (valid : Consistent a) {s : Record} (member : s ∈ a.records) (w : Identity) (c : Criteria)
    (eligible : Option (List String)) :
    ∃ s' ∈ (a.allocate w c eligible).2.records, s'.bare = s.bare := by
  rcases allocate_moves valid w c eligible with ⟨_, moved⟩ | ⟨index, _, joined⟩
  · exact List.mem_map.mp (moved.mem_iff.mpr (List.mem_map_of_mem member))
  · exact ⟨s, joined.mem_iff.mpr (List.mem_append_right _ member), rfl⟩

theorem Separate.respects {made : Allocator} (separate : Separate made a)
    (first : made.records.Pairwise fun r s => ¬ r.Shares s) : Respects a where
  apart := separate.apart first
  elsewhere := by
    intro w c eligible given answer r member s retained different shares
    have valid := separate.steady.consistent
    have after := separate_allocate separate w c eligible
    have listed : r ∈ (a.allocate w c eligible).2.records :=
      List.mem_append_left _ ((Table.mem_members after.steady.consistent.active_unique).mpr
        ⟨_, _, active_allocate valid answer, member⟩)
    obtain ⟨s', other, same⟩ := mem_records_allocate valid (List.mem_append_right _ retained) w c eligible
    have distinct : r ≠ s' := by
      rintro rfl
      exact different (congrArg Record.key? same :)
    obtain ⟨subnet, n, left, right⟩ := shares
    exact (after.apart first).forall listed other distinct
      ⟨subnet.trans (congrArg Record.subnet same).symm, n, left, (congrArg Record.value? same).trans right⟩

/-- What a given store retains is safe just if no two of its records share an address and the pools offer none of
these. What they offer comes, after enough pods, into the hands of one of them. -/
theorem respects_always_iff (made : create macs networks subnets (some (({} : Retention).run calls)) = .ok a) :
    (∀ ops, (∀ op ∈ ops, op.leases = true) → Respects (a.run ops)) ↔
      ((({} : Retention).run calls).records.Pairwise fun r s => ¬ r.Shares s) ∧
        ∀ r ∈ (({} : Retention).run calls).records, ¬ r.OfferedIn a.pools := by
  generalize filled : ({} : Retention).run calls = store at made
  have valid : Indexed [] [] store.groups := filled ▸ Retention.indexed_run .nothing calls
  have just := justMade_of_create made
  constructor
  · intro respects
    refine ⟨just.records ▸ (respects [] (by simp)).apart, fun r member offered => ?_⟩
    obtain ⟨pool, n, found, value, usable⟩ := Record.offeredIn_iff.mp offered
    have filling : Filling a := {
      consistent := (just.steady valid).consistent
      networked := networked_of_create made
      booked := by
        rw [just.active]
        exact just.booked }
    obtain ⟨ops, leases, filled, kept, pool', found', used⟩ := fills filling found usable
    obtain ⟨x, active, spot⟩ := List.mem_map.mp ((filled.booked.mem_iff found').mpr used)
    have retained : r ∈ (a.run ops).retention.records := by
      rwa [kept, just.retention]
    obtain ⟨subnet, held⟩ := value?_of_spot spot
    exact (List.pairwise_append.mp (respects ops leases).apart).2.2 x active r retained ⟨subnet, n, held, value⟩
  · rintro ⟨apart, unoffered⟩ ops leases
    have keyed : ∀ r ∈ store.records, r.isStateful = true := by
      intro r member
      obtain ⟨key, group, found, inside⟩ := (Table.mem_members valid.groups_unique).mp member
      exact r.isStateful_iff.mpr ⟨key, ((valid.kept key group found).2 r inside).1⟩
    rw [← just.records] at apart unoffered keyed
    have nothing : (a.records.filter fun r => r.OfferedIn a.pools) = [] :=
      List.filter_eq_nil_iff.mpr fun r member => by simpa using unoffered r member
    have separate : Separate a a := {
      steady := just.steady valid
      unlimited := just.limits
      registered := registered_of_reachable (.made made)
      ranges := rfl
      booked := by
        rw [nothing]
        exact just.booked
      others := .refl _ }
    exact (separate_run separate keyed leases).respects apart

def retaining (address : String) : Retention := ({} : Retention).run [.retain [webRecord address ""]]

def sampleOver (address : String) : Allocator :=
  (create sampleMacs [sampleNetwork] sampleSubnets (some (retaining address))).toOption.getD sample

/-- The next pod is given the address that is retained, if it is the first of its pool. -/
theorem offered_shared :
    create sampleMacs [sampleNetwork] sampleSubnets (some (retaining "10.0.0.1")) = .ok (sampleOver "10.0.0.1") ∧
      ¬ Respects ((sampleOver "10.0.0.1").run [.allocate (lonePod "u1") ⟨.underlay, [.v4]⟩ none]) := by
  refine ⟨eq_ok_of_isOk (by decide +kernel) _, fun respects => ?_⟩
  exact absurd respects.apart (by decide +kernel)

theorem unoffered_respected :
    (retaining "10.0.0.9").records = [webRecord "10.0.0.9" ""] ∧
      create sampleMacs [sampleNetwork] sampleSubnets (some (retaining "10.0.0.9")) = .ok (sampleOver "10.0.0.9") ∧
      ∀ ops, (∀ op ∈ ops, op.leases = true) → Respects ((sampleOver "10.0.0.9").run ops) := by
  have made : create sampleMacs [sampleNetwork] sampleSubnets (some (retaining "10.0.0.9")) =
      .ok (sampleOver "10.0.0.9") := eq_ok_of_isOk (by decide +kernel) sample
  exact ⟨by decide +kernel, made, (respects_always_iff made).mpr (by decide +kernel)⟩

end Respecting

end Allocator
end PodAddressing
