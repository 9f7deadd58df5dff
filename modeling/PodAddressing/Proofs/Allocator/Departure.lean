import PodAddressing.Proofs.Allocator.Ownership
import PodAddressing.Proofs.Allocator.Run
/-!
Addresses that are lost. A release takes the records from a pod before it retains them. If they are of several
ordinals they are not retained, and their addresses stay marked though nobody has them. Whether all that is
marked is carried by a record is therefore decided by the releases since everything was last rebuilt.
-/

namespace PodAddressing.Allocator
variable {a : Allocator} {stray : List Spot}

def strays : Allocator → List Spot → List Op → List Spot
  | _, stray, [] => stray
  | a, stray, op :: rest => strays (a.apply op).2 (a.strayAfter stray op) rest

theorem accounts_run (valid : Consistent a) (accounts : Accounts a stray) (ops : List Op) :
    Accounts (a.run ops) (a.strays stray ops) := by
  induction ops generalizing a stray with
  | nil => exact accounts
  | cons op rest ih => exact ih (consistent_apply valid op) (accounts_apply valid accounts op)

theorem accounts_of_started (start : Started a) : Consistent a ∧ Accounts a [] := by
  have step (b : Allocator) (op : Op) (kept : b.strayAfter [] op = [])
      (holds : Consistent b ∧ Accounts b []) :
      Consistent (b.apply op).2 ∧ Accounts (b.apply op).2 [] := by
    have accounts := accounts_apply holds.1 holds.2 op
    rw [kept] at accounts
    exact ⟨consistent_apply holds.1 op, accounts⟩
  have bare (macs : MacSource) : Consistent { macs := macs } ∧ Accounts { macs := macs } [] :=
    ⟨consistent_bare macs, Booked.nothing⟩
  exact started_keeps bare (fun _ _ => rfl) (fun _ _ => rfl) step start

/-- Every value that is marked in a pool is that of the address of some record of its subnet. -/
def Carried (a : Allocator) : Prop :=
  ∀ entry ∈ a.pools, ∀ n ∈ entry.2.used, ∃ r ∈ a.records, r.subnet = entry.1 ∧ r.value? = some n

instance (a : Allocator) : Decidable a.Carried :=
  inferInstanceAs (Decidable (∀ entry ∈ a.pools, ∀ n ∈ entry.2.used,
    ∃ r ∈ a.records, r.subnet = entry.1 ∧ r.value? = some n))

theorem carried_iff (accounts : Accounts a stray) : Carried a ↔ stray = [] := by
  constructor
  · intro carried
    by_contra lost
    obtain ⟨⟨name, within⟩, rest, rfl⟩ := List.exists_cons_of_ne_nil lost
    obtain ⟨pool, n, found, used, rfl⟩ :=
      (accounts.marked name within).mp (List.mem_append_right _ List.mem_cons_self)
    obtain ⟨r, member, rfl, value⟩ := carried _ (Table.mem_of_get? found) n used
    -- The record has the spot that is lost, but no spot is held twice.
    obtain ⟨pool', n', found', read, _⟩ := accounts.exists_pool member
    rw [found] at found'
    cases found'
    rw [value?_of_valueOf read] at value
    cases value
    have apart := (List.nodup_append.mp accounts.single).2.2
    exact apart _ (List.mem_map_of_mem member) _ List.mem_cons_self (Booked.spot_of_value read)
  · rintro rfl ⟨name, pool⟩ listed n used
    exact ((exact_of_accounts accounts).used name pool listed n).mp used

theorem release_carries_iff (start : Started a) (ops : List Op) (w : Identity) :
    Carried ((a.run ops).release w).2 ↔ a.strays [] ops = [] ∧ ¬ (a.run ops).Loses w := by
  obtain ⟨valid, accounts⟩ := accounts_of_started start
  have valid' := consistent_of_run start ops
  have released := accounts_release valid' (accounts_run valid accounts ops) w
  rw [carried_iff released, strayAfter]
  by_cases loses : (a.run ops).Loses w
  · -- A pod whose records differ has records, and their spots are among those lost.
    have some_record : (a.run ops).recordsFor w ≠ [] := by
      intro none_had
      exact loses.2.2 (by simp [none_had])
    simp [loses, some_record]
  · simp [loses]

def scatteredRecords : List Record := [
  webRecord "10.0.0.1" "u1",
  { webRecord "10.0.0.2" "u1" with
    binding := ⟨"u1", "web-1", "", ⟨"StatefulSet", "web", "set-1"⟩, some 1⟩ }]

theorem scattered_not_carried :
    ¬ Carried ((sample.run [.rebuild scatteredRecords]).release (webPod "web-0" "u1")).2 := by
  decide +kernel

/-- The pod is released and lost track of, rebuilt, and this time its owner is deleted before it is released. -/
def gathered : List Op := [
  .rebuild scatteredRecords,
  .release (webPod "web-0" "u1"),
  .rebuild scatteredRecords,
  .purgeOwner "shop" ⟨"StatefulSet", "web", "set-1"⟩ none]

theorem gathered_carries :
    (sample.run gathered).recordsFor (webPod "web-0" "u1") = scatteredRecords ∧
      Carried ((sample.run gathered).release (webPod "web-0" "u1")).2 :=
  ⟨by decide +kernel, (release_carries_iff sample_started gathered (webPod "web-0" "u1")).mpr
    ⟨by decide +kernel, by decide +kernel⟩⟩

/-!
Pods that leave after their owner. The release of a pod frees what the pod has, or retains it for the next pod of
its ordinal; the replica count seen last for the name of its owner decides. A deletion notes a count of none, but
the next owner of that name overwrites it, and then the pods of the deleted one are retained again.
-/

variable {w : Identity} {ns : String} {owner : Owner}

section Freeing

/-- The release of a workload frees all that its pod has, and retains nothing. -/
structure Frees (a : Allocator) (w : Identity) : Prop where
  answered : (a.release w).1 = .ok (a.recordsFor w)
  unmarked : ∀ r ∈ a.recordsFor w, ∃ pool,
    (r.subnet, pool) ∈ (a.release w).2.pools ∧ pool.isUsed r.address = .ok false
  unretained : (a.release w).2.retention = a.retention

theorem frees_of_ends (valid : Consistent a) (accounts : Accounts a stray)
    (some_record : a.recordsFor w ≠ []) (bytes : w.hasBytes = true)
    (ends : a.outlives (a.recordsFor w) = false) : Frees a w := by
  have booked := accounts.split (records_without valid some_record)
  obtain ⟨a', done, _⟩ := booked_freeAll (a := a.without w) booked
  have unmarked (r : Record) (member : r ∈ a.recordsFor w) :=
    freeAll_unmarks (a := a.without w) booked member
  have frame := freeAll_frame (a.without w) (a.recordsFor w)
  have outcome := release_cases a w
  generalize given : a.release w = result at outcome
  cases outcome with
  | freed _ _ _ =>
      rw [done] at unmarked frame
      rw [freed, done] at given
      exact ⟨by rw [given], by rw [given]; exact unmarked, by rw [given]; exact frame.retention⟩
  | refused fault no_bytes => simp [bytes] at no_bytes
  | idle none_had => exact absurd none_had some_record
  | retained _ stays known vacant => simp [ends] at stays
  | clashed answer _ known occupied stays => simp [ends] at stays
  | lost fault _ stateful mixed _ stays => simp [ends] at stays

theorem frees_iff (valid : Consistent a) (accounts : Accounts a stray)
    (some_record : a.recordsFor w ≠ []) :
    Frees a w ↔ w.hasBytes = true ∧ a.outlives (a.recordsFor w) = false := by
  constructor
  · rintro ⟨answered, _, unretained⟩
    have outcome := release_cases a w
    generalize a.release w = result at outcome answered unretained
    cases outcome with
    | freed _ ends bytes => exact ⟨bytes, ends⟩
    | refused fault no_bytes => cases answered
    | idle none_had => exact absurd none_had some_record
    | @retained key _ stays known vacant =>
        -- The group that is retained was not there before.
        have now := congrArg (fun retention : Retention => retention.groups.get? key) unretained
        simp [vacant] at now
    | clashed answer _ known occupied stays =>
        rw [vacant_of_known valid some_record known] at occupied
        cases occupied
    | lost fault _ stateful mixed bytes stays => cases answered
  · rintro ⟨bytes, ends⟩
    exact frees_of_ends valid accounts some_record bytes ends

end Freeing

section Deletion

/-- The ordinal that is compared with the replica count is that of the first record. -/
def firstIndex? (records : List Record) : Option Int := records.head?.bind (·.binding.index)

/-- The records of a pod do not outlive it if one of them is of no ordinal, or if the count that is noted was
seen for their owner and leaves their ordinal out. -/
theorem ends_iff {limit : Limit} {records : List Record} (some_record : records ≠ [])
    (owned : ∀ r ∈ records, r.ns = ns ∧ r.binding.owner = owner)
    (noted : a.limits.get? (ownerName ns owner) = some limit) :
    a.outlives records = false ↔ (∃ r ∈ records, r.isStateful = false) ∨
      (Owner.uidsClash limit.uid owner.uid = false ∧
        ∀ index ∈ firstIndex? records, limit.replicas ≤ index) := by
  by_cases plain : ∃ r ∈ records, r.isStateful = false
  · have ends : records.all Record.isStateful = false := by simpa using plain
    simp [outlives, ends, plain]
  · have stateful : ∀ r ∈ records, r.isStateful = true := by simpa using plain
    obtain ⟨r, rest, rfl⟩ := List.exists_cons_of_ne_nil some_record
    obtain ⟨index, read⟩ := Option.isSome_iff_exists.mp (stateful r List.mem_cons_self)
    obtain ⟨rfl, rfl⟩ := owned r List.mem_cons_self
    have beyond : a.isBeyondLimit r =
        (!Owner.uidsClash limit.uid r.binding.owner.uid && decide (limit.replicas ≤ index)) := by
      simp only [isBeyondLimit, noted, read]
    have all : (r :: rest).all Record.isStateful = true := List.all_eq_true.mpr stateful
    rw [or_iff_right plain]
    simp [outlives, all, beyond, firstIndex?, read]

theorem noted_after_deletion (a : Allocator) (ns : String) (owner : Owner) (before after : List Op) :
    (a.run (before ++ .purgeOwner ns owner none :: after)).limits.get? (ownerName ns owner) =
      (after.filterMap (Op.limitOn? (ownerName ns owner))).getLast?.or (some ⟨owner.uid, 0⟩) := by
  rw [run_append, run_cons, limits_run, limits_apply, Op.limitOn?, if_pos rfl, Option.some_or]
  rfl

/-- After its owner has been deleted a pod is freed, unless an owner of that name has been seen again. -/
theorem frees_after_deletion_iff (start : Started a) {before after : List Op} (named : owner.uid ≠ "")
    (others : ∀ op ∈ after, ∀ limit, op.limitOn? (ownerName ns owner) = some limit →
      limit.uid ≠ owner.uid ∧ limit.uid ≠ "")
    (some_record : (a.run (before ++ .purgeOwner ns owner none :: after)).recordsFor w ≠ [])
    (owned : ∀ r ∈ (a.run (before ++ .purgeOwner ns owner none :: after)).recordsFor w,
      r.ns = ns ∧ r.binding.owner = owner) :
    let b := a.run (before ++ .purgeOwner ns owner none :: after)
    Frees b w ↔ w.hasBytes = true ∧ ((∃ r ∈ b.recordsFor w, r.isStateful = false) ∨
      ((∀ op ∈ after, op.limitOn? (ownerName ns owner) = none) ∧
        ∀ index ∈ firstIndex? (b.recordsFor w), 0 ≤ index)) := by
  intro b
  obtain ⟨valid, stray, accounts⟩ := accounts_of_run start (before ++ .purgeOwner ns owner none :: after)
  have noted := noted_after_deletion a ns owner before after
  rw [frees_iff valid accounts some_record]
  apply and_congr_right
  intro _
  cases last : (after.filterMap (Op.limitOn? (ownerName ns owner))).getLast? with
  | none =>
      rw [last, Option.none_or] at noted
      rw [ends_iff some_record owned noted]
      have unseen : ∀ op ∈ after, op.limitOn? (ownerName ns owner) = none :=
        List.filterMap_eq_nil_iff.mp (List.getLast?_eq_none_iff.mp last)
      have same : Owner.uidsClash owner.uid owner.uid = false := by simp [Owner.uidsClash]
      exact or_congr_right ((and_iff_right same).trans (and_iff_right unseen).symm)
  | some limit =>
      rw [last, Option.some_or] at noted
      rw [ends_iff some_record owned noted]
      obtain ⟨op, member, seen⟩ := List.mem_filterMap.mp (List.mem_of_getLast? last)
      obtain ⟨other, known⟩ := others op member limit seen
      have clash : ¬ Owner.uidsClash limit.uid owner.uid = false := by
        simp [Owner.uidsClash, other, known, named]
      have again : ¬ ∀ op ∈ after, op.limitOn? (ownerName ns owner) = none := by
        intro unseen
        rw [unseen op member] at seen
        cases seen
      exact or_congr_right (iff_of_false (fun beyond => clash beyond.1) fun freed => again freed.1)

def webOwner : Owner := ⟨"StatefulSet", "web", "set-1"⟩

def running : List Op := [.allocate (webPod "web-0" "u1") ⟨.underlay, [.v4, .v6]⟩ none]

def recreated : List Op := [.purgeOwner "shop" { webOwner with uid := "set-2" } (some 1)]

theorem recreated_retains :
    let b := sample.run (running ++ .purgeOwner "shop" webOwner none :: recreated)
    (∀ op ∈ recreated, ∀ limit, op.limitOn? (ownerName "shop" webOwner) = some limit →
      limit.uid ≠ webOwner.uid ∧ limit.uid ≠ "") ∧
    (b.recordsFor (webPod "web-0" "u1")).map (·.address) = ["10.0.0.1", "::9"] ∧
    (∀ r ∈ b.recordsFor (webPod "web-0" "u1"), r.ns = "shop" ∧ r.binding.owner = webOwner) ∧
      ¬ Frees b (webPod "web-0" "u1") := by
  have others : ∀ op ∈ recreated, ∀ limit, op.limitOn? (ownerName "shop" webOwner) = some limit →
      limit.uid ≠ webOwner.uid ∧ limit.uid ≠ "" := by
    simp [recreated, webOwner, Op.limitOn?, ownerName]
  refine ⟨others, by decide +kernel, by decide +kernel, ?_⟩
  rintro ⟨_, _, unretained⟩
  exact absurd unretained (by decide +kernel)

def orphaned : List Op := [
  .purgeOwner "shop" { webOwner with name := "db" } (some 3),
  .allocate (webPod "web-1" "u2") ⟨.underlay, [.v4]⟩ none,
  .release (webPod "web-1" "u2"),
  .purgeOwner "yard" { webOwner with uid := "set-2" } (some 1)]

theorem orphaned_frees :
    let b := sample.run (running ++ .purgeOwner "shop" webOwner none :: orphaned)
    (b.recordsFor (webPod "web-0" "u1")).map (·.address) = ["10.0.0.1", "::9"] ∧
      Frees b (webPod "web-0" "u1") := by
  intro b
  have none_seen : ∀ op ∈ orphaned, op.limitOn? (ownerName "shop" webOwner) = none := by
    simp [orphaned, webOwner, Op.limitOn?, ownerName]
  have had : (b.recordsFor (webPod "web-0" "u1")).map (·.address) = ["10.0.0.1", "::9"] := by
    decide +kernel
  have first : firstIndex? (b.recordsFor (webPod "web-0" "u1")) = some 0 := by decide +kernel
  refine ⟨had, (frees_after_deletion_iff sample_started (by decide) ?_ ?_ (by decide +kernel)).mpr
    ⟨by decide, .inr ⟨none_seen, ?_⟩⟩⟩
  · intro op member limit seen
    rw [none_seen op member] at seen
    cases seen
  · intro none_had
    rw [none_had] at had
    cases had
  · intro index read
    rw [first] at read
    cases read
    exact Int.le_refl 0

end Deletion

end PodAddressing.Allocator
