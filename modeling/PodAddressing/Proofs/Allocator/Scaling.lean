import PodAddressing.Proofs.Allocator.Accounts
import PodAddressing.Proofs.Allocator.Churn
/-!
Retention and replica counts. A release compares the ordinal of the pod that leaves with the count noted for the
name of its owner; a purge notes a count and compares with it every ordinal that is retained. Both spare the records
of another owner of that name, so nothing stays retained beyond the count that is noted for it.
-/

namespace PodAddressing

theorem Retention.storedUID_of_same {group : List Record} {r : Record} (member : r ∈ group)
    (same : ∀ s ∈ group, s.binding.owner = r.binding.owner) : storedUID group = r.binding.owner.uid := by
  obtain ⟨first, rest, rfl⟩ := List.exists_cons_of_ne_nil (List.ne_nil_of_mem member)
  change first.binding.owner.uid = _
  rw [same first List.mem_cons_self]

namespace Allocator
variable {a a' : Allocator} {w : Identity} {r s : Record}

section Owners
variable {records new old : List Record}

/-- Records of one ordinal that one pod has, or that are retained, belong to one owner. -/
def OneOwner (records : List Record) : Prop :=
  ∀ r ∈ records, ∀ s ∈ records, r.binding.podUID = s.binding.podUID → r.key? = s.key? →
    r.binding.owner = s.binding.owner

theorem OneOwner.of_fewer (one : OneOwner records) (fewer : ∀ r ∈ new, r ∈ records) : OneOwner new :=
  fun r left s right => one r (fewer r left) s (fewer s right)

theorem OneOwner.append (one : OneOwner old)
    (own : ∀ r ∈ new, ∀ s ∈ new, r.binding.owner = s.binding.owner)
    (apart : ∀ r ∈ new, ∀ s ∈ old, r.binding.podUID = s.binding.podUID → r.key? ≠ s.key?) :
    OneOwner (new ++ old) := by
  intro r left s right pod key
  rcases List.mem_append.mp left with first | first
  · rcases List.mem_append.mp right with second | second
    · exact own r first s second
    · exact absurd key (apart r first s second pod)
  · rcases List.mem_append.mp right with second | second
    · exact absurd key.symm (apart s second r first pod.symm)
    · exact one r first s second pod key

theorem Consistent.other_pod (valid : Consistent a) (named : w.podUID ≠ "") (had : a.recordsFor w = [])
    (member : r ∈ a.records) : r.binding.podUID ≠ w.podUID := by
  intro same
  obtain ⟨group, found, _⟩ := valid.mem_active.mp (valid.mem_active_iff.mpr ⟨member, by rwa [same]⟩)
  rw [same, valid.recordsFor_eq_nil had] at found
  cases found

theorem OneOwner.of_pod (valid : Consistent a) (one : OneOwner a.records) {key : OrdinalKey}
    (known : ∀ r ∈ a.recordsFor w, r.key? = some key) :
    ∀ r ∈ a.recordsFor w, ∀ s ∈ a.recordsFor w, r.binding.owner = s.binding.owner := by
  intro r left s right
  obtain ⟨found, _⟩ := valid.recordsFor_eq_some (List.ne_nil_of_mem left)
  have own := (valid.bound _ _ found).2.2
  exact one r (valid.mem_records found left) s (valid.mem_records found right)
    ((own r left).trans (own s right).symm) ((known r left).trans (known s right).symm)

theorem oneOwner_allocate (valid : Consistent a) (one : OneOwner a.records) (w : Identity) (c : Criteria)
    (eligible : Option (List String)) : OneOwner (a.allocate w c eligible).2.records := by
  have outcome := allocate_cases a w c eligible
  generalize a.allocate w c eligible = result at outcome
  cases outcome with
  | kept had some_record => exact one
  | refused fault => exact one
  | failed index fresh frame =>
      rw [frame.records]
      exact one
  | @rebound key kept named had stateful vacant retained fits =>
      have parted := records_erase_group valid retained
      have joined := records_bind (a := { a with retention := ⟨a.retention.groups.erase key⟩ })
        (valid.recordsFor_eq_nil had) (some key) (kept.map (·.boundTo w.podUID w.podName w.nodeName))
      have inside (r : Record) (member : r ∈ kept) : r ∈ a.records :=
        parted.mem_iff.mpr (List.mem_append_left _ member)
      have outside (r : Record) (member) : r ∈ a.records := parted.mem_iff.mpr (List.mem_append_right _ member)
      have known := (valid.kept key kept retained).2
      refine OneOwner.of_fewer (OneOwner.append (one.of_fewer outside) ?_ ?_) fun r => joined.mem_iff.mp
      · intro r left s right
        obtain ⟨r, first, rfl⟩ := List.mem_map.mp left
        obtain ⟨s, second, rfl⟩ := List.mem_map.mp right
        have unbound := (known r first).2.1.trans (known s second).2.1.symm
        exact one r (inside r first) s (inside s second) unbound
          ((known r first).1.trans (known s second).1.symm)
      · intro r left s right pod
        obtain ⟨r, _, rfl⟩ := List.mem_map.mp left
        exact absurd pod.symm (valid.other_pod named had (outside s right))
  | @fresh key records a' named had stateful vacant unretained some_family given frame =>
      have absent : a'.active.get? w.podUID = none := by
        rw [frame.active]
        exact valid.recordsFor_eq_nil had
      have joined := records_bind absent key records
      rw [frame.records] at joined
      have fresh := (allocateFresh_records given).2
      refine (one.append ?_ ?_).of_fewer fun r => joined.mem_iff.mp
      · intro r left s right
        rw [(fresh r left).2.2, (fresh s right).2.2]
      · intro r left s right pod
        rw [(fresh r left).2.2] at pod
        exact absurd pod.symm (valid.other_pod named had right)

theorem oneOwner_release (steady : Steady a) (one : OneOwner a.records) (w : Identity) :
    OneOwner (a.release w).2.records := by
  have valid := steady.consistent
  have outcome := steady.left w
  generalize (a.release w).2 = next at outcome
  have left (some_record : a.recordsFor w ≠ []) : OneOwner (a.without w).records :=
    one.of_fewer fun r member =>
      (records_without valid some_record).mem_iff.mpr (List.mem_append_right _ member)
  cases outcome with
  | unchanged idle => exact one
  | freed some_record ends =>
      rw [(freed_frame _ _).records]
      exact left some_record
  | @retained key some_record stays known vacant =>
      have joined := records_retain (a := a.without w) vacant ((a.recordsFor w).map Record.unbound)
      refine OneOwner.of_fewer (OneOwner.append (left some_record) ?_ ?_) fun r => joined.mem_iff.mp
      · intro r unbound s unbound'
        obtain ⟨r, first, rfl⟩ := List.mem_map.mp unbound
        obtain ⟨s, second, rfl⟩ := List.mem_map.mp unbound'
        exact one.of_pod valid known r first s second
      · -- What is retained already is of other ordinals.
        intro r unbound s other pod same
        obtain ⟨r, first, rfl⟩ := List.mem_map.mp unbound
        rcases List.mem_append.mp other with active | retained
        · exact absurd pod.symm ((valid.without w).named active)
        · obtain ⟨key', group, found, known', _⟩ := (valid.without w).retained retained
          rw [← same, Record.unbound_key?, known r first] at known'
          cases known'
          rw [show (a.without w).retention = a.retention from rfl, vacant] at found
          cases found

theorem oneOwner_apply (steady : Steady a) (one : OneOwner a.records) {op : Op} (own : FromOwn a op) :
    OneOwner (a.apply op).2.records := by
  cases op with
  | allocate w c eligible => exact oneOwner_allocate steady.consistent one w c eligible
  | release w => exact oneOwner_release steady one w
  | rebuild records =>
      have same : records = a.records := own
      subst same
      exact one.of_fewer fun r => mem_rebuild
  | _ => exact one.of_fewer fun r => mem_records_apply steady.consistent rfl

end Owners

section Within

theorem isBeyondLimit_of_limits (same : a'.limits = a.limits) (r : Record) :
    a'.isBeyondLimit r = a.isBeyondLimit r := by
  rw [isBeyondLimit, isBeyondLimit, same]

theorem isBeyondLimit_of_alike {key : OrdinalKey} (known : r.key? = some key) (known' : s.key? = some key)
    (owner : r.binding.owner = s.binding.owner) : a.isBeyondLimit r = a.isBeyondLimit s := by
  rw [Bool.eq_iff_iff, isBeyondLimit_iff known, isBeyondLimit_iff known', owner]

def Limited (a : Allocator) : Prop := ∀ r ∈ a.retention.records, a.isBeyondLimit r = false

theorem Limited.of_fewer (limited : Limited a) (limits : a'.limits = a.limits)
    (fewer : ∀ r ∈ a'.retention.records, r ∈ a.retention.records) : Limited a' := by
  intro r member
  rw [isBeyondLimit_of_limits limits]
  exact limited r (fewer r member)

theorem limited_allocate (valid : Consistent a) (limited : Limited a) (w : Identity) (c : Criteria)
    (eligible : Option (List String)) : Limited (a.allocate w c eligible).2 := by
  refine limited.of_fewer (limits_allocate a w c eligible) ?_
  have outcome := allocate_cases a w c eligible
  generalize a.allocate w c eligible = result at outcome
  cases outcome with
  | kept had some_record => exact fun r member => member
  | refused fault => exact fun r member => member
  | failed index fresh frame =>
      rw [frame.retention]
      exact fun r member => member
  | rebound named had stateful vacant retained fits =>
      exact fun r member =>
        (Table.members_erase valid.groups_unique retained).mem_iff.mpr (List.mem_append_right _ member)
  | @fresh key records a' named had stateful vacant unretained some_family given frame =>
      change ∀ r ∈ a'.retention.records, r ∈ a.retention.records
      rw [frame.retention]
      exact fun r member => member

/-- A release retains what is below the limit; the first record of the pod speaks for all. -/
theorem limited_release (steady : Steady a) (one : OneOwner a.records) (limited : Limited a) (w : Identity) :
    Limited (a.release w).2 := by
  have valid := steady.consistent
  have limits := limits_release a w
  have outcome := steady.left w
  generalize (a.release w).2 = next at outcome limits
  have left : Limited (a.without w) := limited
  cases outcome with
  | unchanged idle => exact limited
  | freed some_record ends =>
      refine left.of_fewer (freed_frame _ _).limits ?_
      rw [(freed_frame _ _).retention]
      exact fun r member => member
  | @retained key some_record stays known vacant =>
      intro r member
      rw [isBeyondLimit_of_limits limits]
      have joined : r ∈ (a.retention.groups.put key _).values.flatten := member
      rw [Table.members_put vacant] at joined
      rcases List.mem_append.mp joined with before | new
      · exact limited r before
      · obtain ⟨r, inside, rfl⟩ := List.mem_map.mp new
        obtain ⟨first, rest, whole⟩ := List.exists_cons_of_ne_nil some_record
        have head : first ∈ a.recordsFor w := by rw [whole]; exact List.mem_cons_self
        have owner := one.of_pod valid known r inside first head
        have spared : a.isBeyondLimit first = false := by
          rwa [whole, outlives_cons (whole ▸ known), Bool.not_eq_true'] at stays
        change a.isBeyondLimit r = false
        rw [isBeyondLimit_of_alike (known r inside) (known first head) owner, spared]

/-- A purge takes whatever is beyond the limit that it notes. -/
theorem limited_purgeOwner (valid : Consistent a) (one : OneOwner a.records) (limited : Limited a)
    (ns : String) (owner : Owner) (keep : Option Int) : Limited (a.purgeOwner ns owner keep).2 := by
  intro r member
  rw [retention_purgeOwner] at member
  obtain ⟨group, listed, inside⟩ := List.mem_flatten.mp member
  obtain ⟨⟨key, group⟩, kept, rfl⟩ := List.mem_map.mp listed
  obtain ⟨stored, unpurged⟩ := List.mem_filter.mp kept
  have found := Table.get?_of_mem valid.groups_unique stored
  have known := (valid.kept key group found).2
  have before (s : Record) (own : s ∈ group) : s ∈ a.retention.records :=
    (Table.mem_members valid.groups_unique).mpr ⟨key, group, found, own⟩
  have uid : Retention.storedUID group = r.binding.owner.uid := by
    apply Retention.storedUID_of_same inside
    intro s own
    exact one s (List.mem_append_right _ (before s own)) r (List.mem_append_right _ (before r inside))
      ((known s own).2.1.trans (known r inside).2.1.symm) ((known s own).1.trans (known r inside).1.symm)
  rw [← Bool.not_eq_true, isBeyondLimit_iff (known r inside).1]
  rintro ⟨limit, noted, apart, beyond⟩
  rw [limits_purgeOwner, Table.get?_put] at noted
  split at noted
  case isTrue same =>
    cases noted
    obtain ⟨rfl, kind, name⟩ := OwnerName.mk.inj same
    have purged : Retention.isPurged key.ns owner keep (key, group) = true := by
      refine Retention.isPurged_iff.mpr ⟨rfl, kind.symm, name.symm, ?_, by rwa [uid]⟩
      rintro replicas rfl
      exact beyond
    rw [purged] at unpurged
    cases unpurged
  case isFalse =>
    have allowed := limited r (before r inside)
    rw [← Bool.not_eq_true, isBeyondLimit_iff (known r inside).1] at allowed
    exact allowed ⟨limit, noted, apart, beyond⟩

theorem limited_apply (steady : Steady a) (one : OneOwner a.records) (limited : Limited a) {op : Op}
    (own : FromOwn a op) : Limited (a.apply op).2 := by
  have valid := steady.consistent
  -- What was among the records and is retained afterwards was retained before.
  have still (limits : (a.apply op).2.limits = a.limits)
      (fewer : ∀ r ∈ (a.apply op).2.records, r ∈ a.records) : Limited (a.apply op).2 := by
    refine limited.of_fewer limits fun r member => ?_
    obtain ⟨_, _, _, _, free, _⟩ := (consistent_apply valid op).retained member
    rcases List.mem_append.mp (fewer r (List.mem_append_right _ member)) with active | retained
    · exact absurd free (valid.named active)
    · exact retained
  cases op with
  | addNetwork network => exact limited
  | addSubnet subnet =>
      exact still (registered_frame fun _ => addSubnet_frame).limits fun r => mem_records_apply valid rfl
  | removeSubnet name =>
      exact still (registered_frame fun _ => removeSubnet_frame).limits fun r => mem_records_apply valid rfl
  | allocate w c eligible => exact limited_allocate valid limited w c eligible
  | release w => exact limited_release steady one limited w
  | purge w => exact still (limits_purge a w) fun r => mem_records_apply valid rfl
  | purgeOwner ns owner keep => exact limited_purgeOwner valid one limited ns owner keep
  | rebuild records =>
      have same : records = a.records := own
      subst same
      exact still rfl fun r => mem_rebuild

end Within

section Runs
variable {ops : List Op}

structure Scaled (a : Allocator) : Prop where
  steady : Steady a
  one_owner : OneOwner a.records
  limited : Limited a

theorem scaled_apply (scaled : Scaled a) {op : Op} (own : FromOwn a op) : Scaled (a.apply op).2 where
  steady := steady_apply scaled.steady own
  one_owner := oneOwner_apply scaled.steady scaled.one_owner own
  limited := limited_apply scaled.steady scaled.one_owner scaled.limited own

theorem scaled_of_run (start : Started a) (own : Along FromOwn a ops) : Scaled (a.run ops) := by
  have step (b : Allocator) (op : Op) (own : FromOwn b op) (scaled : Scaled b) : Scaled (b.apply op).2 :=
    scaled_apply scaled own
  have bare (macs : MacSource) : Scaled { macs := macs } :=
    ⟨steady_bare macs, List.forall_mem_nil _, List.forall_mem_nil _⟩
  exact run_keeps step own (started_keeps bare (fun _ _ => trivial) (fun _ _ => trivial) step start)

/-- An ordinal with retained records is below the count noted for its owner, unless that was seen for another. -/
def WithinLimits (a : Allocator) : Prop :=
  ∀ entry ∈ a.retention.groups, ∀ limit,
    a.limits.get? ⟨entry.1.ns, entry.1.kind, entry.1.owner⟩ = some limit →
    entry.1.index < limit.replicas ∨
      ∀ r ∈ entry.2, limit.uid ≠ "" ∧ r.binding.owner.uid ≠ "" ∧ limit.uid ≠ r.binding.owner.uid

theorem within_limits_of_run (start : Started a) (own : Along FromOwn a ops) : WithinLimits (a.run ops) := by
  obtain ⟨steady, _, limited⟩ := scaled_of_run start own
  have valid := steady.consistent
  rintro ⟨key, group⟩ listed limit noted
  have found := Table.get?_of_mem valid.groups_unique listed
  by_cases below : key.index < limit.replicas
  · exact .inl below
  · right
    intro r inside
    by_contra alike
    have within := limited r ((Table.mem_members valid.groups_unique).mpr ⟨key, group, found, inside⟩)
    rw [← Bool.not_eq_true, isBeyondLimit_iff ((valid.kept key group found).2 r inside).1] at within
    refine within ⟨limit, noted, ?_, by omega⟩
    simp only [Owner.uidsClash, Bool.and_eq_false_iff, decide_eq_false_iff_not]
    tauto

/-- A set is scaled down and up again and made anew, while its pods come and go. -/
def rescaled : List Op := [
  .allocate (webPod "web-0" "u1") ⟨.underlay, [.v4, .v6]⟩ none,
  .allocate (webPod "web-1" "u2") ⟨.underlay, [.v4]⟩ none,
  .allocate (webPod "web-2" "u3") ⟨.underlay, [.v4]⟩ none,
  .release (webPod "web-0" "u1"),
  .purgeOwner "shop" ⟨"StatefulSet", "web", "set-1"⟩ (some 1),
  .release (webPod "web-1" "u2"),
  .purgeOwner "shop" ⟨"StatefulSet", "web", "set-1"⟩ (some 3),
  .release (webPod "web-2" "u3"),
  .purgeOwner "shop" ⟨"StatefulSet", "web", "set-2"⟩ (some 1)]

theorem rescaled_within_limits :
    let ops := rescaled ++ [.rebuild (sample.run rescaled).records]
    ((sample.run ops).retention.groups.map fun (key, group) => (key.index, group.map (·.address))) =
        [(0, ["10.0.0.1", "::9"]), (2, ["10.0.0.3"])] ∧
      (sample.run ops).limits = [(⟨"shop", "StatefulSet", "web"⟩, ⟨"set-2", 1⟩)] ∧
      WithinLimits (sample.run ops) := by
  have own : Along FromOwn sample (rescaled ++ [.rebuild (sample.run rescaled).records]) :=
    along_append.mpr ⟨by simp [rescaled, Along, FromOwn], rfl, trivial⟩
  exact ⟨by decide +kernel, by decide +kernel, within_limits_of_run sample_started own⟩

end Runs

end Allocator
end PodAddressing
