import PodAddressing.Proofs.Allocator.Bindings
import PodAddressing.Proofs.Allocator.Run
/-!
Ordinals through the churn of their pods. The records of an ordinal are one group, which is with a pod or
retained. Pods that come and go move the group between the two and rewrite who it is bound to, but never what
is leased: only a purge or a scaling below the ordinal ends that.
-/

namespace PodAddressing

namespace Record

/-- What a workload relies on: the address, and the subnet and the hardware address that go with it. -/
def lease (r : Record) : String × String × Family × String := (r.subnet, r.address, r.family, r.mac)

@[simp] theorem unbound_lease (r : Record) : r.unbound.lease = r.lease := rfl

@[simp] theorem boundTo_lease (r : Record) (podUID podName nodeName : String) :
    (r.boundTo podUID podName nodeName).lease = r.lease := rfl

end Record

namespace Allocator
variable {a a' : Allocator} {key : OrdinalKey} {group : List Record}

section Group

def recordsOf (a : Allocator) (key : OrdinalKey) : List Record :=
  a.records.filter fun r => r.key? = some key

/-- Records of one pod are all of one ordinal or all of none. -/
def SameKey (r s : Record) : Prop := r.key? = s.key?

def Has (a : Allocator) (key : OrdinalKey) (group : List Record) : Prop :=
  (∃ uid, a.active.get? uid = some group ∧ ∃ r ∈ group, r.key? = some key) ∨
    a.retention.groups.get? key = some group

theorem Alike.all_of_key (alike : Alike SameKey a) {uid : String}
    (found : a.active.get? uid = some group) {r : Record} (member : r ∈ group)
    (known : r.key? = some key) : ∀ s ∈ group, s.key? = some key := by
  intro s other
  rw [← known]
  exact (alike uid group found r member s other).symm

theorem filter_retained (valid : Consistent a) (key : OrdinalKey) :
    a.retention.records.filter (fun r => r.key? = some key) =
      (a.retention.groups.get? key).getD [] := by
  have others (key' : OrdinalKey) (group : List Record)
      (found : a.retention.groups.get? key' = some group) (different : key' ≠ key) :
      ∀ r ∈ group, decide (r.key? = some key) = false := by
    intro r member
    rw [((valid.kept key' group found).2 r member).1]
    simpa using different
  have mine := Table.filter_members valid.groups_unique _ others
  rw [Retention.records, mine]
  apply List.filter_eq_self.mpr
  intro r member
  obtain ⟨group, found, inside⟩ := Table.mem_group member
  exact decide_eq_true ((valid.kept key group found).2 r inside).1

theorem filter_active (valid : Consistent a) {uid : String} (held : a.holders.get? key = some uid) :
    a.active.values.flatten.filter (fun r => r.key? = some key) =
      ((a.active.get? uid).getD []).filter fun r => r.key? = some key := by
  apply Table.filter_members valid.active_unique
  intro uid' group found different r member
  by_contra known
  have holds := (valid.holds key uid').mpr ⟨group, found, r, member, by simpa using known⟩
  rw [held] at holds
  exact different (Option.some.inj holds).symm

theorem filter_active_nil (valid : Consistent a) (vacant : a.holders.get? key = none) :
    a.active.values.flatten.filter (fun r => r.key? = some key) = [] := by
  apply List.filter_eq_nil_iff.mpr
  intro r member known
  have held := valid.holder_iff.mpr ⟨r, member, by simpa using known, rfl⟩
  rw [vacant] at held
  cases held

theorem recordsOf_eq (valid : Consistent a) (alike : Alike SameKey a) (has : Has a key group) :
    a.recordsOf key = group := by
  rw [recordsOf, records, List.filter_append, filter_retained valid]
  rcases has with ⟨uid, found, r, member, known⟩ | retained
  · have held := (valid.holds key uid).mpr ⟨group, found, r, member, known⟩
    rw [valid.vacant key uid held, filter_active valid held, found, Option.getD_some,
      Option.getD_none, List.append_nil]
    apply List.filter_eq_self.mpr
    intro s other
    exact decide_eq_true (alike.all_of_key found member known s other)
  · have vacant : a.holders.get? key = none := by
      cases held : a.holders.get? key with
      | none => rfl
      | some uid =>
          rw [valid.vacant key uid held] at retained
          cases retained
    rw [filter_active_nil valid vacant, retained, Option.getD_some, List.nil_append]

theorem has_recordsOf (valid : Consistent a) (alike : Alike SameKey a)
    (some_record : a.recordsOf key ≠ []) : Has a key (a.recordsOf key) := by
  cases held : a.holders.get? key with
  | some uid =>
      obtain ⟨group, found, r, member, known⟩ := (valid.holds key uid).mp held
      have has : Has a key group := .inl ⟨uid, found, r, member, known⟩
      rwa [recordsOf_eq valid alike has]
  | none =>
      cases retained : a.retention.groups.get? key with
      | some group =>
          have has : Has a key group := .inr retained
          rwa [recordsOf_eq valid alike has]
      | none =>
          rw [recordsOf, records, List.filter_append, filter_retained valid, retained,
            filter_active_nil valid held] at some_record
          exact absurd rfl some_record

end Group

section Limits

/-- Scaling seen so far has not taken an ordinal from its owner. -/
def Allows (a : Allocator) (key : OrdinalKey) : Prop :=
  ∀ limit, a.limits.get? ⟨key.ns, key.kind, key.owner⟩ = some limit → key.index < limit.replicas

theorem Allows.isBeyondLimit (allows : Allows a key) {r : Record} (known : r.key? = some key) :
    a.isBeyondLimit r = false := by
  rw [← Bool.not_eq_true, isBeyondLimit_iff known]
  rintro ⟨limit, found, _, beyond⟩
  have above := allows limit found
  omega

theorem Allows.outlives (allows : Allows a key) (known : ∀ r ∈ group, r.key? = some key) :
    a.outlives group = true := by
  cases group with
  | nil => rfl
  | cons r rest =>
      rw [outlives_cons known, allows.isBeyondLimit (known r List.mem_cons_self), Bool.not_false]

/-- Whether an operation leaves what an ordinal has to the ordinal. -/
def LeavesOrdinal (key : OrdinalKey) : Op → Prop
  | .purge w => Retention.keyOf w ≠ .ok key
  | .purgeOwner ns owner keep => ns = key.ns → owner.kind = key.kind → owner.name = key.owner →
      ∃ replicas, keep = some replicas ∧ key.index < replicas
  | .rebuild _ => False
  | _ => True

theorem allows_apply (allows : Allows a key) {op : Op} (leaves : LeavesOrdinal key op) :
    Allows (a.apply op).2 key := by
  intro limit found
  rw [limits_apply] at found
  cases noted : op.limitOn? ⟨key.ns, key.kind, key.owner⟩ with
  | none =>
      rw [noted, Option.none_or] at found
      exact allows limit found
  | some seen =>
      rw [noted, Option.some_or] at found
      cases found
      obtain ⟨ns, owner, keep, rfl, same, rfl⟩ := limitOn?_eq_some noted
      obtain ⟨rfl, kind, name⟩ := OwnerName.mk.inj same
      obtain ⟨replicas, rfl, above⟩ := leaves rfl kind name
      exact above

end Limits

section Steps
variable {leases : List (String × String × Family × String)}

/-- What an ordinal has is leased under these terms, whoever has it. -/
def Leases (a : Allocator) (key : OrdinalKey) (leases : List (String × String × Family × String)) :
    Prop :=
  ∃ group, Has a key group ∧ group.map Record.lease = leases

theorem has_release_own (valid : Consistent a) (alike : Alike SameKey a) (allows : Allows a key)
    {w : Identity} (found : a.active.get? w.podUID = some group) {r : Record} (member : r ∈ group)
    (known : r.key? = some key) :
    Has (a.release w).2 key group ∨ Has (a.release w).2 key (group.map Record.unbound) := by
  have had : a.recordsFor w = group := by rw [recordsFor, found, Option.getD_some]
  have all := alike.all_of_key found member known
  have held := (valid.holds key w.podUID).mpr ⟨group, found, r, member, known⟩
  have outcome := release_cases a w
  generalize a.release w = result at outcome
  cases outcome with
  | refused fault => exact .inl (.inl ⟨_, found, r, member, known⟩)
  | idle none_had =>
      rw [none_had] at had
      subst had
      cases member
  | freed some_record ends =>
      -- Only a limit at or below the ordinal lets the addresses go.
      rw [had, allows.outlives all] at ends
      cases ends
  | @retained key' some_record stays known' vacant =>
      rw [had] at known'
      have same : key' = key := Option.some.inj ((known' r member).symm.trans known)
      subst same
      rw [had]
      exact .inr (.inr (Table.get?_put_self _ _ _))
  | @clashed key' _ answer some_record known' occupied =>
      rw [had] at known'
      have same : key' = key := Option.some.inj ((known' r member).symm.trans known)
      subst same
      -- An ordinal that a pod holds retains nothing, so there is nothing to clash with.
      rw [valid.vacant _ _ held] at occupied
      cases occupied
  | lost fault some_record stateful mixed =>
      rw [had] at mixed
      exact absurd ⟨key, all⟩ mixed

theorem retained_release (retained : a.retention.groups.get? key = some group) (w : Identity) :
    (a.release w).2.retention.groups.get? key = some group := by
  have outcome := release_cases a w
  generalize a.release w = result at outcome
  cases outcome with
  | refused fault => exact retained
  | idle none_had => exact retained
  | freed some_record ends =>
      rw [(freed_frame _ _).retention]
      exact retained
  | @retained key' some_record stays known vacant =>
      have other : key' ≠ key := by
        rintro rfl
        rw [vacant] at retained
        cases retained
      exact (Table.get?_put_ne other _ _).trans retained
  | clashed answer some_record known occupied =>
      rw [(freeAll_frame _ _).retention]
      exact retained
  | lost fault some_record stateful mixed => exact retained

theorem leases_release (valid : Consistent a) (alike : Alike SameKey a) (allows : Allows a key)
    (has : Leases a key leases) (w : Identity) : Leases (a.release w).2 key leases := by
  obtain ⟨group, ⟨uid, found, r, member, known⟩ | retained, rfl⟩ := has
  · by_cases mine : w.podUID = uid
    · subst mine
      rcases has_release_own valid alike allows found member known with unchanged | unbound
      · exact ⟨group, unchanged, rfl⟩
      · refine ⟨group.map Record.unbound, unbound, ?_⟩
        rw [List.map_map]
        exact List.map_congr_left fun s _ => Record.unbound_lease s
    · exact ⟨group, .inl ⟨uid, bound_release found mine, r, member, known⟩, rfl⟩
  · exact ⟨group, .inr (retained_release retained w), rfl⟩

/-- A pod is given the group that its ordinal has retained, or nothing of it. -/
theorem has_allocate (valid : Consistent a) (retained : a.retention.groups.get? key = some group)
    (w : Identity) (c : Criteria) (eligible : Option (List String)) :
    Has (a.allocate w c eligible).2 key group ∨
      Has (a.allocate w c eligible).2 key (group.map (·.boundTo w.podUID w.podName w.nodeName)) := by
  have outcome := allocate_cases a w c eligible
  generalize a.allocate w c eligible = result at outcome
  cases outcome with
  | kept had some_record => exact .inl (.inr retained)
  | refused fault => exact .inl (.inr retained)
  | failed index fresh frame =>
      left; right
      rw [frame.retention]
      exact retained
  | @rebound key' kept named had stateful vacant retained' fits =>
      by_cases same : key' = key
      · subst same
        rw [retained] at retained'
        cases retained'
        obtain ⟨some_record, known⟩ := valid.kept _ _ retained
        obtain ⟨r, rest, rfl⟩ := List.exists_cons_of_ne_nil some_record
        have first : (r.boundTo w.podUID w.podName w.nodeName).key? = some key' :=
          (known r List.mem_cons_self).1
        exact .inr (.inl ⟨w.podUID, Table.get?_put_self _ _ _, _, List.mem_cons_self, first⟩)
      · left; right
        change (a.retention.groups.erase key').get? key = some group
        rw [Table.get?_erase, if_neg same]
        exact retained
  | @fresh key' records a' named had stateful vacant unretained some_family given frame =>
      left; right
      change a'.retention.groups.get? key = some group
      rw [frame.retention]
      exact retained

theorem leases_allocate (valid : Consistent a) (has : Leases a key leases) (w : Identity)
    (c : Criteria) (eligible : Option (List String)) :
    Leases (a.allocate w c eligible).2 key leases := by
  obtain ⟨group, ⟨uid, found, r, member, known⟩ | retained, rfl⟩ := has
  · exact ⟨group, .inl ⟨uid, bound_allocate valid found w c eligible, r, member, known⟩, rfl⟩
  · rcases has_allocate valid retained w c eligible with unchanged | bound
    · exact ⟨group, unchanged, rfl⟩
    · refine ⟨_, bound, ?_⟩
      rw [List.map_map]
      exact List.map_congr_left fun s _ => Record.boundTo_lease s _ _ _

theorem isPurged_of_leaves {ns : String} {owner : Owner} {keep : Option Int}
    (leaves : LeavesOrdinal key (.purgeOwner ns owner keep)) (records : List Record) :
    Retention.isPurged ns owner keep (key, records) = false := by
  rw [← Bool.not_eq_true, Retention.isPurged_iff]
  rintro ⟨ns, kind, name, counted, _⟩
  obtain ⟨replicas, rfl, above⟩ := leaves ns.symm kind.symm name.symm
  have below := counted replicas rfl
  omega

/-- Where no pod moves, only a retained group can be in danger. -/
theorem leases_of_unmoved (has : Leases a key leases) {op : Op} (still : op.movesPods = false)
    (kept : ∀ group, a.retention.groups.get? key = some group →
      (a.apply op).2.retention.groups.get? key = some group) : Leases (a.apply op).2 key leases := by
  obtain ⟨group, active | retained, rfl⟩ := has
  · refine ⟨group, .inl ?_, rfl⟩
    rw [active_apply still]
    exact active
  · exact ⟨group, .inr (kept group retained), rfl⟩

theorem leases_apply (valid : Consistent a) (alike : Alike SameKey a) (allows : Allows a key)
    (has : Leases a key leases) {op : Op} (leaves : LeavesOrdinal key op) :
    Leases (a.apply op).2 key leases := by
  cases op with
  | addNetwork network => exact leases_of_unmoved has rfl fun _ retained => retained
  | addSubnet subnet =>
      apply leases_of_unmoved has rfl
      intro group retained
      rw [apply, (registered_frame fun _ => addSubnet_frame).retention]
      exact retained
  | removeSubnet name =>
      apply leases_of_unmoved has rfl
      intro group retained
      rw [apply, (registered_frame fun _ => removeSubnet_frame).retention]
      exact retained
  | allocate w c eligible => exact leases_allocate valid has w c eligible
  | release w => exact leases_release valid alike allows has w
  | purge w =>
      apply leases_of_unmoved has rfl
      intro group retained
      rcases purge_cases a w with ⟨fault, refused⟩ | ⟨key', named, purged⟩
      · rw [apply, refused]
        exact retained
      · have other : key' ≠ key := by
          rintro rfl
          exact leaves named
        rw [apply, purged, (freed_frame _ _).retention, Table.get?_erase, if_neg other]
        exact retained
  | purgeOwner ns owner keep =>
      apply leases_of_unmoved has rfl
      intro group retained
      rw [apply, purgeOwner, (freed_frame _ _).retention]
      change Table.get? (a.retention.groups.filter _) key = some group
      rw [Table.get?_filter valid.groups_unique, retained]
      simp [isPurged_of_leaves leaves]
  | rebuild records => exact leaves.elim

end Steps

section Runs

/-- A rebuild that is given nothing but the records that the allocator has. -/
def FromOwn (a : Allocator) : Op → Prop
  | .rebuild records => records = a.records
  | _ => True

structure Steady (a : Allocator) : Prop where
  consistent : Consistent a
  same_key : Alike SameKey a

theorem Steady.alikePerPod (steady : Steady a) : AlikePerPod SameKey a.records := by
  have active {r : Record} (member : r ∈ a.records) (bound : r.binding.podUID ≠ "") :
      ∃ group, a.active.get? r.binding.podUID = some group ∧ r ∈ group := by
    rcases List.mem_append.mp member with running | retained
    · exact steady.consistent.mem_active.mp running
    · obtain ⟨key, group, found, inside⟩ :=
        (Table.mem_members steady.consistent.groups_unique).mp retained
      exact absurd ((steady.consistent.kept key group found).2 r inside).2.1 bound
  intro r left s right bound same
  obtain ⟨group, found, first⟩ := active left bound
  obtain ⟨group', found', second⟩ := active right (same ▸ bound)
  rw [← same, found] at found'
  cases found'
  exact steady.same_key _ group found r first s second

theorem Steady.common_key (steady : Steady a) {w : Identity} (some_record : a.recordsFor w ≠ [])
    (stateful : ∃ r ∈ a.recordsFor w, r.isStateful = true) :
    ∃ key, ∀ r ∈ a.recordsFor w, r.key? = some key := by
  obtain ⟨r, member, known⟩ := stateful
  obtain ⟨key, known⟩ := r.isStateful_iff.mp known
  exact ⟨key, steady.same_key.all_of_key (steady.consistent.recordsFor_eq_some some_record).1 member known⟩

/-- How a pod leaves whose records, where they have ordinals, are all of one. -/
inductive Left (a : Allocator) (w : Identity) : Allocator → Prop
  | unchanged (idle : w.hasBytes = false ∨ a.recordsFor w = []) : Left a w a
  | freed (some_record : a.recordsFor w ≠ []) (ends : a.outlives (a.recordsFor w) = false) :
      Left a w ((a.without w).freed (a.recordsFor w)).2
  | retained {key : OrdinalKey} (some_record : a.recordsFor w ≠ [])
      (stays : a.outlives (a.recordsFor w) = true) (known : ∀ r ∈ a.recordsFor w, r.key? = some key)
      (vacant : a.retention.groups.get? key = none) :
      Left a w { a.without w with
        retention := ⟨a.retention.groups.put key ((a.recordsFor w).map Record.unbound)⟩ }

/-- Nothing is in the way of the records of such a pod, and none of them is lost. -/
theorem Steady.left (steady : Steady a) (w : Identity) : Left a w (a.release w).2 := by
  have outcome := release_cases a w
  generalize a.release w = result at outcome
  cases outcome with
  | refused fault no_bytes => exact .unchanged (.inl no_bytes)
  | idle none_had =>
      rw [Table.erase_of_absent (steady.consistent.recordsFor_eq_nil none_had)]
      exact .unchanged (.inr none_had)
  | freed some_record ends bytes => exact .freed some_record ends
  | retained some_record stays known vacant => exact .retained some_record stays known vacant
  | clashed answer some_record known occupied stays =>
      rw [vacant_of_known steady.consistent some_record known] at occupied
      cases occupied
  | lost fault some_record stateful mixed bytes stays =>
      obtain ⟨r, member⟩ := List.exists_mem_of_ne_nil _ some_record
      exact absurd (steady.common_key some_record ⟨r, member, stateful r member⟩) mixed

theorem steady_apply (steady : Steady a) {op : Op} (own : FromOwn a op) : Steady (a.apply op).2 := by
  have per_pod : AlikePerPod SameKey op.rebuilt := by
    cases op with
    | rebuild records =>
        have same : records = a.records := own
        subst same
        exact steady.alikePerPod
    | _ =>
        intro r member
        cases member
  exact {
    consistent := consistent_apply steady.consistent op
    same_key := alike_apply (fun _ _ same => same) steady.consistent steady.same_key per_pod }

theorem steady_bare (macs : MacSource) : Steady { macs := macs } :=
  ⟨consistent_bare macs, fun uid group found => by cases found⟩

theorem steady_of_run (start : Started a) {ops : List Op} (own : Along FromOwn a ops) :
    Steady (a.run ops) := by
  have step (b : Allocator) (op : Op) (own : FromOwn b op) (steady : Steady b) :
      Steady (b.apply op).2 := steady_apply steady own
  exact run_keeps step own (started_keeps steady_bare (fun _ _ => trivial) (fun _ _ => trivial) step start)

theorem leases_run {leases : List (String × String × Family × String)} (steady : Steady a)
    (allows : Allows a key) (has : Leases a key leases) {ops : List Op}
    (leaves : ∀ op ∈ ops, LeavesOrdinal key op) :
    Steady (a.run ops) ∧ Leases (a.run ops) key leases := by
  have step (b : Allocator) (op : Op) (leaves : LeavesOrdinal key op)
      (kept : Steady b ∧ Allows b key ∧ Leases b key leases) :
      Steady (b.apply op).2 ∧ Allows (b.apply op).2 key ∧ Leases (b.apply op).2 key leases := by
    obtain ⟨steady, allows, has⟩ := kept
    have own : FromOwn b op := by
      cases op with
      | rebuild records => exact leaves.elim
      | _ => trivial
    exact ⟨steady_apply steady own, allows_apply allows leaves,
      leases_apply steady.consistent steady.same_key allows has leaves⟩
  obtain ⟨last, _, kept⟩ := run_keeps step (along_of_all leaves) ⟨steady, allows, has⟩
  exact ⟨last, kept⟩

theorem leases_survive_churn (start : Started a) {before after : List Op}
    (own : Along FromOwn a before) (key : OrdinalKey)
    (allows : Allows (a.run before) key) (had : (a.run before).recordsOf key ≠ [])
    (leaves : ∀ op ∈ after, LeavesOrdinal key op) :
    (a.run (before ++ after)).recordsOf key ≠ [] ∧
      ((a.run (before ++ after)).recordsOf key).map Record.lease =
        ((a.run before).recordsOf key).map Record.lease := by
  have steady := steady_of_run start own
  have has := has_recordsOf steady.consistent steady.same_key had
  obtain ⟨steady', group, has', same⟩ := leases_run steady allows ⟨_, has, rfl⟩ leaves
  rw [run_append, recordsOf_eq steady'.consistent steady'.same_key has']
  constructor
  · rintro rfl
    exact had (List.map_eq_nil_iff.mp same.symm)
  · exact same

/-- The first pod of `web` comes and goes, and the program that keeps the records starts anew. -/
def stopped : List Op := [
  .allocate (webPod "web-0" "u1") ⟨.underlay, [.v4, .v6]⟩ none,
  .release (webPod "web-0" "u1")]

def restarted : List Op := stopped ++ [
  .rebuild (sample.run stopped).records,
  .purgeOwner "shop" ⟨"StatefulSet", "web", "set-1"⟩ (some 1)]

/-- A pod that asks for too little is refused, and so is one that comes too early. -/
def replaced : List Op := [
  .allocate (webPod "web-0" "u2") ⟨.underlay, [.v4]⟩ none,
  .allocate (webPod "web-0" "u3") ⟨.underlay, [.v4, .v6]⟩ none,
  .allocate (webPod "web-0" "u4") ⟨.underlay, [.v4, .v6]⟩ none,
  .purge (webPod "web-1" "u4"),
  .purgeOwner "shop" ⟨"StatefulSet", "web", "set-1"⟩ (some 2),
  .release (webPod "web-0" "u3"),
  .allocate (webPod "web-0" "u5") ⟨.underlay, [.v6, .v4]⟩ none]

theorem replaced_leases :
    let key : OrdinalKey := ⟨"shop", "StatefulSet", "web", 0⟩
    ((sample.run restarted).recordsOf key).map (·.address) = ["10.0.0.1", "::9"] ∧
      ((sample.run (restarted ++ replaced)).recordsOf key ≠ [] ∧
        ((sample.run (restarted ++ replaced)).recordsOf key).map Record.lease =
          ((sample.run restarted).recordsOf key).map Record.lease) := by
  intro key
  have own : Along FromOwn sample restarted :=
    along_append.mpr ⟨⟨trivial, trivial, trivial⟩, rfl, trivial, trivial⟩
  have seen : (sample.run restarted).limits = [(⟨"shop", "StatefulSet", "web"⟩, ⟨"set-1", 1⟩)] := by
    decide +kernel
  have allows : Allows (sample.run restarted) key := by
    intro limit found
    rw [seen] at found
    cases found
    decide
  have other : Retention.keyOf (webPod "web-1" "u4") ≠ .ok key := by decide +kernel
  have leaves : ∀ op ∈ replaced, LeavesOrdinal key op := by
    simpa [replaced, LeavesOrdinal, key] using other
  exact ⟨by decide +kernel,
    leases_survive_churn sample_started own key allows (by decide +kernel) leaves⟩

end Runs

end Allocator
end PodAddressing
