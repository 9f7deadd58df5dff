import PodAddressing.Proofs.Allocator.Booking
/-!
What pods have. A pod gets its records by an allocation and loses them by its release; nothing else but a rebuild
moves the records of a pod. So what holds between the records of every pod at first, and in every list that is
rebuilt from, holds always.
-/

namespace PodAddressing.Allocator
variable {a a' : Allocator} {w : Identity} {podUID : String} {group : List Record}

section Active

/-- Whether an operation may change which pods have which records. -/
def Op.movesPods : Op → Bool
  | .allocate _ _ _ | .release _ | .rebuild _ => true
  | _ => false

theorem active_apply {op : Op} (still : op.movesPods = false) : (a.apply op).2.active = a.active := by
  cases op with
  | addNetwork network => rfl
  | addSubnet subnet => exact (registered_frame fun _ => addSubnet_frame).active
  | removeSubnet name => exact (registered_frame fun _ => removeSubnet_frame).active
  | allocate w c eligible => cases still
  | release w => cases still
  | purge w =>
      rcases purge_cases a w with ⟨fault, refused⟩ | ⟨key, _, purged⟩
      · rw [apply, refused]
      · rw [apply, purged]
        exact (freed_frame _ _).active
  | purgeOwner ns owner keep => exact (freed_frame _ _).active
  | rebuild records => cases still

end Active

section Bound
variable {c : Criteria} {eligible : Option (List String)} {records : List Record}

theorem active_allocate (valid : Consistent a) (given : (a.allocate w c eligible).1 = .ok records) :
    (a.allocate w c eligible).2.active.get? w.podUID = some records := by
  have outcome := allocate_cases a w c eligible
  generalize a.allocate w c eligible = result at outcome given
  cases outcome with
  | kept had some_record =>
      cases given
      subst had
      exact (valid.recordsFor_eq_some some_record).1
  | refused fault => cases given
  | failed index fresh frame => cases given
  | rebound named had stateful vacant retained fits =>
      cases given
      exact Table.get?_put_self _ _ _
  | fresh named had stateful vacant unretained some_family fresh frame =>
      cases given
      exact Table.get?_put_self _ _ _

theorem active_allocate_ne (other : w.podUID ≠ podUID) (c : Criteria)
    (eligible : Option (List String)) :
    (a.allocate w c eligible).2.active.get? podUID = a.active.get? podUID := by
  have outcome := allocate_cases a w c eligible
  generalize a.allocate w c eligible = result at outcome
  cases outcome with
  | kept had some_record => rfl
  | refused fault => rfl
  | failed index fresh frame => rw [frame.active]
  | rebound named had stateful vacant retained fits => exact Table.get?_put_ne other _ _
  | fresh named had stateful vacant unretained some_family given frame =>
      refine (Table.get?_put_ne other _ _).trans ?_
      rw [frame.active]

theorem active_without (a : Allocator) (w : Identity) (podUID : String) :
    (a.without w).active.get? podUID =
      if w.podUID = podUID then none else a.active.get? podUID :=
  Table.get?_erase _ _ _

theorem active_release (a : Allocator) (w : Identity) (podUID : String) :
    (a.release w).2.active.get? podUID =
        (if w.podUID = podUID then none else a.active.get? podUID) ∨
      (∃ fault, a.release w = (.error fault, a)) := by
  have outcome := release_cases a w
  generalize a.release w = result at outcome
  cases outcome with
  | refused fault no_bytes => exact .inr ⟨fault, rfl⟩
  | idle none_had => exact .inl (Table.get?_erase _ _ _)
  | freed some_record ends bytes =>
      left
      rw [(freed_frame _ _).active, active_without]
  | retained some_record stays known vacant => exact .inl (active_without a w podUID)
  | clashed answer some_record known occupied stays =>
      left
      rw [(freeAll_frame _ _).active, active_without]
  | lost fault some_record stateful mixed bytes stays => exact .inl (active_without a w podUID)

theorem active_release_ne (other : w.podUID ≠ podUID) :
    (a.release w).2.active.get? podUID = a.active.get? podUID := by
  rcases active_release a w podUID with done | ⟨fault, refused⟩
  · rw [done, if_neg other]
  · rw [refused]

def LeavesBound (podUID : String) : Op → Prop
  | .release w => w.podUID ≠ podUID
  | .rebuild _ => False
  | _ => True

theorem bound_allocate (valid : Consistent a) (found : a.active.get? podUID = some group)
    (w : Identity) (c : Criteria) (eligible : Option (List String)) :
    (a.allocate w c eligible).2.active.get? podUID = some group := by
  have other (had : a.recordsFor w = []) : w.podUID ≠ podUID := by
    rintro rfl
    rw [valid.recordsFor_eq_nil had] at found
    cases found
  have outcome := allocate_cases a w c eligible
  generalize a.allocate w c eligible = result at outcome
  cases outcome with
  | kept had some_record => exact found
  | refused fault => exact found
  | failed index fresh frame =>
      rw [frame.active]
      exact found
  | rebound named had stateful vacant retained fits =>
      exact (Table.get?_put_ne (other had) _ _).trans found
  | @fresh key records a' named had stateful vacant unretained some_family given frame =>
      refine (Table.get?_put_ne (other had) _ _).trans ?_
      rw [frame.active]
      exact found

theorem bound_release (found : a.active.get? podUID = some group)
    (other : w.podUID ≠ podUID) : (a.release w).2.active.get? podUID = some group :=
  (active_release_ne other).trans found

theorem bound_apply (valid : Consistent a) (found : a.active.get? podUID = some group) {op : Op}
    (leaves : LeavesBound podUID op) : (a.apply op).2.active.get? podUID = some group := by
  have unmoved {op : Op} (still : op.movesPods = false) :
      (a.apply op).2.active.get? podUID = some group := by
    rw [active_apply still]
    exact found
  cases op with
  | addNetwork network => exact unmoved rfl
  | addSubnet subnet => exact unmoved rfl
  | removeSubnet name => exact unmoved rfl
  | allocate w c eligible => exact bound_allocate valid found w c eligible
  | release w => exact bound_release found leaves
  | purge w => exact unmoved rfl
  | purgeOwner ns owner keep => exact unmoved rfl
  | rebuild records => exact leaves.elim

theorem bound_run (valid : Consistent a) (found : a.active.get? podUID = some group) {ops : List Op}
    (leaves : ∀ op ∈ ops, LeavesBound podUID op) : (a.run ops).active.get? podUID = some group := by
  have step (b : Allocator) (op : Op) (leaves : LeavesBound podUID op)
      (kept : Consistent b ∧ b.active.get? podUID = some group) :
      Consistent (b.apply op).2 ∧ (b.apply op).2.active.get? podUID = some group :=
    ⟨consistent_apply kept.1 op, bound_apply kept.1 kept.2 leaves⟩
  exact (run_keeps step (along_of_all leaves) ⟨valid, found⟩).2

/-- What a pod was given it has as long as it is not released. -/
theorem bound_after_allocate {w : Identity} {c : Criteria} {eligible : Option (List String)} {records : List Record}
    {before after : List Op} (valid : Consistent (a.run before))
    (given : ((a.run before).allocate w c eligible).1 = .ok records) (leaves : ∀ op ∈ after, LeavesBound w.podUID op) :
    (a.run (before ++ .allocate w c eligible :: after)).active.get? w.podUID = some records := by
  rw [run_append]
  exact bound_run (consistent_allocate valid w c eligible) (active_allocate valid given) leaves

theorem Consistent.mem_records (valid : Consistent a) (found : a.active.get? podUID = some group)
    {r : Record} (member : r ∈ group) :
    r ∈ a.records :=
  List.mem_append_left _ ((Table.mem_members valid.active_unique).mpr ⟨podUID, group, found, member⟩)

end Bound

section Groups

def Alike (R : Record → Record → Prop) (a : Allocator) : Prop :=
  ∀ uid group, a.active.get? uid = some group → ∀ r ∈ group, ∀ s ∈ group, R r s

def AlikePerPod (R : Record → Record → Prop) (records : List Record) : Prop :=
  ∀ r ∈ records, ∀ s ∈ records,
    r.binding.podUID ≠ "" → r.binding.podUID = s.binding.podUID → R r s

/-- Records of one pod that are of an ordinal are of the same. -/
def OneKey (r s : Record) : Prop :=
  r.isStateful = true → s.isStateful = true → r.key? = s.key?

instance : DecidableRel OneKey := fun r s =>
  inferInstanceAs (Decidable (r.isStateful = true → s.isStateful = true → r.key? = s.key?))

instance {R : Record → Record → Prop} [DecidableRel R] : DecidablePred (AlikePerPod R) :=
  fun records => inferInstanceAs (Decidable (∀ r ∈ records, ∀ s ∈ records,
    r.binding.podUID ≠ "" → r.binding.podUID = s.binding.podUID → R r s))

def Op.rebuilt : Op → List Record
  | .rebuild records => records
  | _ => []

variable {R : Record → Record → Prop}

theorem OneKey.of_key {r s : Record} (same : r.key? = s.key?) : OneKey r s := fun _ _ => same

theorem alikePerPod_nil : AlikePerPod R [] := by
  intro r member
  cases member

theorem Alike.of_active (alike : Alike R a)
    (fewer : ∀ uid group, a'.active.get? uid = some group → a.active.get? uid = some group) :
    Alike R a' :=
  fun uid group found => alike uid group (fewer uid group found)

theorem Alike.poolsOnly (alike : Alike R a) (same : PoolsOnly a a') : Alike R a' := by
  apply alike.of_active
  rw [same.active]
  exact fun _ _ found => found

theorem Alike.without (alike : Alike R a) (w : Identity) : Alike R (a.without w) := by
  apply alike.of_active
  intro uid group found
  change (a.active.erase w.podUID).get? uid = some group at found
  rw [Table.get?_erase] at found
  by_cases same : w.podUID = uid
  · simp [same] at found
  · simpa only [same, ↓reduceIte] using found

theorem Alike.bind (alike : Alike R a) {key : Option OrdinalKey} {records : List Record}
    (new : ∀ r ∈ records, ∀ s ∈ records, R r s) : Alike R (a.bind w key records) := by
  intro uid group found
  change (a.active.put w.podUID records).get? uid = some group at found
  rw [Table.get?_put] at found
  by_cases same : w.podUID = uid
  · simp only [same, ↓reduceIte, Option.some.injEq] at found
    exact found ▸ new
  · simp only [same, ↓reduceIte] at found
    exact alike uid group found

theorem alike_allocate (same_key : ∀ r s, r.key? = s.key? → R r s) (valid : Consistent a)
    (alike : Alike R a) (w : Identity) (c : Criteria) (eligible : Option (List String)) :
    Alike R (a.allocate w c eligible).2 := by
  have outcome := allocate_cases a w c eligible
  generalize a.allocate w c eligible = result at outcome
  cases outcome with
  | kept had some_record => exact alike
  | refused fault => exact alike
  | failed index fresh frame =>
      exact Alike.poolsOnly (a := { a with macs := a.macs.draw.2 }) alike frame
  | @rebound key _ named had stateful vacant retained fits =>
      obtain ⟨_, kept⟩ := valid.kept _ _ retained
      have before : Alike R { a with retention := ⟨a.retention.groups.erase key⟩ } := alike
      apply before.bind
      intro r left s right
      obtain ⟨r, first, rfl⟩ := List.mem_map.mp left
      obtain ⟨s, second, rfl⟩ := List.mem_map.mp right
      apply same_key
      rw [Record.boundTo_key?, Record.boundTo_key?, (kept r first).1, (kept s second).1]
  | @fresh key records a' named had stateful vacant unretained some_family given frame =>
      obtain ⟨_, new⟩ := allocateFresh_records given
      have before := Alike.poolsOnly (a := { a with macs := a.macs.draw.2 }) alike frame
      apply before.bind
      intro r left s right
      apply same_key
      rw [fresh_key? stateful (new r left), fresh_key? stateful (new s right)]

theorem alike_release (alike : Alike R a) (w : Identity) : Alike R (a.release w).2 := by
  have outcome := release_cases a w
  generalize a.release w = result at outcome
  have left := alike.without w
  cases outcome with
  | refused fault => exact alike
  | idle none_had => exact left
  | freed some_record ends =>
      rw [freed_snd]
      exact left.poolsOnly (freeAll_frame _ _)
  | retained some_record stays known vacant => exact left
  | clashed answer some_record known occupied => exact left.poolsOnly (freeAll_frame _ _)
  | lost fault some_record stateful mixed => exact left

theorem alike_rebuild {records : List Record} (per_pod : AlikePerPod R records) :
    Alike R (a.rebuild records).2 := by
  have valid := consistent_rebuild a records
  intro uid group found r left s right
  obtain ⟨named, _, own⟩ := valid.bound uid group found
  -- The records of a pod come from the list, where those of one pod are related.
  have listed (x : Record) (member : x ∈ group) : x ∈ records := by
    have active := (Table.mem_members valid.active_unique).mpr ⟨uid, group, found, member⟩
    exact mem_rebuild (List.mem_append_left _ active)
  apply per_pod r (listed r left) s (listed s right)
  · rw [own r left]
    exact named
  · rw [own r left, own s right]

theorem alike_apply (same_key : ∀ r s, r.key? = s.key? → R r s) (valid : Consistent a)
    (alike : Alike R a) {op : Op} (per_pod : AlikePerPod R op.rebuilt) :
    Alike R (a.apply op).2 := by
  have unmoved {op : Op} (still : op.movesPods = false) : Alike R (a.apply op).2 := by
    apply alike.of_active
    rw [active_apply still]
    exact fun _ _ found => found
  cases op with
  | addNetwork network => exact unmoved rfl
  | addSubnet subnet => exact unmoved rfl
  | removeSubnet name => exact unmoved rfl
  | allocate w c eligible => exact alike_allocate same_key valid alike w c eligible
  | release w => exact alike_release alike w
  | purge w => exact unmoved rfl
  | purgeOwner ns owner keep => exact unmoved rfl
  | rebuild records => exact alike_rebuild per_pod

end Groups

end PodAddressing.Allocator
