import PodAddressing.Proofs.Allocator.Bindings
/-!
The books and the records. At every moment the pools account for the records: what an operation takes from the
records it takes from the books, and what it adds it has entered there. Only a release of one pod with records of
several ordinals forgets records whose addresses stay marked, and a pod gets such records from a rebuild alone.
-/

namespace PodAddressing

def Record.bare (r : Record) : Record := r.boundTo "" "" ""

namespace Allocator
variable {a a' : Allocator} {w : Identity}

section Moving

theorem PoolsOnly.records (same : PoolsOnly a a') : a'.records = a.records := by
  rw [Allocator.records, Allocator.records, same.active, same.retention]

theorem records_bind (absent : a.active.get? w.podUID = none) (key : Option OrdinalKey)
    (records : List Record) : (a.bind w key records).records.Perm (records ++ a.records) := by
  have added : (a.bind w key records).active.values.flatten = a.active.values.flatten ++ records :=
    Table.members_put absent records
  rw [Allocator.records, Allocator.records, added, List.append_assoc]
  exact List.perm_append_comm_assoc _ _ _

theorem records_without (valid : Consistent a) (some_record : a.recordsFor w ≠ []) :
    a.records.Perm (a.recordsFor w ++ (a.without w).records) := by
  obtain ⟨found, _⟩ := valid.recordsFor_eq_some some_record
  have moved := (Table.members_erase valid.active_unique found).append_right a.retention.records
  rw [List.append_assoc] at moved
  exact moved

theorem records_erase_group (valid : Consistent a) {key : OrdinalKey} {kept : List Record}
    (found : a.retention.groups.get? key = some kept) :
    a.records.Perm
      (kept ++ { a with retention := ⟨a.retention.groups.erase key⟩ : Allocator }.records) :=
  ((Table.members_erase valid.groups_unique found).append_left _).trans
    (List.perm_append_comm_assoc _ _ _)

theorem records_retain {key : OrdinalKey} (vacant : a.retention.groups.get? key = none)
    (records : List Record) :
    { a with retention := ⟨a.retention.groups.put key records⟩ : Allocator }.records.Perm
      (records ++ a.records) := by
  have added := Table.members_put vacant records
  unfold Allocator.records Retention.records
  rw [added, ← List.append_assoc]
  exact List.perm_append_comm

theorem records_filter_groups (a : Allocator) (p : OrdinalKey × List Record → Bool) :
    a.records.Perm (((a.retention.groups.filter p).map (·.2)).flatten ++
      { a with retention := ⟨a.retention.groups.filter (!p ·)⟩ : Allocator }.records) :=
  ((Table.members_filter a.retention.groups p).append_left _).trans
    (List.perm_append_comm_assoc _ _ _)

theorem allocate_moves (valid : Consistent a) (w : Identity) (c : Criteria) (eligible : Option (List String)) :
    ((a.allocate w c eligible).2.pools = a.pools ∧
        ((a.allocate w c eligible).2.records.map Record.bare).Perm (a.records.map Record.bare)) ∨
      ∃ index, (a.allocate w c eligible).2.pools = (a.allocateFresh w index c eligible).2.pools ∧
        (a.allocate w c eligible).2.records.Perm (recordsIn (a.allocateFresh w index c eligible).1 ++ a.records) := by
  have outcome := allocate_cases a w c eligible
  generalize a.allocate w c eligible = result at outcome
  cases outcome with
  | kept had some_record => exact .inl ⟨rfl, .refl _⟩
  | refused fault => exact .inl ⟨rfl, .refl _⟩
  | failed index fresh frame =>
      refine .inr ⟨index, ?_, ?_⟩
      · rw [fresh]
      · rw [fresh, frame.records]
        exact .refl _
  | @rebound key kept named had stateful vacant retained fits =>
      refine .inl ⟨rfl, ?_⟩
      have joined := records_bind (a := { a with retention := ⟨a.retention.groups.erase key⟩ })
        (valid.recordsFor_eq_nil had) (some key) (kept.map (·.boundTo w.podUID w.podName w.nodeName))
      have parted := (records_erase_group valid retained).map Record.bare
      refine (joined.map Record.bare).trans (List.Perm.trans ?_ parted.symm)
      rw [List.map_append, List.map_append, List.map_map]
      exact .refl _
  | @fresh key records a' named had stateful vacant unretained some_family given frame =>
      have absent : a'.active.get? w.podUID = none := by
        rw [frame.active]
        exact valid.recordsFor_eq_nil had
      refine .inr ⟨key.map (·.index), ?_, ?_⟩
      · rw [given]
        rfl
      · have joined := records_bind absent key records
        rw [frame.records] at joined
        rw [given]
        exact joined

end Moving

section Origins
variable {P : Record → Prop} {c : Criteria} {eligible : Option (List String)}

theorem mem_records_apply (valid : Consistent a) {op : Op} (still : op.movesPods = false) {r : Record}
    (member : r ∈ (a.apply op).2.records) : r ∈ a.records := by
  cases op with
  | addNetwork network => exact member
  | addSubnet subnet =>
      rwa [apply, (registered_frame fun _ => addSubnet_frame).records] at member
  | removeSubnet name =>
      rwa [apply, (registered_frame fun _ => removeSubnet_frame).records] at member
  | allocate w c eligible => cases still
  | release w => cases still
  | purge w =>
      rcases purge_cases a w with ⟨fault, refused⟩ | ⟨key, _, purged⟩
      · rwa [apply, refused] at member
      · rw [apply, purged, (freed_frame _ _).records] at member
        cases found : a.retention.groups.get? key with
        | none => rwa [Table.erase_of_absent found] at member
        | some kept =>
            exact (records_erase_group valid found).mem_iff.mpr (List.mem_append_right _ member)
  | purgeOwner ns owner keep =>
      rw [apply, purgeOwner, (freed_frame _ _).records] at member
      exact (records_filter_groups a (Retention.isPurged ns owner keep)).mem_iff.mpr
        (List.mem_append_right _ member)
  | rebuild records => cases still

theorem forall_records_allocate (valid : Consistent a) (before : ∀ r ∈ a.records, P r)
    (bound : ∀ r, P r → P (r.boundTo w.podUID w.podName w.nodeName))
    (fresh : ∀ key records a', w.statefulKey? = .ok key →
      a.allocateFresh w (key.map (·.index)) c eligible = (.ok records, a') → ∀ r ∈ records, P r) :
    ∀ r ∈ (a.allocate w c eligible).2.records, P r := by
  have outcome := allocate_cases a w c eligible
  generalize a.allocate w c eligible = result at outcome
  cases outcome with
  | kept had some_record => exact before
  | refused fault => exact before
  | failed index fresh frame =>
      rw [frame.records]
      exact before
  | @rebound key kept named had stateful vacant retained fits =>
      have joined := records_bind (a := { a with retention := ⟨a.retention.groups.erase key⟩ })
        (valid.recordsFor_eq_nil had) (some key) (kept.map (·.boundTo w.podUID w.podName w.nodeName))
      have parted : ∀ r ∈ kept ++ _, P r := fun r member =>
        before r ((records_erase_group valid retained).mem_iff.mpr member)
      obtain ⟨own, others⟩ := List.forall_mem_append.mp parted
      intro r member
      rcases List.mem_append.mp (joined.mem_iff.mp member) with mine | rest
      · obtain ⟨r, inside, rfl⟩ := List.mem_map.mp mine
        exact bound r (own r inside)
      · exact others r rest
  | @fresh key records a' named had stateful vacant unretained some_family given frame =>
      have absent : a'.active.get? w.podUID = none := by
        rw [frame.active]
        exact valid.recordsFor_eq_nil had
      have joined := records_bind absent key records
      rw [frame.records] at joined
      intro r member
      rcases List.mem_append.mp (joined.mem_iff.mp member) with new | rest
      · exact fresh key records a' stateful given r new
      · exact before r rest

theorem forall_records_release (valid : Consistent a) (before : ∀ r ∈ a.records, P r)
    (unbound : ∀ r, P r → P r.unbound) (w : Identity) : ∀ r ∈ (a.release w).2.records, P r := by
  have outcome := release_cases a w
  generalize a.release w = result at outcome
  have parted (some_record : a.recordsFor w ≠ []) :
      (∀ r ∈ a.recordsFor w, P r) ∧ ∀ r ∈ (a.without w).records, P r :=
    List.forall_mem_append.mp fun r member =>
      before r ((records_without valid some_record).mem_iff.mpr member)
  cases outcome with
  | refused fault no_bytes => exact before
  | idle none_had =>
      rw [Table.erase_of_absent (valid.recordsFor_eq_nil none_had)]
      exact before
  | freed some_record ends bytes =>
      rw [(freed_frame _ _).records]
      exact (parted some_record).2
  | retained some_record stays known vacant =>
      intro r member
      have joined := records_retain (a := a.without w) vacant ((a.recordsFor w).map Record.unbound)
      rcases List.mem_append.mp (joined.mem_iff.mp member) with own | rest
      · obtain ⟨r, inside, rfl⟩ := List.mem_map.mp own
        exact unbound r ((parted some_record).1 r inside)
      · exact (parted some_record).2 r rest
  | clashed answer some_record known occupied stays =>
      rw [(freeAll_frame _ _).records]
      exact (parted some_record).2
  | lost fault some_record stateful mixed bytes stays => exact (parted some_record).2

end Origins

section Accounts
variable {stray : List Spot}

/-- The pools account for the records, and beside them for spots that have been lost track of. -/
def Accounts (a : Allocator) (stray : List Spot) : Prop :=
  Booked a.pools (a.records.map Record.spot ++ stray)

theorem Accounts.of_perm {records : List Record} (booked : Booked a.pools (records.map Record.spot ++ stray))
    (same : records.Perm a.records) : Accounts a stray :=
  booked.perm ((same.map Record.spot).append_right stray)

theorem Accounts.split (accounts : Accounts a stray) {gone left : List Record}
    (parted : a.records.Perm (gone ++ left)) :
    Booked a.pools (gone.map Record.spot ++ (left.map Record.spot ++ stray)) := by
  have moved := accounts.perm ((parted.map Record.spot).append_right stray)
  rwa [List.map_append, List.append_assoc] at moved

theorem accounts_allocate (valid : Consistent a) (accounts : Accounts a stray) (w : Identity)
    (c : Criteria) (eligible : Option (List String)) :
    Accounts (a.allocate w c eligible).2 stray := by
  rcases allocate_moves valid w c eligible with ⟨pools, moved⟩ | ⟨index, pools, added⟩
  · -- Binding a record to another pod leaves its spot alone.
    have spots (records : List Record) : (records.map Record.bare).map Record.spot = records.map Record.spot := by
      rw [List.map_map]
      rfl
    have same := moved.map Record.spot
    rw [spots, spots] at same
    rw [Accounts, pools]
    exact accounts.perm (same.symm.append_right stray)
  · have booked := booked_allocateFresh accounts w index c eligible
    rw [Accounts, pools]
    refine booked.perm ?_
    rw [← List.append_assoc, ← List.map_append]
    exact (added.symm.map Record.spot).append_right stray

/-- Whether the release of a workload is to retain records of several ordinals, which it cannot. -/
def Loses (a : Allocator) (w : Identity) : Prop :=
  w.hasBytes = true ∧ a.outlives (a.recordsFor w) = true ∧
    ¬ ∀ r ∈ a.recordsFor w, ∀ s ∈ a.recordsFor w, r.key? = s.key?

instance (a : Allocator) (w : Identity) : Decidable (a.Loses w) :=
  inferInstanceAs (Decidable (_ ∧ _ ∧ ¬ ∀ r ∈ a.recordsFor w, ∀ s ∈ a.recordsFor w, r.key? = s.key?))

/-- The spots that have been lost track of after an operation. Only a rebuild finds them again. -/
def strayAfter (a : Allocator) (stray : List Spot) : Op → List Spot
  | .release w => if a.Loses w then (a.recordsFor w).map Record.spot ++ stray else stray
  | .rebuild _ => []
  | _ => stray

theorem not_loses_of_key {key : OrdinalKey} (known : ∀ r ∈ a.recordsFor w, r.key? = some key) :
    ¬ a.Loses w := by
  rintro ⟨_, _, mixed⟩
  exact mixed fun r left s right => (known r left).trans (known s right).symm

theorem loses_of_mixed (bytes : w.hasBytes = true) (stays : a.outlives (a.recordsFor w) = true)
    (some_record : a.recordsFor w ≠ []) (stateful : ∀ r ∈ a.recordsFor w, r.isStateful = true)
    (mixed : ¬ ∃ key, ∀ r ∈ a.recordsFor w, r.key? = some key) : a.Loses w := by
  refine ⟨bytes, stays, fun alike => ?_⟩
  obtain ⟨r, member⟩ := List.exists_mem_of_ne_nil _ some_record
  obtain ⟨key, known⟩ := (Record.isStateful_iff r).mp (stateful r member)
  exact mixed ⟨key, fun s other => (alike s other r member).trans known⟩

theorem not_loses_of_alike (valid : Consistent a) (alike : Alike OneKey a) (w : Identity) :
    ¬ a.Loses w := by
  rintro ⟨_, stays, mixed⟩
  have stateful : ∀ r ∈ a.recordsFor w, r.isStateful = true :=
    List.all_eq_true.mp (Bool.and_eq_true_iff.mp stays).1
  apply mixed
  intro r left s right
  obtain ⟨found, _⟩ := valid.recordsFor_eq_some (List.ne_nil_of_mem left)
  exact alike _ _ found r left s right (stateful r left) (stateful s right)

theorem strayAfter_nil (valid : Consistent a) (alike : Alike OneKey a) (op : Op) :
    a.strayAfter [] op = [] := by
  cases op with
  | release w => exact if_neg (not_loses_of_alike valid alike w)
  | _ => rfl

/-- A release that cannot retain the records of several ordinals loses track of their addresses. -/
theorem accounts_release (valid : Consistent a) (accounts : Accounts a stray) (w : Identity) :
    Accounts (a.release w).2 (a.strayAfter stray (.release w)) := by
  have outcome := release_cases a w
  generalize a.release w = result at outcome
  have freed (some_record : a.recordsFor w ≠ []) :
      Accounts ((a.without w).freeAll (a.recordsFor w)).2 stray := by
    have booked := accounts.split (records_without valid some_record)
    rw [Accounts, (freeAll_frame _ _).records]
    exact booked_freeAll_snd (a := a.without w) booked
  have nothing_lost (kept : ¬ a.Loses w) : a.strayAfter stray (.release w) = stray := if_neg kept
  cases outcome with
  | refused fault no_bytes =>
      have kept : ¬ a.Loses w := by simp [Loses, no_bytes]
      rw [nothing_lost kept]
      exact accounts
  | idle none_had =>
      have kept : ¬ a.Loses w := by simp [Loses, none_had]
      rw [nothing_lost kept, Table.erase_of_absent (valid.recordsFor_eq_nil none_had)]
      exact accounts
  | freed some_record ends =>
      have kept : ¬ a.Loses w := by simp [Loses, ends]
      rw [nothing_lost kept, freed_snd]
      exact freed some_record
  | @retained key some_record stays known vacant =>
      rw [nothing_lost (not_loses_of_key known)]
      have booked := accounts.split (records_without valid some_record)
      have same : ((a.recordsFor w).map Record.unbound).map Record.spot =
          (a.recordsFor w).map Record.spot := by
        rw [List.map_map]
        exact List.map_congr_left fun r _ => Record.unbound_spot r
      rw [← same, ← List.append_assoc, ← List.map_append] at booked
      have joined := records_retain (a := a.without w) vacant ((a.recordsFor w).map Record.unbound)
      exact Accounts.of_perm booked joined.symm
  | clashed answer some_record known occupied =>
      rw [nothing_lost (not_loses_of_key known)]
      exact freed some_record
  | lost fault some_record stateful mixed bytes stays =>
      have booked := accounts.split (records_without valid some_record)
      have loses : a.strayAfter stray (.release w) = (a.recordsFor w).map Record.spot ++ stray :=
        if_pos (loses_of_mixed bytes stays some_record stateful mixed)
      rw [loses]
      exact booked.perm (List.perm_append_comm_assoc _ _ _)

theorem accounts_freed {records : List Record}
    (booked : Booked a.pools (records.map Record.spot ++ (a.records.map Record.spot ++ stray))) :
    Accounts (a.freed records).2 stray := by
  rw [Accounts, (freed_frame a records).records, freed_snd]
  exact booked_freeAll_snd booked

theorem accounts_purge (valid : Consistent a) (accounts : Accounts a stray) (w : Identity) :
    Accounts (a.purge w).2 stray := by
  rcases purge_cases a w with ⟨fault, refused⟩ | ⟨key, _, purged⟩
  · rw [refused]
    exact accounts
  · rw [purged]
    apply accounts_freed
    cases found : a.retention.groups.get? key with
    | none =>
        rw [Table.erase_of_absent found]
        exact accounts
    | some kept => exact accounts.split (records_erase_group valid found)

theorem accounts_purgeOwner (accounts : Accounts a stray) (ns : String) (owner : Owner)
    (keep : Option Int) : Accounts (a.purgeOwner ns owner keep).2 stray := by
  have noted : Accounts
      { a with limits := a.limits.put (ownerName ns owner) ⟨owner.uid, keep.getD 0⟩ } stray := accounts
  exact accounts_freed
    (noted.split (records_filter_groups _ (Retention.isPurged ns owner keep)))

theorem accounts_addSubnet {s : Subnet} (accounts : Accounts a stray)
    (added : a.addSubnet s = .ok a') : Accounts a' stray := by
  rw [Accounts, (addSubnet_frame added).records]
  exact booked_addSubnet accounts added

theorem accounts_removeSubnet {name : String} (accounts : Accounts a stray)
    (removed : a.removeSubnet name = .ok a') : Accounts a' stray := by
  rcases removeSubnet_eq_ok removed with rfl | ⟨pool, found, empty, rfl⟩
  · exact accounts
  · exact accounts.erasePool found empty

theorem accounts_registered (accounts : Accounts a stray) {result : Except Fault Allocator}
    (after : ∀ a', result = .ok a' → Accounts a' stray) : Accounts (a.registered result).2 stray := by
  rcases registered_snd a result with unchanged | changed
  · rw [unchanged]
    exact accounts
  · exact after _ changed

/-- Every operation keeps the books, and a rebuild puts them in order. -/
theorem accounts_apply (valid : Consistent a) (accounts : Accounts a stray) (op : Op) :
    Accounts (a.apply op).2 (a.strayAfter stray op) := by
  cases op with
  | addNetwork network => exact accounts
  | addSubnet subnet =>
      exact accounts_registered accounts fun _ added => accounts_addSubnet accounts added
  | removeSubnet name =>
      exact accounts_registered accounts fun _ removed => accounts_removeSubnet accounts removed
  | allocate w c eligible => exact accounts_allocate valid accounts w c eligible
  | release w => exact accounts_release valid accounts w
  | purge w => exact accounts_purge valid accounts w
  | purgeOwner ns owner keep => exact accounts_purgeOwner accounts ns owner keep
  | rebuild records =>
      rw [strayAfter, Accounts, List.append_nil]
      exact booked_rebuild accounts records

end Accounts

end Allocator
end PodAddressing
