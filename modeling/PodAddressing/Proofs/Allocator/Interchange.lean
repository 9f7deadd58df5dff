import PodAddressing.Proofs.Allocator.Churn
import PodAddressing.Proofs.Allocator.Ownership
/-!
Scaling down and the release of a pod, in either order. If the release comes first, the addresses of an ordinal that
goes away are retained, and purged from there; if it comes second, they are freed at once because of the count that
was noted. Either way the allocator ends up the same.
-/

namespace PodAddressing

section Unmarking

def usedWithout (r : Record) (name : String) (used : List Nat) : List Nat :=
  if name = r.subnet then r.value?.elim used used.erase else used

def unmarked (pools : Table String Pool) (r : Record) : Table String Pool :=
  pools.map fun entry => (entry.1, { entry.2 with used := usedWithout r entry.1 entry.2.used })

theorem unmarked_eq {pools : Table String Pool} (unique : pools.Unique) {r : Record} {pool : Pool} {n : Nat}
    (found : pools.get? r.subnet = some pool) (value : r.value? = some n) :
    unmarked pools r = pools.put r.subnet { pool with used := pool.used.erase n } := by
  rw [Table.put_eq_map unique found fun pool => { pool with used := pool.used.erase n }, unmarked]
  apply List.map_congr_left
  rintro ⟨name, pool⟩ _
  rw [usedWithout, value]
  split <;> rfl

theorem usedWithout_comm (r s : Record) (name : String) (used : List Nat) :
    usedWithout s name (usedWithout r name used) = usedWithout r name (usedWithout s name used) := by
  unfold usedWithout
  by_cases first : name = r.subnet
  · by_cases second : name = s.subnet
    · simp only [if_pos first, if_pos second]
      cases r.value? with
      | none => rfl
      | some n =>
          cases s.value? with
          | none => rfl
          | some m => exact List.erase_comm n m
    · simp only [if_neg second]
  · simp only [if_neg first]

/-- What one record gives back does not depend on what another has given back before. -/
theorem unmarked_comm (pools : Table String Pool) (r s : Record) :
    unmarked (unmarked pools r) s = unmarked (unmarked pools s) r := by
  simp only [unmarked, List.map_map, Function.comp_def, usedWithout_comm r s]

instance : RightCommutative unmarked := ⟨unmarked_comm⟩

theorem foldl_unmarked_comm (pools : Table String Pool) (records others : List Record) :
    others.foldl unmarked (records.foldl unmarked pools) =
      records.foldl unmarked (others.foldl unmarked pools) := by
  rw [← List.foldl_append, ← List.foldl_append]
  exact List.perm_append_comm.foldl_eq pools

end Unmarking

namespace Allocator
variable {a : Allocator} {stray held : List Spot} {records : List Record} {w : Identity} {key : OrdinalKey}
variable {ns : String} {owner : Owner} {keep : Option Int}

section Freeing

theorem free_eq {r : Record} (booked : Booked a.pools (r.spot :: held)) :
    a.free r = .ok { a with pools := unmarked a.pools r } := by
  obtain ⟨pool, n, found, value, _⟩ := booked.exists_pool List.mem_cons_self
  obtain ⟨_, named⟩ := booked.valid _ _ found
  have answer := Pool.release_of_value value
  rw [unmarked_eq booked.unique found (value?_of_valueOf value), ← named]
  unfold free
  rw [found]
  simp only [answer]
  rfl

theorem freed_eq (booked : Booked a.pools (records.map Record.spot ++ held)) :
    (a.freed records).2 = { a with pools := records.foldl unmarked a.pools } := by
  rw [freed_snd]
  induction records generalizing a with
  | nil => rfl
  | cons r rest ih =>
      have first := free_eq (r := r) booked
      obtain ⟨next, freed, booked'⟩ := booked_free (r := r) booked
      rw [first] at freed
      cases freed
      rw [freeAll, first]
      exact ih booked'

theorem purgeOwner_eq (accounts : Accounts a stray) :
    (a.purgeOwner ns owner keep).2 = { a with
      pools := ((a.retention.groups.filter (Retention.isPurged ns owner keep)).map (·.2)).flatten.foldl
        unmarked a.pools
      limits := a.limits.put (ownerName ns owner) ⟨owner.uid, keep.getD 0⟩
      retention := ⟨a.retention.groups.filter (!Retention.isPurged ns owner keep ·)⟩ } :=
  freed_eq (a := { a with
      limits := a.limits.put (ownerName ns owner) ⟨owner.uid, keep.getD 0⟩
      retention := ⟨a.retention.groups.filter (!Retention.isPurged ns owner keep ·)⟩ })
    (accounts.split (records_filter_groups a (Retention.isPurged ns owner keep)))

/-- A pod that leaves in good order frees its addresses, or retains them for its ordinal. -/
theorem release_eq (steady : Steady a) (accounts : Accounts a stray) (bytes : w.hasBytes = true)
    (some_record : a.recordsFor w ≠ []) :
    (a.outlives (a.recordsFor w) = false ∧ (a.release w).2 =
        { a.without w with pools := (a.recordsFor w).foldl unmarked a.pools }) ∨
      ∃ key, a.outlives (a.recordsFor w) = true ∧ (∀ r ∈ a.recordsFor w, r.key? = some key) ∧
        a.retention.groups.get? key = none ∧ (a.release w).2 = { a.without w with
          retention := ⟨a.retention.groups ++ [(key, (a.recordsFor w).map Record.unbound)]⟩ } := by
  have outcome := steady.left w
  generalize (a.release w).2 = next at outcome
  cases outcome with
  | unchanged idle =>
      rcases idle with no_bytes | none_had
      · simp [bytes] at no_bytes
      · exact absurd none_had some_record
  | freed _ ends =>
      have booked := accounts.split (records_without steady.consistent some_record)
      exact .inl ⟨ends, freed_eq (a := a.without w) booked⟩
  | @retained key _ stays known vacant =>
      refine .inr ⟨key, stays, known, vacant, ?_⟩
      rw [Table.put_of_absent vacant]

end Freeing

section Counting

def Counted (a : Allocator) : Prop := ∀ r ∈ a.records, ∀ index ∈ r.binding.index, 0 ≤ index

theorem counted_apply (valid : Consistent a) (counted : Counted a) {op : Op} (own : FromOwn a op) :
    Counted (a.apply op).2 := by
  cases op with
  | allocate w c eligible =>
      apply forall_records_allocate valid counted (fun r own => own)
      intro key records a' stateful given r member index indexed
      obtain ⟨_, new⟩ := allocateFresh_records given
      rw [(new r member).2.2] at indexed
      obtain ⟨key, rfl, rfl⟩ := Option.map_eq_some_iff.mp indexed
      exact Identity.nonneg_of_statefulKey? stateful
  | release w => exact forall_records_release valid counted (fun _ own => own) w
  | rebuild records =>
      have same : records = a.records := own
      subst same
      exact fun r member => counted r (mem_rebuild member)
  | _ => exact fun r member => counted r (mem_records_apply valid rfl member)

theorem counted_of_run (start : Started a) {ops : List Op} (own : Along FromOwn a ops) :
    Counted (a.run ops) := by
  have step (b : Allocator) (op : Op) (own : FromOwn b op) (kept : Consistent b ∧ Counted b) :
      Consistent (b.apply op).2 ∧ Counted (b.apply op).2 :=
    ⟨consistent_apply kept.1 op, counted_apply kept.1 kept.2 own⟩
  have bare (macs : MacSource) : Consistent { macs := macs } ∧ Counted { macs := macs } :=
    ⟨consistent_bare macs, List.forall_mem_nil _⟩
  exact (run_keeps step own (started_keeps bare (fun _ _ => trivial) (fun _ _ => trivial) step start)).2

end Counting

section Comparing

/-- The limit that a purge notes spares just what the purge itself spares. -/
theorem outlives_purgeOwner (some_record : records ≠ []) (known : ∀ r ∈ records, r.key? = some key)
    (counted : 0 ≤ key.index) :
    (a.purgeOwner ns owner keep).2.outlives records =
      if ownerName ns owner = ⟨key.ns, key.kind, key.owner⟩ then !Retention.isPurged ns owner keep (key, records)
      else a.outlives records := by
  obtain ⟨first, rest, rfl⟩ := List.exists_cons_of_ne_nil some_record
  have own := known first List.mem_cons_self
  rw [outlives_cons known, outlives_cons known]
  split
  case isTrue same =>
    obtain ⟨rfl, kind, name⟩ := OwnerName.mk.inj same
    have bound : (keep.getD 0 ≤ key.index) ↔ ∀ replicas ∈ keep, replicas ≤ key.index := by
      cases keep with
      | none => simpa using counted
      | some replicas => simp
    have stored : Retention.storedUID (first :: rest) = first.binding.owner.uid := rfl
    rw [Bool.not_inj_iff, Bool.eq_iff_iff, isBeyondLimit_iff own, Retention.isPurged_iff, limits_purgeOwner,
      same, Table.get?_put_self, stored]
    simp [kind, name, bound, and_comm]
  case isFalse other =>
    rw [Bool.not_inj_iff, Bool.eq_iff_iff, isBeyondLimit_iff own, isBeyondLimit_iff own, limits_purgeOwner,
      Table.get?_put_ne other]

theorem isPurged_unbound :
    Retention.isPurged ns owner keep (key, records.map Record.unbound) =
      Retention.isPurged ns owner keep (key, records) := by
  have stored : Retention.storedUID (records.map Record.unbound) = Retention.storedUID records := by
    cases records <;> rfl
  rw [Retention.isPurged, Retention.isPurged, stored]

theorem outlives_purgeOwner_of_stays (some_record : records ≠ []) (known : ∀ r ∈ records, r.key? = some key)
    (counted : 0 ≤ key.index) (stays : a.outlives records = true) :
    (a.purgeOwner ns owner keep).2.outlives records =
      !Retention.isPurged ns owner keep (key, records.map Record.unbound) := by
  rw [outlives_purgeOwner some_record known counted, isPurged_unbound]
  split
  case isTrue => rfl
  case isFalse other =>
    rw [stays, Bool.true_eq, Bool.not_eq_true', ← Bool.not_eq_true, Retention.isPurged_iff]
    rintro ⟨rfl, kind, name, _⟩
    exact other (by rw [ownerName, kind, name])

theorem outlives_purgeOwner_of_ends (steady : Steady a) (counted : Counted a)
    (some_record : a.recordsFor w ≠ []) (ends : a.outlives (a.recordsFor w) = false)
    (same_owner : ∀ r ∈ a.recordsFor w, ownerName r.ns r.binding.owner = ownerName ns owner →
      Owner.uidsClash owner.uid r.binding.owner.uid = false)
    (fewer : ∀ limit, a.limits.get? (ownerName ns owner) = some limit → ∀ replicas ∈ keep, replicas ≤ limit.replicas) :
    (a.purgeOwner ns owner keep).2.outlives (a.recordsFor w) = false := by
  obtain ⟨found, _⟩ := steady.consistent.recordsFor_eq_some some_record
  obtain ⟨first, rest, whole⟩ := List.exists_cons_of_ne_nil some_record
  have head : first ∈ a.recordsFor w := by rw [whole]; exact List.mem_cons_self
  cases keyed : first.key? with
  | none =>
      have plain : first.isStateful = false := by
        rw [← Bool.not_eq_true, Record.isStateful_iff, keyed]
        simp
      rw [outlives, whole]
      simp [plain]
  | some key =>
      have known := steady.same_key.all_of_key found head keyed
      have nonneg := counted first (steady.consistent.mem_records found head) _ (Record.index_of_key? keyed).1
      rw [outlives_purgeOwner some_record known nonneg]
      split
      case isFalse => exact ends
      case isTrue same =>
        rw [whole, outlives_cons (whole ▸ known), Bool.not_eq_false', isBeyondLimit_iff keyed, ← same] at ends
        obtain ⟨limit, noted, _, beyond⟩ := ends
        obtain ⟨ns_eq, kind, name⟩ := OwnerName.mk.inj same
        rw [Bool.not_eq_false', Retention.isPurged_iff]
        refine ⟨ns_eq.symm, kind.symm, name.symm, ?_, ?_⟩
        · intro replicas kept
          exact (fewer limit noted replicas kept).trans beyond
        · rw [whole]
          exact same_owner first head ((ownerName_of_key? keyed).trans same.symm)

end Comparing

section Either

theorem release_of_idle (valid : Consistent a) (idle : w.hasBytes = false ∨ a.recordsFor w = []) :
    (a.release w).2 = a := by
  rcases idle with no_bytes | none_had
  · unfold release
    rw [if_pos (by simp [no_bytes])]
  · have outcome := release_cases a w
    generalize a.release w = result at outcome
    cases outcome with
    | refused fault no_bytes => rfl
    | idle none_had => rw [Table.erase_of_absent (valid.recordsFor_eq_nil none_had)]
    | freed some_record ends bytes => exact absurd none_had some_record
    | retained some_record stays known vacant => exact absurd none_had some_record
    | clashed answer some_record known occupied stays => exact absurd none_had some_record
    | lost fault some_record stateful mixed bytes stays => exact absurd none_had some_record

theorem steady_purgeOwner (steady : Steady a) (ns : String) (owner : Owner) (keep : Option Int) :
    Steady (a.purgeOwner ns owner keep).2 := by
  have own : FromOwn a (.purgeOwner ns owner keep) := trivial
  exact steady_apply steady own

theorem recordsFor_purgeOwner : (a.purgeOwner ns owner keep).2.recordsFor w = a.recordsFor w := by
  rw [recordsFor, active_purgeOwner, recordsFor]

/-- A pod that frees its addresses frees them after the scaling down as well. -/
theorem release_purgeOwner_of_ends (steady : Steady a) (counted : Counted a) (accounts : Accounts a stray)
    (bytes : w.hasBytes = true) (some_record : a.recordsFor w ≠ []) (ends : a.outlives (a.recordsFor w) = false)
    (released : (a.release w).2 = { a.without w with pools := (a.recordsFor w).foldl unmarked a.pools })
    (same_owner : ∀ r ∈ a.recordsFor w, ownerName r.ns r.binding.owner = ownerName ns owner →
      Owner.uidsClash owner.uid r.binding.owner.uid = false)
    (fewer : ∀ limit, a.limits.get? (ownerName ns owner) = some limit → ∀ replicas ∈ keep, replicas ≤ limit.replicas) :
    ((a.release w).2.purgeOwner ns owner keep).2 = ((a.purgeOwner ns owner keep).2.release w).2 := by
  have second := release_eq (steady_purgeOwner steady ns owner keep) (accounts_purgeOwner accounts ns owner keep) bytes
    (by rwa [recordsFor_purgeOwner])
  rw [recordsFor_purgeOwner] at second
  have ends' := outlives_purgeOwner_of_ends steady counted some_record ends same_owner fewer
  rcases second with ⟨_, second⟩ | ⟨_, stays, _⟩
  case inr =>
    rw [ends'] at stays
    cases stays
  rw [purgeOwner_eq (accounts_release steady.consistent accounts w), released, second, purgeOwner_eq accounts]
  exact congrArg (fun pools => { a.without w with
    pools := pools
    limits := a.limits.put (ownerName ns owner) ⟨owner.uid, keep.getD 0⟩
    retention := ⟨a.retention.groups.filter (!Retention.isPurged ns owner keep ·)⟩ })
    (foldl_unmarked_comm _ _ _)

/-- What a pod leaves for its ordinal is purged from there, or freed in the first place. -/
theorem release_purgeOwner_of_stays (steady : Steady a) (counted : Counted a) (accounts : Accounts a stray)
    (bytes : w.hasBytes = true) (some_record : a.recordsFor w ≠ []) (stays : a.outlives (a.recordsFor w) = true)
    (known : ∀ r ∈ a.recordsFor w, r.key? = some key)
    (released : (a.release w).2 = { a.without w with
      retention := ⟨a.retention.groups ++ [(key, (a.recordsFor w).map Record.unbound)]⟩ }) :
    ((a.release w).2.purgeOwner ns owner keep).2 = ((a.purgeOwner ns owner keep).2.release w).2 := by
  have valid := steady.consistent
  have second := release_eq (steady_purgeOwner steady ns owner keep) (accounts_purgeOwner accounts ns owner keep) bytes
    (by rwa [recordsFor_purgeOwner])
  rw [recordsFor_purgeOwner] at second
  obtain ⟨found, _⟩ := valid.recordsFor_eq_some some_record
  obtain ⟨r, member⟩ := List.exists_mem_of_ne_nil _ some_record
  have nonneg := counted r (valid.mem_records found member) _ (Record.index_of_key? (known r member)).1
  have decided : (a.purgeOwner ns owner keep).2.outlives (a.recordsFor w) = _ :=
    outlives_purgeOwner_of_stays some_record known nonneg stays
  rw [purgeOwner_eq (accounts_release valid accounts w)]
  rcases second with ⟨ends, second⟩ | ⟨key', stays', known', _, second⟩
  · -- The group that the release retains is taken by the purge at once.
    have purged : Retention.isPurged ns owner keep (key, (a.recordsFor w).map Record.unbound) = true := by
      rw [decided] at ends
      simpa using ends
    rw [released, second, purgeOwner_eq accounts]
    simp only [List.filter_append, List.filter_singleton, purged, cond_true, Bool.not_true, cond_false,
      List.append_nil, List.map_append, List.flatten_append, List.foldl_append, List.map_cons, List.map_nil,
      List.flatten_cons, List.flatten_nil, List.foldl_map]
    rfl
  · have unpurged : Retention.isPurged ns owner keep (key, (a.recordsFor w).map Record.unbound) = false := by
      rw [decided] at stays'
      simpa using stays'
    have same : key' = key := Option.some.inj ((known' r member).symm.trans (known r member))
    subst same
    rw [released, second, purgeOwner_eq accounts]
    simp only [List.filter_append, List.filter_singleton, unpurged, cond_false, Bool.not_false, cond_true,
      List.append_nil]
    rfl

/-- A scaling down and the release of a pod can be done in either order. -/
theorem release_purgeOwner (steady : Steady a) (counted : Counted a) (accounts : Accounts a stray) (w : Identity)
    (same_owner : ∀ r ∈ a.recordsFor w, ownerName r.ns r.binding.owner = ownerName ns owner →
      Owner.uidsClash owner.uid r.binding.owner.uid = false)
    (fewer : ∀ limit, a.limits.get? (ownerName ns owner) = some limit → ∀ replicas ∈ keep, replicas ≤ limit.replicas) :
    ((a.release w).2.purgeOwner ns owner keep).2 = ((a.purgeOwner ns owner keep).2.release w).2 := by
  by_cases idle : w.hasBytes = false ∨ a.recordsFor w = []
  · rw [release_of_idle steady.consistent idle,
      release_of_idle (steady_purgeOwner steady ns owner keep).consistent (idle.imp_right recordsFor_purgeOwner.trans)]
  have bytes : w.hasBytes = true := by simpa using fun no_bytes => idle (.inl no_bytes)
  have some_record : a.recordsFor w ≠ [] := fun none_had => idle (.inr none_had)
  rcases release_eq steady accounts bytes some_record with ⟨ends, released⟩ | ⟨key, stays, known, _, released⟩
  · exact release_purgeOwner_of_ends steady counted accounts bytes some_record ends released same_owner fewer
  · exact release_purgeOwner_of_stays steady counted accounts bytes some_record stays known released

theorem scaling_down_commutes_with_release (start : Started a) {ops : List Op} (own : Along FromOwn a ops)
    (w : Identity) (ns : String) (owner : Owner) (keep : Option Int)
    (same_owner : ∀ r ∈ (a.run ops).recordsFor w, ownerName r.ns r.binding.owner = ownerName ns owner →
      Owner.uidsClash owner.uid r.binding.owner.uid = false)
    (fewer : ∀ limit, (a.run ops).limits.get? (ownerName ns owner) = some limit →
      ∀ replicas ∈ keep, replicas ≤ limit.replicas) :
    (a.run ops).run [.release w, .purgeOwner ns owner keep] =
      (a.run ops).run [.purgeOwner ns owner keep, .release w] := by
  obtain ⟨_, _, accounts⟩ := accounts_of_run start ops
  exact release_purgeOwner (steady_of_run start own) (counted_of_run start own) accounts w same_owner fewer

/-- Three pods of a set come, and the last of them leaves; then the set is seen with all three replicas. -/
def staffed : List Op := [
  .allocate (webPod "web-0" "u1") ⟨.underlay, [.v4, .v6]⟩ none,
  .allocate (webPod "web-1" "u2") ⟨.underlay, [.v4]⟩ none,
  .allocate (webPod "web-2" "u3") ⟨.underlay, [.v4]⟩ none,
  .release (webPod "web-2" "u3"),
  .purgeOwner "shop" ⟨"StatefulSet", "web", "set-1"⟩ (some 3)]

theorem staffed_scaling_down_commutes :
    let b := sample.run staffed
    (b.recordsFor (webPod "web-1" "u2")).map (·.address) = ["10.0.0.2"] ∧
      b.retention.records.map (·.address) = ["10.0.0.3"] ∧
      b.run [.release (webPod "web-1" "u2"), .purgeOwner "shop" ⟨"StatefulSet", "web", "set-1"⟩ (some 1)] =
        b.run [.purgeOwner "shop" ⟨"StatefulSet", "web", "set-1"⟩ (some 1), .release (webPod "web-1" "u2")] := by
  have own : Along FromOwn sample staffed := by simp [staffed, Along, FromOwn]
  have noted : (sample.run staffed).limits = [(⟨"shop", "StatefulSet", "web"⟩, ⟨"set-1", 3⟩)] := by
    decide +kernel
  refine ⟨by decide +kernel, by decide +kernel, scaling_down_commutes_with_release sample_started own
    (webPod "web-1" "u2") "shop" ⟨"StatefulSet", "web", "set-1"⟩ (some 1) (by decide +kernel) ?_⟩
  intro limit found replicas kept
  rw [noted] at found
  cases found
  cases kept
  decide

end Either

end Allocator
end PodAddressing
