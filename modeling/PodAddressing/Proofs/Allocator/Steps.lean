import PodAddressing.Allocator.Run
import PodAddressing.Proofs.Retention
/-!
What each operation of the allocator can do, said once. Addresses are given and taken through the pools alone;
beside that an operation moves records between the active pods and the retained groups in one of the ways
listed here, or leaves them where they are.
-/

namespace PodAddressing.Allocator
variable {a a' : Allocator}

section Pools

def PoolsOnly (a a' : Allocator) : Prop := a' = { a with pools := a'.pools }

theorem PoolsOnly.trans {b : Allocator} (first : PoolsOnly a b) (second : PoolsOnly b a') :
    PoolsOnly a a' := by
  unfold PoolsOnly at *
  rw [first] at second
  exact second

theorem PoolsOnly.networks (same : PoolsOnly a a') : a'.networks = a.networks := by rw [same]

theorem PoolsOnly.active (same : PoolsOnly a a') : a'.active = a.active := by rw [same]

theorem PoolsOnly.holders (same : PoolsOnly a a') : a'.holders = a.holders := by rw [same]

theorem PoolsOnly.retention (same : PoolsOnly a a') : a'.retention = a.retention := by rw [same]

theorem PoolsOnly.limits (same : PoolsOnly a a') : a'.limits = a.limits := by rw [same]

theorem PoolsOnly.macs (same : PoolsOnly a a') : a'.macs = a.macs := by rw [same]

theorem free_frame {r : Record} (freed : a.free r = .ok a') : PoolsOnly a a' := by
  unfold free at freed
  split at freed
  case h_1 =>
    cases freed
    rfl
  case h_2 =>
    obtain ⟨⟨_, pool⟩, _, rfl⟩ := ok_of_map freed
    rfl

theorem freeAll_frame (a : Allocator) (records : List Record) :
    PoolsOnly a (a.freeAll records).2 := by
  induction records generalizing a with
  | nil => rfl
  | cons r rest ih =>
      unfold freeAll
      cases freed : a.free r with
      | error fault => rfl
      | ok next => exact (free_frame freed).trans (ih next)

theorem freed_snd (a : Allocator) (records : List Record) :
    (a.freed records).2 = (a.freeAll records).2 := by
  unfold freed
  split <;> simp_all

theorem freed_frame (a : Allocator) (records : List Record) : PoolsOnly a (a.freed records).2 := by
  rw [freed_snd]
  exact freeAll_frame a records

theorem freeAll_unbound (a : Allocator) (records : List Record) :
    a.freeAll (records.map Record.unbound) = a.freeAll records := by
  induction records generalizing a with
  | nil => rfl
  | cons r rest ih =>
      have same : a.free r.unbound = a.free r := rfl
      simp only [List.map_cons, freeAll, same, ih]

end Pools

section Fresh
variable {w : Identity} {index : Option Int} {mac : String} {networkType : NetworkType}
variable {eligible : Option (List String)}

theorem acquireAll_frame (a : Allocator) (taken : List Record) (families : List Family) :
    PoolsOnly a (a.acquireAll w index mac networkType eligible taken families).2 := by
  induction families generalizing a taken with
  | nil => rfl
  | cons family rest ih =>
      unfold acquireAll
      cases a.acquire networkType family eligible with
      | error fault => exact freeAll_frame a taken
      | ok found =>
          obtain ⟨address, pool⟩ := found
          have marked : PoolsOnly a (a.setPool pool) := rfl
          exact marked.trans (ih _ _)

/-- What a fresh record says of the pod that it is for. -/
def IsFreshFor (w : Identity) (index : Option Int) (mac : String) (r : Record) : Prop :=
  r.ns = w.ns ∧ r.mac = mac ∧ r.binding = ⟨w.podUID, w.podName, w.nodeName, w.owner, index⟩

theorem acquireAll_records {taken records : List Record} {families : List Family}
    (given : a.acquireAll w index mac networkType eligible taken families = (.ok records, a')) :
    ∃ new, records = taken ++ new ∧ new.map (·.family) = families ∧
      ∀ r ∈ new, IsFreshFor w index mac r := by
  induction families generalizing a taken with
  | nil =>
      cases given
      exact ⟨[], by simp, rfl, by simp⟩
  | cons family rest ih =>
      unfold acquireAll at given
      split at given
      case h_1 => cases given
      case h_2 address pool _ =>
        obtain ⟨new, whole, kinds, fresh⟩ := ih given
        refine ⟨freshRecord w index mac family address pool.subnet :: new, ?_, ?_, ?_⟩
        · rw [whole, List.append_assoc, List.singleton_append]
        · rw [List.map_cons, kinds]
          rfl
        · exact List.forall_mem_cons.mpr ⟨⟨rfl, rfl, rfl⟩, fresh⟩

theorem allocateFresh_records {c : Criteria} {records : List Record}
    (given : a.allocateFresh w index c eligible = (.ok records, a')) :
    records.map (·.family) = c.orderedFamilies ∧
      ∀ r ∈ records, IsFreshFor w index a.macs.draw.1 r := by
  obtain ⟨new, whole, kinds, fresh⟩ := acquireAll_records given
  rw [List.nil_append] at whole
  subst whole
  exact ⟨kinds, fresh⟩

theorem allocateFresh_frame (a : Allocator) (w : Identity) (index : Option Int) (c : Criteria)
    (eligible : Option (List String)) :
    PoolsOnly { a with macs := a.macs.draw.2 } (a.allocateFresh w index c eligible).2 :=
  acquireAll_frame _ _ _

end Fresh

section Allocating
variable {w : Identity} {c : Criteria} {eligible : Option (List String)}

inductive Allocated (a : Allocator) (w : Identity) (c : Criteria) (eligible : Option (List String)) :
    Outcome (List Record) → Prop
  | kept {records : List Record} (had : a.recordsFor w = records) (some_record : records ≠ []) :
      Allocated a w c eligible (.ok records, a)
  | refused (fault : Fault) : Allocated a w c eligible (.error fault, a)
  | failed (index : Option Int) {fault : Fault} {a' : Allocator}
      (fresh : a.allocateFresh w index c eligible = (.error fault, a'))
      (frame : PoolsOnly { a with macs := a.macs.draw.2 } a') :
      Allocated a w c eligible (.error fault, a')
  | rebound {key : OrdinalKey} {kept : List Record} (named : w.podUID ≠ "")
      (had : a.recordsFor w = []) (stateful : w.statefulKey? = .ok (some key))
      (vacant : a.holders.get? key = none) (retained : a.retention.groups.get? key = some kept)
      (fits : a.misfit? w c kept = none) :
      Allocated a w c eligible (.ok (kept.map (·.boundTo w.podUID w.podName w.nodeName)),
        Allocator.bind { a with retention := ⟨a.retention.groups.erase key⟩ } w (some key)
          (kept.map (·.boundTo w.podUID w.podName w.nodeName)))
  | fresh {key : Option OrdinalKey} {records : List Record} {a' : Allocator}
      (named : w.podUID ≠ "") (had : a.recordsFor w = []) (stateful : w.statefulKey? = .ok key)
      (vacant : ∀ k, key = some k → a.holders.get? k = none)
      (unretained : ∀ k, key = some k → a.retention.groups.get? k = none)
      (some_family : c.orderedFamilies ≠ [])
      (given : a.allocateFresh w (key.map (·.index)) c eligible = (.ok records, a'))
      (frame : PoolsOnly { a with macs := a.macs.draw.2 } a') :
      Allocated a w c eligible (.ok records, a'.bind w key records)

theorem rebind_eq_ok {found : Option (List Record)} (answered : a.rebind w c = .ok (found, a')) :
    ∃ key, w.statefulKey? = .ok (some key) ∧
      ((a.retention.groups.get? key = none ∧ found = none ∧ a' = a) ∨
        ∃ kept, a.retention.groups.get? key = some kept ∧ a.misfit? w c kept = none ∧
          found = some (kept.map (·.boundTo w.podUID w.podName w.nodeName)) ∧
          a' = { a with retention := ⟨a.retention.groups.erase key⟩ }) := by
  unfold rebind at answered
  obtain ⟨looked, present, answered⟩ := ok_of_bind answered
  obtain ⟨key, known, held⟩ := Retention.lookup_eq_ok present
  refine ⟨key, Retention.keyOf_eq_ok_iff.mp known, ?_⟩
  cases looked with
  | none =>
      cases answered
      exact .inl ⟨held, rfl, rfl⟩
  | some kept =>
      right
      simp only at answered
      split at answered
      case h_1 => cases answered
      case h_2 fits =>
        obtain ⟨⟨_, retention⟩, taken, answered⟩ := ok_of_bind answered
        obtain ⟨key', known', _, rest⟩ := Retention.take_eq_ok taken
        rw [known] at known'
        cases known'
        cases answered
        exact ⟨kept, held, fits, rfl, by rw [rest]⟩

theorem rebind_of_unretained {key : OrdinalKey} (stateful : w.statefulKey? = .ok (some key))
    (unretained : a.retention.groups.get? key = none) : a.rebind w c = .ok (none, a) := by
  have looked : a.retention.lookup w = .ok none := by
    rewrite [Retention.lookup, Retention.keyOf_eq_ok_iff.mpr stateful]
    dsimp only [Bind.bind, Except.bind]
    rewrite [unretained]
    rfl
  rw [rebind, looked]
  rfl

/-- A request that is in order, for a pod that has nothing and whose ordinal is neither held nor retains anything. -/
structure Unserved (a : Allocator) (w : Identity) (c : Criteria) (key : Option OrdinalKey) : Prop where
  named : w.podUID ≠ ""
  some_family : c.orderedFamilies ≠ []
  bytes : w.hasBytes = true
  stateful : w.statefulKey? = .ok key
  had : a.recordsFor w = []
  vacant : ∀ k, key = some k → a.holders.get? k = none
  unretained : ∀ k, key = some k → a.retention.groups.get? k = none

variable {key : Option OrdinalKey}

theorem Unserved.allocate (unserved : Unserved a w c key) (eligible : Option (List String)) :
    a.allocate w c eligible =
      match a.allocateFresh w (key.map (·.index)) c eligible with
      | (.ok records, a) => (.ok records, a.bind w key records)
      | failed => failed := by
  unfold Allocator.allocate
  rw [if_neg unserved.named, if_neg unserved.some_family, if_neg (by simp [unserved.bytes]), unserved.stateful,
    unserved.had]
  cases key with
  | none => rfl
  | some key =>
      have supplied : a.supply w (some key) c eligible = a.allocateFresh w (some key.index) c eligible := by
        simp only [supply, rebind_of_unretained unserved.stateful (unserved.unretained key rfl)]
      dsimp only [Option.bind_some]
      rewrite [unserved.vacant key rfl]
      dsimp only
      rewrite [supplied]
      rfl

theorem Unserved.answer (unserved : Unserved a w c key) (eligible : Option (List String)) :
    (a.allocate w c eligible).1 = (a.allocateFresh w (key.map (·.index)) c eligible).1 := by
  rw [unserved.allocate]
  generalize a.allocateFresh w (key.map (·.index)) c eligible = result
  rcases result with ⟨_ | _, _⟩ <;> rfl

theorem Unserved.allocated (unserved : Unserved a w c key) (eligible : Option (List String)) :
    Allocated a w c eligible
      (match a.allocateFresh w (key.map (·.index)) c eligible with
      | (.ok records, a) => (.ok records, a.bind w key records)
      | failed => failed) := by
  obtain ⟨named, some_family, _, stateful, had, vacant, unretained⟩ := unserved
  have frame := allocateFresh_frame a w (key.map (·.index)) c eligible
  rcases given : a.allocateFresh w (key.map (·.index)) c eligible with ⟨result, a'⟩
  rw [given] at frame ⊢
  cases result with
  | ok records => exact .fresh named had stateful vacant unretained some_family given frame
  | error fault => exact .failed _ given frame

theorem allocate_cases (a : Allocator) (w : Identity) (c : Criteria)
    (eligible : Option (List String)) : Allocated a w c eligible (a.allocate w c eligible) := by
  unfold allocate
  split
  · exact .refused _
  split
  · exact .refused _
  split
  · exact .refused _
  case isFalse.isFalse.isFalse named some_family bytes =>
    split
    case h_1 => exact .refused _
    case h_2 key stateful =>
      split
      case h_1 r rest _ had => exact .kept had (by simp)
      case h_2 => exact .refused _
      case h_3 had vacant =>
        have vacant_key : ∀ k, key = some k → a.holders.get? k = none := by
          rintro k rfl
          exact vacant
        have from_pools (unretained : ∀ k, key = some k → a.retention.groups.get? k = none) :=
          Unserved.allocated ⟨named, some_family, by simpa using bytes, stateful, had, vacant_key, unretained⟩ eligible
        unfold supply
        cases key with
        | none => exact from_pools (by simp)
        | some key =>
            cases answered : a.rebind w c with
            | error fault => exact .refused fault
            | ok found =>
                obtain ⟨records, a'⟩ := found
                obtain ⟨key', known, outcome⟩ := rebind_eq_ok answered
                rw [stateful] at known
                cases known
                rcases outcome with ⟨unretained, rfl, rfl⟩ | ⟨kept, retained, fits, rfl, rfl⟩
                · exact from_pools (by rintro k ⟨⟩; exact unretained)
                · exact .rebound named had stateful vacant retained fits

end Allocating

section Releasing
variable {w : Identity}

/-- The allocator without the records of a pod and without its holds, before the addresses are dealt with. -/
def without (a : Allocator) (w : Identity) : Allocator :=
  { a with active := a.active.erase w.podUID }.forgetHolder (a.recordsFor w) w.podUID

inductive Released (a : Allocator) (w : Identity) : Outcome (List Record) → Prop
  | refused (fault : Fault) (no_bytes : w.hasBytes = false) : Released a w (.error fault, a)
  | idle (none_had : a.recordsFor w = []) :
      Released a w (.ok [], { a with active := a.active.erase w.podUID })
  | freed (some_record : a.recordsFor w ≠ []) (ends : a.outlives (a.recordsFor w) = false)
      (bytes : w.hasBytes = true) :
      Released a w ((a.without w).freed (a.recordsFor w))
  | retained {key : OrdinalKey} (some_record : a.recordsFor w ≠ [])
      (stays : a.outlives (a.recordsFor w) = true)
      (known : ∀ r ∈ a.recordsFor w, r.key? = some key)
      (vacant : a.retention.groups.get? key = none) :
      Released a w (.ok ((a.recordsFor w).map Record.unbound),
        { a.without w with
          retention := ⟨a.retention.groups.put key ((a.recordsFor w).map Record.unbound)⟩ })
  | clashed {key : OrdinalKey} {held : List Record} (answer : Except Fault (List Record))
      (some_record : a.recordsFor w ≠ [])
      (known : ∀ r ∈ a.recordsFor w, r.key? = some key)
      (occupied : a.retention.groups.get? key = some held)
      (stays : a.outlives (a.recordsFor w) = true) :
      Released a w (answer, ((a.without w).freeAll (a.recordsFor w)).2)
  | lost (fault : Fault) (some_record : a.recordsFor w ≠ [])
      (stateful : ∀ r ∈ a.recordsFor w, r.isStateful = true)
      (mixed : ¬ ∃ key, ∀ r ∈ a.recordsFor w, r.key? = some key)
      (bytes : w.hasBytes = true) (stays : a.outlives (a.recordsFor w) = true) :
      Released a w (.error fault, a.without w)

theorem release_cases (a : Allocator) (w : Identity) : Released a w (a.release w) := by
  unfold release
  by_cases no_bytes : w.hasBytes = false
  · rw [if_pos (by simp [no_bytes])]
    exact .refused _ no_bytes
  have bytes : w.hasBytes = true := by simpa using no_bytes
  rw [if_neg (by simp [bytes])]
  dsimp only
  by_cases none_had : a.recordsFor w = []
  · rw [if_pos (by simp [none_had])]
    exact .idle none_had
  rw [if_neg (by simp [none_had])]
  change Released a w (if a.outlives (a.recordsFor w) = true
    then (a.without w).retainAll ((a.recordsFor w).map Record.unbound)
    else (a.without w).freed (a.recordsFor w))
  cases stays : a.outlives (a.recordsFor w) with
  | false => exact .freed none_had stays bytes
  | true =>
      have stateful : ∀ r ∈ a.recordsFor w, r.isStateful = true :=
        List.all_eq_true.mp (Bool.and_eq_true_iff.mp stays).1
      have some_record : (a.recordsFor w).map Record.unbound ≠ [] := by simpa using none_had
      rw [if_pos rfl]
      unfold retainAll
      by_cases common : ∃ key, ∀ r ∈ a.recordsFor w, r.key? = some key
      · obtain ⟨key, known⟩ := common
        -- Only a group that is retained already stands in the way; then the addresses are freed.
        rcases Retention.retain_of_key (s := (a.without w).retention) some_record
            (List.forall_mem_map.mpr known) (List.forall_mem_map.mpr fun _ _ => rfl) with
          ⟨vacant, taken⟩ | ⟨held, occupied, refused⟩
        · rw [taken]
          exact .retained none_had stays known vacant
        · rw [refused]
          simp only [freeAll_unbound]
          rcases rest : (a.without w).freeAll (a.recordsFor w) with ⟨answer, a'⟩
          have after : a' = ((a.without w).freeAll (a.recordsFor w)).2 := by rw [rest]
          subst after
          cases answer <;> exact .clashed _ none_had known occupied stays
      · obtain ⟨value, refused⟩ := Retention.retain_of_mixed (s := (a.without w).retention) some_record
          (List.forall_mem_map.mpr stateful)
          (by simpa [List.forall_mem_map] using common)
        rw [refused]
        exact .lost _ none_had stateful common bytes stays

theorem purge_cases (a : Allocator) (w : Identity) :
    (∃ fault, a.purge w = (.error fault, a)) ∨
      ∃ key, Retention.keyOf w = .ok key ∧
        a.purge w = Allocator.freed { a with retention := ⟨a.retention.groups.erase key⟩ }
          ((a.retention.groups.get? key).getD []) := by
  unfold purge
  split
  · exact .inl ⟨_, rfl⟩
  · cases purged : a.retention.purge w with
    | error fault => exact .inl ⟨fault, rfl⟩
    | ok found =>
        obtain ⟨records, rest⟩ := found
        obtain ⟨key, known, rfl, rfl⟩ := Retention.purge_eq_ok purged
        exact .inr ⟨key, known, rfl⟩

theorem retention_purgeOwner (a : Allocator) (ns : String) (owner : Owner) (keep : Option Int) :
    (a.purgeOwner ns owner keep).2.retention =
      ⟨a.retention.groups.filter (!Retention.isPurged ns owner keep ·)⟩ :=
  (freed_frame _ _).retention

theorem active_purgeOwner (a : Allocator) (ns : String) (owner : Owner) (keep : Option Int) :
    (a.purgeOwner ns owner keep).2.active = a.active :=
  (freed_frame _ _).active

end Releasing

section Registering
variable {name : String} {s : Subnet}

theorem addSubnet_eq_ok (added : a.addSubnet s = .ok a') :
    ∃ pool, Pool.ofSubnet s = .ok pool ∧ a.pools.get? s.name = none ∧
      a' = { a with pools := a.pools.put s.name pool } := by
  unfold addSubnet at added
  split at added
  case h_1 => cases added
  case h_2 network _ =>
    obtain ⟨family, _, added⟩ := ok_of_bind added
    split at added
    · cases added
    · split at added
      · cases added
      case isFalse absent =>
        obtain ⟨pool, made, added⟩ := ok_of_bind added
        cases added
        refine ⟨pool, made, ?_, rfl⟩
        cases found : a.pools.get? s.name with
        | none => rfl
        | some pool => exact absurd (Table.has_iff.mpr ⟨pool, found⟩) absent

theorem removeSubnet_eq_ok (removed : a.removeSubnet name = .ok a') :
    a' = a ∨ ∃ pool, a.pools.get? name = some pool ∧ pool.used = [] ∧
      a' = { a with pools := a.pools.erase name } := by
  unfold removeSubnet at removed
  split at removed
  case h_1 =>
    cases removed
    exact .inl rfl
  case h_2 pool found =>
    split at removed
    case isTrue empty =>
      cases removed
      exact .inr ⟨pool, found, by simpa using empty, rfl⟩
    case isFalse => cases removed

theorem registered_snd (a : Allocator) (result : Except Fault Allocator) :
    (a.registered result).2 = a ∨ result = .ok (a.registered result).2 := by
  cases result with
  | error fault => exact .inl rfl
  | ok next => exact .inr rfl

theorem registered_frame {result : Except Fault Allocator}
    (same : ∀ a', result = .ok a' → PoolsOnly a a') : PoolsOnly a (a.registered result).2 := by
  rcases registered_snd a result with unchanged | changed
  · rw [unchanged]
    rfl
  · exact same _ changed

theorem addSubnet_frame {s : Subnet} (added : a.addSubnet s = .ok a') : PoolsOnly a a' := by
  obtain ⟨_, _, _, rfl⟩ := addSubnet_eq_ok added
  rfl

theorem removeSubnet_frame {name : String} (removed : a.removeSubnet name = .ok a') :
    PoolsOnly a a' := by
  rcases removeSubnet_eq_ok removed with rfl | ⟨_, _, _, rfl⟩ <;> rfl

end Registering
end PodAddressing.Allocator
