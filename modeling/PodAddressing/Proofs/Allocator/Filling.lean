import Mathlib.Algebra.Order.BigOperators.Group.List
import PodAddressing.Proofs.Allocator.Accounts
/-!
Filling pools. A pool goes round its range, so where pods come and none of them leaves, every value that it may hand
out is handed out in time.
-/

namespace PodAddressing

theorem Table.filter_entry {κ α : Type} [DecidableEq κ] {t : Table κ α} (unique : t.Unique) {k : κ} {v : α}
    (found : t.get? k = some v) {p : κ × α → Bool} (only : ∀ entry, p entry = true → entry.1 = k)
    (passes : p (k, v) = true) : t.filter p = [(k, v)] := by
  have others : (t.erase k).filter p = [] := by
    apply List.filter_eq_nil_iff.mpr
    intro entry member passes
    have other := of_decide_eq_true (List.mem_filter.mp member).2
    exact other (only entry passes)
  have parted := (perm_erase unique found).filter p
  rw [List.filter_cons_of_pos passes, others] at parted
  exact List.perm_singleton.mp parted

theorem Table.exists_unused {α : Type} (t : Table String α) : ∃ name, name ≠ "" ∧ t.get? name = none := by
  -- A name that is longer than all of them together is none of them.
  obtain ⟨long, size⟩ : ∃ name : String, name.length = (t.keys.map String.length).sum + 1 :=
    ⟨String.ofList (List.replicate ((t.keys.map String.length).sum + 1) 'u'), by simp⟩
  refine ⟨long, ?_, get?_eq_none_iff.mpr fun member => ?_⟩
  · rintro rfl
    cases size
  · have short := List.le_sum_of_mem (List.mem_map_of_mem (f := String.length) member)
    omega

namespace Allocator
variable {a a' : Allocator} {name : String} {pool pool' : Pool}

section Networks
variable {s : Subnet}

def Networked (a : Allocator) : Prop :=
  ∀ name pool, a.pools.get? name = some pool →
    ∃ network, a.networks.get? pool.subnet.network = some network ∧ network.supports pool.family = true

theorem addSubnet_network (added : a.addSubnet s = .ok a') :
    ∃ network family, a.networks.get? s.network = some network ∧ s.family = .ok family ∧
      network.supports family = true := by
  unfold addSubnet at added
  split at added
  case h_1 => cases added
  case h_2 network found =>
    obtain ⟨family, known, added⟩ := ok_of_bind added
    split at added
    case isTrue => cases added
    case isFalse supported => exact ⟨network, family, found, known, by simpa using supported⟩

theorem networked_addSubnet (networked : Networked a) (added : a.addSubnet s = .ok a') : Networked a' := by
  obtain ⟨network, family, registered, known, supported⟩ := addSubnet_network added
  obtain ⟨own, made, _, rfl⟩ := addSubnet_eq_ok added
  obtain ⟨_, subnet, _, family_eq⟩ := Pool.ofSubnet_valid made
  intro name pool found
  rw [Table.get?_put] at found
  split at found
  · cases found
    rw [known] at family_eq
    cases family_eq
    exact ⟨network, subnet ▸ registered, supported⟩
  · exact networked name pool found

theorem networked_of_create {macs : MacSource} {networks : List Network} {subnets : List Subnet}
    {given : Option Retention} (made : create macs networks subnets given = .ok a) : Networked a := by
  obtain ⟨_, bare, rfl, added, _⟩ := create_eq_ok made
  refine foldlM_keeps (fun _ _ _ => networked_addSubnet) ?_ added
  intro name pool found
  cases found

end Networks

section Lone

def lonePod (podUID : String) : Identity := .ofPod "shop" "job" podUID "node-1" none

theorem lonePod_hasBytes (podUID : String) : (lonePod podUID).hasBytes = true := by
  change (!Text.hasHalf ("shop" ++ "/" ++ "job")) = true
  decide +kernel

theorem acquire_only {network : Network} {address : Address} (unique : a.pools.Unique)
    (found : a.pools.get? name = some pool) (registered : a.networks.get? pool.subnet.network = some network)
    (supported : network.supports pool.family = true) (given : pool.acquire = .ok (address, pool')) :
    a.acquire network.type pool.family (some [name]) = .ok (address, pool') := by
  have eligible : a.eligiblePools network.type pool.family (some [name]) = [pool] := by
    unfold eligiblePools
    rw [Table.filter_entry unique found]
    · exact List.mergeSort_singleton pool
    · intro entry passes
      simp only [isEligible, Bool.and_eq_true] at passes
      simpa using passes.1.1
    · simp [isEligible, registered, supported]
  unfold acquire
  simp only [eligible]
  unfold acquireFrom?
  rw [given]
  rfl

theorem orderedFamilies_single (networkType : NetworkType) (family : Family) :
    Criteria.orderedFamilies ⟨networkType, [family]⟩ = [family] := by
  cases family <;> rfl

theorem allocateFresh_single {networkType : NetworkType} {family : Family} {eligible : Option (List String)}
    {address : Address} (given : a.acquire networkType family eligible = .ok (address, pool')) (w : Identity) :
    a.allocateFresh w none ⟨networkType, [family]⟩ eligible =
      (.ok [freshRecord w none a.macs.draw.1 family address pool'.subnet],
        ({ a with macs := a.macs.draw.2 }.setPool pool' : Allocator)) := by
  have drawn : ({ a with macs := a.macs.draw.2 } : Allocator).acquire networkType family eligible =
      .ok (address, pool') := given
  rw [allocateFresh, orderedFamilies_single]
  simp only [acquireAll, drawn]
  rfl

end Lone

section Fill

def Op.leases : Op → Bool
  | .allocate _ _ _ | .release _ => true
  | _ => false

structure Filling (a : Allocator) : Prop where
  consistent : Consistent a
  networked : Networked a
  booked : Booked a.pools (a.active.values.flatten.map Record.spot)

theorem networked_replace (networked : Networked a) (found : a.pools.get? name = some pool) (next : Pool)
    (same : next.subnet = pool.subnet) (family : next.family = pool.family) :
    Networked { a with pools := a.pools.put next.subnet.name next } := by
  intro name' other found'
  rw [Table.get?_put] at found'
  split at found'
  · cases found'
    rw [same, family]
    exact networked name pool found
  · exact networked name' other found'

/-- A pool that is not full can be made to hand out one address more. -/
theorem fill_step (filling : Filling a) (found : a.pools.get? name = some pool) (room : pool.hasFree = true) :
    ∃ op n cursor, op.leases = true ∧ Filling (a.apply op).2 ∧ (a.apply op).2.retention = a.retention ∧
      (a.apply op).2.pools.get? name = some { pool with used := n :: pool.used, cursor := cursor } := by
  obtain ⟨network, registered, supported⟩ := filling.networked name pool found
  obtain ⟨uid, named, unused⟩ := Table.exists_unused a.active
  obtain ⟨valid, own⟩ := filling.booked.valid name pool found
  let n := pool.seek (pool.blocked.length + pool.used.length) pool.cursor
  let next : Pool := { pool with used := n :: pool.used, cursor := pool.after n }
  have given : pool.acquire = .ok (⟨pool.family, n, none⟩, next) := by
    rw [Pool.acquire, if_pos room]
  have acquired := acquire_only filling.booked.unique found registered supported given
  have fresh := allocateFresh_single acquired (lonePod uid)
  have had : a.recordsFor (lonePod uid) = [] := by
    change (a.active.get? uid).getD [] = []
    rw [unused]
    rfl
  have unserved : Unserved a (lonePod uid) ⟨network.type, [pool.family]⟩ none :=
    ⟨named, by simp [orderedFamilies_single], lonePod_hasBytes uid, rfl, had, by simp, by simp⟩
  have answer := unserved.allocate (some [name])
  rw [Option.map_none, fresh] at answer
  have replaced : (a.pools.put next.subnet.name next).get? name = some next := by
    rw [show next.subnet.name = name from own, Table.get?_put_self]
  refine ⟨.allocate (lonePod uid) ⟨network.type, [pool.family]⟩ (some [name]), n, pool.after n, rfl, ?_, ?_, ?_⟩
  · refine ⟨consistent_apply filling.consistent _, ?_, ?_⟩
    · rw [apply, answer]
      exact networked_replace filling.networked found next rfl rfl
    · have booked := booked_allocateFresh filling.booked (lonePod uid) none ⟨network.type, [pool.family]⟩
        (some [name])
      rw [fresh] at booked
      rw [apply, answer]
      have joined := Table.members_put unused [freshRecord (lonePod uid) none a.macs.draw.1 pool.family
        ⟨pool.family, n, none⟩ next.subnet]
      change Booked _ ((a.active.put uid _).values.flatten.map Record.spot)
      rw [joined, List.map_append]
      exact booked.perm List.perm_append_comm
  · rw [apply, answer]
    rfl
  · rw [apply, answer]
    exact replaced

/-- Every value that a pool may hand out can be brought into use. -/
theorem fills (filling : Filling a) (found : a.pools.get? name = some pool) {n : Nat}
    (usable : pool.isUsable n = true) :
    ∃ ops, (∀ op ∈ ops, op.leases = true) ∧ Filling (a.run ops) ∧ (a.run ops).retention = a.retention ∧
      ∃ pool', (a.run ops).pools.get? name = some pool' ∧ n ∈ pool'.used := by
  induction left : pool.capacity - pool.used.length using Nat.strongRecOn generalizing a pool with
  | ind left ih =>
      by_cases used : n ∈ pool.used
      · exact ⟨[], by simp, filling, rfl, pool, found, used⟩
      · -- A value that is not in use leaves room for one more step.
        have room := Pool.hasFree_of_free (filling.booked.valid name pool found).1 (Pool.isFree_iff.mpr ⟨usable, used⟩)
        obtain ⟨op, m, cursor, leases, filling', same, found'⟩ := fill_step filling found room
        have below : pool.used.length < pool.capacity := of_decide_eq_true room
        obtain ⟨ops, rest, last, kept, pool', found'', done⟩ :=
          ih (pool.capacity - (pool.used.length + 1)) (by omega) filling' found' usable rfl
        exact ⟨op :: ops, List.forall_mem_cons.mpr ⟨leases, rest⟩, last, kept.trans same, pool', found'', done⟩

end Fill

end Allocator
end PodAddressing
