import PodAddressing.Proofs.Allocator.Ranges
/-!
Allocations that are refused. Most are before anything is touched; one that has taken an address for the first family
and gets none for the second has given it back. So nothing is spent but a hardware address, and the pools only look
elsewhere for the next free value.
-/

namespace PodAddressing

section Marks
variable {pools : Table String Pool}

def marks (pools : Table String Pool) : List Spot :=
  pools.flatMap fun (name, pool) => pool.used.map fun n => (name, some (pool.family, n))

theorem mem_marks (unique : pools.Unique) {name : String} {within : Option (Family × Nat)} :
    (name, within) ∈ marks pools ↔
      ∃ pool n, pools.get? name = some pool ∧ n ∈ pool.used ∧ within = some (pool.family, n) := by
  unfold marks
  rw [List.mem_flatMap]
  constructor
  · rintro ⟨⟨own, pool⟩, listed, member⟩
    obtain ⟨n, used, same⟩ := List.mem_map.mp member
    obtain ⟨rfl, rfl⟩ := Prod.mk.inj same
    exact ⟨pool, n, Table.get?_of_mem unique listed, used, rfl⟩
  · rintro ⟨pool, n, found, used, rfl⟩
    exact ⟨(name, pool), Table.mem_of_get? found, List.mem_map.mpr ⟨n, used, rfl⟩⟩

theorem nodup_marks (registered : Registered pools) : (marks pools).Nodup := by
  refine List.nodup_flatMap.mpr ⟨?_, ?_⟩
  · rintro ⟨name, pool⟩ listed
    have valid := registered.valid name pool (Table.get?_of_mem registered.unique listed)
    refine valid.used_nodup.map fun n m same => ?_
    exact (Prod.mk.inj (Option.some.inj (Prod.mk.inj same).2)).2
  · have apart : pools.Pairwise fun e e' => e.1 ≠ e'.1 := List.pairwise_map.mp registered.unique
    refine apart.imp fun {e e'} differ spot left right => ?_
    obtain ⟨_, _, rfl⟩ := List.mem_map.mp left
    obtain ⟨_, _, same⟩ := List.mem_map.mp right
    exact differ (Prod.mk.inj same).1.symm

theorem Registered.booked_marks (registered : Registered pools) : Booked pools (marks pools) where
  unique := registered.unique
  valid := fun name pool found => ⟨registered.valid name pool found, registered.named name pool found⟩
  marked := fun _ _ => mem_marks registered.unique
  single := nodup_marks registered

end Marks

namespace Allocator
variable {a a' : Allocator} {w : Identity} {c : Criteria} {eligible : Option (List String)} {fault : Fault}

/-- Nothing is different but where the pools look next and, at most, one hardware address. -/
structure Unspent (a a' : Allocator) : Prop where
  networks : a'.networks = a.networks
  pools : cleared a'.pools = cleared a.pools
  used : ∀ name, (usedIn a'.pools name).Perm (usedIn a.pools name)
  active : a'.active = a.active
  holders : a'.holders = a.holders
  limits : a'.limits = a.limits
  retention : a'.retention = a.retention
  macs : a'.macs = a.macs ∨ a'.macs = a.macs.draw.2

namespace Unspent

theorem refl (a : Allocator) : Unspent a a where
  networks := rfl
  pools := rfl
  used := fun _ => .refl _
  active := rfl
  holders := rfl
  limits := rfl
  retention := rfl
  macs := .inl rfl

theorem records (unspent : Unspent a a') : a'.records = a.records := by
  rw [Allocator.records, Allocator.records, unspent.active, unspent.retention]

theorem subnet? (unspent : Unspent a a') (name : String) : a'.subnet? name = a.subnet? name := by
  rw [← subnet?_cleared, unspent.pools, subnet?_cleared]

end Unspent

/-- A fresh allocation that fails has given back what it took. -/
theorem unspent_allocateFresh (registered : Registered a.pools) {index : Option Int}
    (failed : a.allocateFresh w index c eligible = (.error fault, a')) : Unspent a a' := by
  have frame := allocateFresh_frame a w index c eligible
  have served := served_allocateFresh registered w index c eligible
  have booked := booked_allocateFresh registered.booked_marks w index c eligible
  rw [failed] at frame served booked
  exact {
    networks := frame.networks
    pools := served.cleared
    used := Booked.usedIn_perm booked registered.booked_marks
    active := frame.active
    holders := frame.holders
    limits := frame.limits
    retention := frame.retention
    macs := .inr frame.macs }

theorem unspent_of_refused (reached : Reachable a) (refused : (a.allocate w c eligible).1 = .error fault) :
    let after := (a.allocate w c eligible).2
    Unspent a after ∧ after.records = a.records ∧ ∀ name, after.subnet? name = a.subnet? name := by
  suffices unspent : Unspent a (a.allocate w c eligible).2 from ⟨unspent, unspent.records, unspent.subnet?⟩
  have outcome := allocate_cases a w c eligible
  generalize a.allocate w c eligible = result at outcome refused
  cases outcome with
  | kept had some_record => cases refused
  | refused fault => exact .refl a
  | failed index fresh frame => exact unspent_allocateFresh (registered_of_reachable reached) fresh
  | rebound named had stateful vacant retained fits => cases refused
  | fresh named had stateful vacant unretained some_family given frame => cases refused

section Sample

def full : Allocator := sample.run (["u1", "u2", "u3"].map fun uid =>
  .allocate (webPod "job" uid) ⟨.underlay, [.v6]⟩ none)

theorem full_unspent :
    let outcome := full.allocate (webPod "web-0" "u4") ⟨.underlay, [.v4, .v6]⟩ none
    outcome.1 = .error (.exhausted "IPv6" ["six"]) ∧
      (full.pools.get? "four").map (·.cursor) ≠ (outcome.2.pools.get? "four").map (·.cursor) ∧
      Unspent full outcome.2 ∧ outcome.2.records = full.records ∧
      ∀ name, outcome.2.subnet? name = full.subnet? name := by
  have refused : (full.allocate (webPod "web-0" "u4") ⟨.underlay, [.v4, .v6]⟩ none).1 =
      .error (.exhausted "IPv6" ["six"]) := by decide +kernel
  exact ⟨refused, by decide +kernel,
    unspent_of_refused (reachable_run (reachable_of_started sample_started) _) refused⟩

end Sample
end Allocator
end PodAddressing
