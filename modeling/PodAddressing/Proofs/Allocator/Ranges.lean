import PodAddressing.Proofs.Allocator.Booking
import PodAddressing.Proofs.Pool
/-!
Pools and their subnets. All that an allocator does with its pools is to register them, to remove them and to call
them; so cleared a pool is again what is made of its subnet, and what is registered says all about the pools but which
values are used and where the next one is looked for.
-/

namespace PodAddressing

def cleared (pools : Table String Pool) : Table String Pool :=
  pools.map fun (name, pool) => (name, pool.clear)

section Cleared
variable {pools pools' : Table String Pool} {name : String} {pool pool' : Pool}

theorem get?_cleared (pools : Table String Pool) (name : String) :
    (cleared pools).get? name = (pools.get? name).map Pool.clear :=
  Table.get?_map pools Pool.clear name

def Served (pools pools' : Table String Pool) : Prop :=
  List.Forall₂ (fun entry entry' => entry'.1 = entry.1 ∧ ∃ calls, entry'.2 = entry.2.run calls) pools pools'

namespace Served

theorem refl (pools : Table String Pool) : Served pools pools :=
  List.forall₂_same.mpr fun _ _ => ⟨rfl, [], rfl⟩

theorem trans {pools'' : Table String Pool} (first : Served pools pools') (second : Served pools' pools'') :
    Served pools pools'' := by
  unfold Served at first second
  induction first generalizing pools'' with
  | nil => exact second
  | cons served _ ih =>
      cases second with
      | cons served' rest =>
          obtain ⟨same, before, called⟩ := served
          obtain ⟨same', after, called'⟩ := served'
          refine .cons ⟨same'.trans same, before ++ after, ?_⟩ (ih rest)
          rw [called', called, Pool.run_append]

theorem put (found : pools.get? name = some pool) (calls : List Pool.Call) :
    Served pools (pools.put name (pool.run calls)) := by
  induction pools with
  | nil => cases found
  | cons entry rest ih =>
      obtain ⟨first, own⟩ := entry
      rw [Table.get?_cons] at found
      rw [Table.put]
      by_cases here : first = name
      · rw [if_pos here] at found ⊢
        cases found
        exact .cons ⟨here.symm, calls, rfl⟩ (refl rest)
      · rw [if_neg here] at found ⊢
        exact .cons ⟨rfl, [], rfl⟩ (ih found)

theorem clear (pools : Table String Pool) : Served pools (PodAddressing.cleared pools) :=
  List.forall₂_map_right_iff.mpr (List.forall₂_same.mpr fun _ _ => ⟨rfl, [.clear], rfl⟩)

theorem cleared (served : Served pools pools') : cleared pools' = cleared pools := by
  unfold Served at served
  induction served with
  | nil => rfl
  | @cons entry entry' _ _ called _ ih =>
      obtain ⟨same, calls, called⟩ := called
      have head : (entry'.1, entry'.2.clear) = (entry.1, entry.2.clear) := by
        rw [same, called, Pool.clear_run]
      exact congrArg₂ List.cons head ih

theorem keys (served : Served pools pools') : pools'.keys = pools.keys := by
  have same (pools : Table String Pool) : (PodAddressing.cleared pools).keys = pools.keys := by
    simp [PodAddressing.cleared, Table.keys, Function.comp_def]
  rw [← same pools', served.cleared, same]

theorem get? (served : Served pools pools') (found : pools'.get? name = some pool') :
    ∃ pool calls, pools.get? name = some pool ∧ pool' = pool.run calls := by
  unfold Served at served
  induction served with
  | nil => cases found
  | @cons entry entry' rest rest' called _ ih =>
      obtain ⟨same, calls, called⟩ := called
      obtain ⟨first, own⟩ := entry
      rw [Table.get?_cons, same] at found
      rw [Table.get?_cons]
      by_cases here : first = name
      · rw [if_pos here] at found ⊢
        exact ⟨own, calls, rfl, (Option.some.inj found).symm.trans called⟩
      · rw [if_neg here] at found ⊢
        exact ih found

end Served

/-- Every pool stands under the name of its subnet and is what is made of it, but for what is used. -/
structure Registered (pools : Table String Pool) : Prop where
  unique : pools.Unique
  stands : ∀ name pool, pools.get? name = some pool → pool.Stands name

namespace Registered

theorem named (registered : Registered pools) (name : String) (pool : Pool) (found : pools.get? name = some pool) :
    pool.subnet.name = name :=
  (registered.stands name pool found).named

theorem made (registered : Registered pools) (name : String) (pool : Pool) (found : pools.get? name = some pool) :
    pool.Made :=
  (registered.stands name pool found).made

theorem valid (registered : Registered pools) (name : String) (pool : Pool) (found : pools.get? name = some pool) :
    pool.Valid :=
  (registered.stands name pool found).valid

theorem nothing : Registered [] where
  unique := List.nodup_nil
  stands := by simp

/-- What is registered does not depend on what is used. -/
theorem of_served (registered : Registered pools) (served : Served pools pools') : Registered pools' where
  unique := by
    rw [Table.Unique, served.keys]
    exact registered.unique
  stands := by
    intro name pool found
    obtain ⟨before, calls, present, rfl⟩ := served.get? found
    exact (registered.stands name before present).run calls

theorem addPool {s : Subnet} (registered : Registered pools) (made : Pool.ofSubnet s = .ok pool) :
    Registered (pools.put s.name pool) where
  unique := Table.unique_put registered.unique s.name pool
  stands := by
    intro name other found
    rw [Table.get?_put] at found
    by_cases same : s.name = name
    · rw [if_pos same] at found
      cases found
      exact same ▸ Pool.stands_ofSubnet made
    · rw [if_neg same] at found
      exact registered.stands name other found

theorem erasePool (registered : Registered pools) (name : String) :
    Registered (pools.erase name) where
  unique := Table.unique_erase registered.unique name
  stands := by
    intro name' other found
    rw [Table.get?_erase] at found
    by_cases same : name = name'
    · rw [if_pos same] at found
      cases found
    · rw [if_neg same] at found
      exact registered.stands name' other found

theorem booked (registered : Registered pools) : Booked (cleared pools) [] where
  unique := Table.unique_map registered.unique _
  single := List.nodup_nil
  valid := by
    intro name pool found
    rw [get?_cleared] at found
    obtain ⟨before, present, rfl⟩ := Option.map_eq_some_iff.mp found
    exact ⟨Pool.valid_clear (registered.valid name before present), registered.named name before present⟩
  marked := by
    intro name within
    simp only [List.not_mem_nil, get?_cleared, false_iff]
    rintro ⟨pool, n, found, used, _⟩
    obtain ⟨before, _, rfl⟩ := Option.map_eq_some_iff.mp found
    exact absurd used List.not_mem_nil

theorem clear_eq (registered : Registered pools) (registered' : Registered pools')
    (same : (pools.get? name).map (·.subnet) = (pools'.get? name).map (·.subnet)) :
    (cleared pools).get? name = (cleared pools').get? name := by
  rw [get?_cleared, get?_cleared]
  cases found : pools.get? name with
  | none =>
      rw [found, Option.map_none, eq_comm, Option.map_eq_none_iff] at same
      rw [same]
  | some pool =>
      rw [found, Option.map_some, eq_comm] at same
      obtain ⟨other, found', subnet⟩ := Option.map_eq_some_iff.mp same
      have made : Pool.ofSubnet pool.subnet = .ok pool.clear := registered.made name pool found
      have made' : Pool.ofSubnet other.subnet = .ok other.clear := registered'.made name other found'
      rw [subnet, made] at made'
      rw [found', Option.map_some, Option.map_some, Except.ok.inj made']

end Registered
end Cleared

namespace Rebuilding
variable {s s' : Rebuilding}

theorem served_drop (s : Rebuilding) (r : Record) : Served s.pools (s.drop r).pools := by
  unfold drop
  split
  case h_1 => exact .refl _
  case h_2 pool found =>
    split
    case h_1 answer =>
      rw [← Pool.run_release answer]
      exact .put found _
    case h_2 => exact .refl _

theorem served_drops (s : Rebuilding) (records : List Record) :
    Served s.pools (records.foldl drop s).pools := by
  induction records generalizing s with
  | nil => exact .refl _
  | cons r rest ih => exact (served_drop s r).trans (ih (s.drop r))

theorem served_reserve? {r : Record} (reserved : s.reserve? r = some s') : Served s.pools s'.pools := by
  unfold reserve? at reserved
  split at reserved
  case h_1 => cases reserved
  case h_2 pool found =>
    split at reserved
    case h_1 pool' answer =>
      cases reserved
      rw [← Pool.run_reserve answer]
      exact .put found _
    case h_2 => cases reserved

theorem served_file (s : Rebuilding) (r : Record) : Served s.pools (s.file r).pools := by
  unfold file
  split
  · split
    · exact .refl _
    · exact served_drop s r
  · split
    · exact .refl _
    · split
      · exact .refl _
      · split
        · exact .refl _
        · exact served_drop s r

theorem served_adopt (s : Rebuilding) (r : Record) : Served s.pools (s.adopt r).pools := by
  unfold adopt
  split
  case h_1 next reserved => exact (served_reserve? reserved).trans (served_file next r)
  case h_2 => exact .refl _

theorem served_adopts (s : Rebuilding) (records : List Record) :
    Served s.pools (records.foldl adopt s).pools := by
  induction records generalizing s with
  | nil => exact .refl _
  | cons r rest ih => exact (served_adopt s r).trans (ih (s.adopt r))

end Rebuilding

namespace Allocator
variable {a a' : Allocator}

section Frames

theorem subnet?_cleared (a : Allocator) (name : String) :
    ((cleared a.pools).get? name).map (·.subnet) = a.subnet? name := by
  rw [get?_cleared, Option.map_map]
  rfl

theorem subnet?_of_served (served : Served a.pools a'.pools) (name : String) :
    a'.subnet? name = a.subnet? name := by
  rw [← subnet?_cleared, served.cleared, subnet?_cleared]

theorem served_free {r : Record} (registered : Registered a.pools) (freed : a.free r = .ok a') :
    Served a.pools a'.pools := by
  unfold free at freed
  split at freed
  case h_1 =>
    cases freed
    exact .refl _
  case h_2 pool found =>
    obtain ⟨⟨was_used, pool'⟩, answer, rfl⟩ := ok_of_map freed
    have named : pool'.subnet.name = r.subnet := by
      rw [Pool.subnet_of_clear (Pool.release_clear answer)]
      exact registered.named _ _ found
    change Served a.pools (a.pools.put pool'.subnet.name pool')
    rw [named, ← Pool.run_release answer]
    exact .put found _

theorem served_freeAll (registered : Registered a.pools) (records : List Record) :
    Served a.pools (a.freeAll records).2.pools := by
  induction records generalizing a with
  | nil => exact .refl _
  | cons r rest ih =>
      unfold freeAll
      cases freed : a.free r with
      | error fault => exact .refl _
      | ok next =>
          have served := served_free registered freed
          exact served.trans (ih (registered.of_served served))

theorem served_freed (registered : Registered a.pools) (records : List Record) :
    Served a.pools (a.freed records).2.pools := by
  rw [freed_snd]
  exact served_freeAll registered records

variable {w : Identity} {index : Option Int} {mac : String} {networkType : NetworkType}
variable {eligible : Option (List String)}

theorem acquire_registered {family : Family} {address : Address} {pool' : Pool}
    (registered : Registered a.pools)
    (given : a.acquire networkType family eligible = .ok (address, pool')) :
    ∃ pool, a.pools.get? pool'.subnet.name = some pool ∧ pool.acquire = .ok (address, pool') ∧
      Served a.pools (a.setPool pool').pools := by
  obtain ⟨name, pool, listed, answer⟩ := acquire_eq_ok given
  have present := Table.get?_of_mem registered.unique listed
  have named : pool'.subnet.name = name := by
    rw [Pool.subnet_of_clear (Pool.acquire_clear answer)]
    exact registered.named _ _ present
  subst named
  refine ⟨pool, present, answer, ?_⟩
  have served := Served.put present [.acquire]
  rwa [Pool.run_acquire answer] at served

theorem served_acquireAll (registered : Registered a.pools) (taken : List Record)
    (families : List Family) :
    Served a.pools (a.acquireAll w index mac networkType eligible taken families).2.pools := by
  induction families generalizing a taken with
  | nil => exact .refl _
  | cons family rest ih =>
      unfold acquireAll
      cases given : a.acquire networkType family eligible with
      | error fault => exact served_freeAll registered taken
      | ok found =>
          obtain ⟨address, pool'⟩ := found
          obtain ⟨_, _, _, served⟩ := acquire_registered registered given
          exact served.trans (ih (registered.of_served served) _)

theorem served_allocateFresh (registered : Registered a.pools) (w : Identity) (index : Option Int)
    (c : Criteria) (eligible : Option (List String)) :
    Served a.pools (a.allocateFresh w index c eligible).2.pools :=
  served_acquireAll (a := { a with macs := a.macs.draw.2 }) registered [] c.orderedFamilies

theorem served_allocate (registered : Registered a.pools) (w : Identity) (c : Criteria)
    (eligible : Option (List String)) : Served a.pools (a.allocate w c eligible).2.pools := by
  have outcome := allocate_cases a w c eligible
  generalize a.allocate w c eligible = result at outcome
  cases outcome with
  | kept had some_record => exact .refl _
  | refused fault => exact .refl _
  | failed index fresh frame =>
      have served := served_allocateFresh registered w index c eligible
      rw [fresh] at served
      exact served
  | rebound named had stateful vacant retained fits => exact .refl _
  | @fresh key records a' named had stateful vacant unretained some_family given frame =>
      have served := served_allocateFresh registered w (key.map (·.index)) c eligible
      rw [given] at served
      exact served

theorem served_release (registered : Registered a.pools) (w : Identity) :
    Served a.pools (a.release w).2.pools := by
  have outcome := release_cases a w
  generalize a.release w = result at outcome
  cases outcome with
  | refused fault no_bytes => exact .refl _
  | idle none_had => exact .refl _
  | freed some_record ends bytes => exact served_freed (a := a.without w) registered _
  | retained some_record stays known vacant => exact .refl _
  | clashed answer some_record known occupied stays =>
      exact served_freeAll (a := a.without w) registered _
  | lost fault some_record stateful mixed bytes stays => exact .refl _

theorem served_purge (registered : Registered a.pools) (w : Identity) :
    Served a.pools (a.purge w).2.pools := by
  rcases purge_cases a w with ⟨fault, refused⟩ | ⟨key, _, purged⟩
  · rw [refused]
    exact .refl _
  · rw [purged]
    exact served_freed (a := { a with retention := ⟨a.retention.groups.erase key⟩ }) registered _

theorem served_purgeOwner (registered : Registered a.pools) (ns : String) (owner : Owner)
    (keep : Option Int) : Served a.pools (a.purgeOwner ns owner keep).2.pools :=
  served_freed (a := { a with
    limits := a.limits.put (ownerName ns owner) ⟨owner.uid, keep.getD 0⟩
    retention := (a.retention.purgeOwner ns owner keep).2 }) registered _

theorem served_rebuild (a : Allocator) (records : List Record) :
    Served a.pools (a.rebuild records).2.pools := by
  have adopted := Rebuilding.served_adopts (.ofPools a.pools) records
  refine Served.trans ?_ (Rebuilding.served_drops _ _)
  exact (Served.clear a.pools).trans adopted

end Frames

section Reachable

inductive Arranged (a : Allocator) : Op → Table String Pool → Prop
  | served {op : Op} {pools : Table String Pool} (served : Served a.pools pools) : Arranged a op pools
  | added {s : Subnet} {pool : Pool} (made : Pool.ofSubnet s = .ok pool) :
      Arranged a (.addSubnet s) (a.pools.put s.name pool)
  | removed (name : String) : Arranged a (.removeSubnet name) (a.pools.erase name)

theorem arranged_apply (registered : Registered a.pools) (op : Op) : Arranged a op (a.apply op).2.pools := by
  cases op with
  | addNetwork network => exact .served (.refl _)
  | addSubnet s =>
      rcases registered_snd a (a.addSubnet s) with unchanged | changed
      · rw [apply, unchanged]
        exact .served (.refl _)
      · obtain ⟨pool, made, _, same⟩ := addSubnet_eq_ok changed
        rw [apply, same]
        exact .added made
  | removeSubnet name =>
      rcases registered_snd a (a.removeSubnet name) with unchanged | changed
      · rw [apply, unchanged]
        exact .served (.refl _)
      · rcases removeSubnet_eq_ok changed with same | ⟨pool, _, _, same⟩
        · rw [apply, same]
          exact .served (.refl _)
        · rw [apply, same]
          exact .removed name
  | allocate w c eligible => exact .served (served_allocate registered w c eligible)
  | release w => exact .served (served_release registered w)
  | purge w => exact .served (served_purge registered w)
  | purgeOwner ns owner keep => exact .served (served_purgeOwner registered ns owner keep)
  | rebuild records => exact .served (served_rebuild a records)

theorem registered_apply (registered : Registered a.pools) (op : Op) :
    Registered (a.apply op).2.pools := by
  have outcome := arranged_apply registered op
  generalize (a.apply op).2.pools = pools at outcome
  cases outcome with
  | served served => exact registered.of_served served
  | added made => exact registered.addPool made
  | removed name => exact registered.erasePool name

/-- The states of an allocator, whatever store it was given and whatever else is done with that store. -/
inductive Reachable : Allocator → Prop
  | made {macs : MacSource} {networks : List Network} {subnets : List Subnet}
      {given : Option Retention} {a : Allocator}
      (created : create macs networks subnets given = .ok a) : Reachable a
  | applied {a : Allocator} (before : Reachable a) (op : Op) : Reachable (a.apply op).2
  | stored {a : Allocator} (before : Reachable a) (retention : Retention) :
      Reachable { a with retention := retention }

theorem reachable_run (before : Reachable a) (ops : List Op) : Reachable (a.run ops) := by
  induction ops generalizing a with
  | nil => exact before
  | cons op rest ih => exact ih (before.applied op)

theorem reachable_of_started (start : Started a) : Reachable a := by
  obtain ⟨macs, networks, subnets, made⟩ := start
  exact .made made

theorem registered_of_reachable (reached : Reachable a) : Registered a.pools := by
  induction reached with
  | @made macs networks subnets given a created =>
      obtain ⟨_, bare, rfl, added, _⟩ := create_eq_ok created
      have step (b : Allocator) (s : Subnet) (b' : Allocator) (registered : Registered b.pools)
          (added : b.addSubnet s = .ok b') : Registered b'.pools := by
        have applied := registered_apply registered (.addSubnet s)
        simpa [apply, Allocator.registered, added] using applied
      exact foldlM_keeps step Registered.nothing added
  | applied before op registered => exact registered_apply registered op
  | stored before retention registered => exact registered

end Reachable
end Allocator

end PodAddressing
