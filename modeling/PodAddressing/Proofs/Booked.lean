import PodAddressing.Proofs.Pool
import PodAddressing.Proofs.Retention
/-!
The books of the pools. The used values of all pools together are the spots that somebody holds, each held once:
marking a value adds a spot, giving it back removes one, and pools come and go only while they are empty.
-/

namespace PodAddressing

namespace Record

def value? (r : Record) : Option Nat := (Address.parse? r.address).map (·.value)

/-- Where a record has its address: the subnet, and the family and the value in it. -/
def spot (r : Record) : String × Option (Family × Nat) :=
  (r.subnet, (Address.parse? r.address).map fun a => (a.family, a.value))

@[simp] theorem unbound_spot (r : Record) : r.unbound.spot = r.spot := rfl

@[simp] theorem boundTo_spot (r : Record) (podUID podName nodeName : String) :
    (r.boundTo podUID podName nodeName).spot = r.spot := rfl

end Record

abbrev Spot := String × Option (Family × Nat)

theorem value?_of_valueOf {pool : Pool} {r : Record} {n : Nat} (value : pool.valueOf r.address = .ok n) :
    r.value? = some n := by
  obtain ⟨found, read, _, rfl⟩ := Pool.valueOf_eq_ok_iff.mp value
  rw [Record.value?, read, Option.map_some]

theorem value?_of_spot {r : Record} {name : String} {family : Family} {n : Nat}
    (same : r.spot = (name, some (family, n))) : r.subnet = name ∧ r.value? = some n := by
  obtain ⟨subnet, inside⟩ := Prod.mk.inj same
  obtain ⟨address, read, value⟩ := Option.map_eq_some_iff.mp inside
  rw [Record.value?, read, Option.map_some, (Prod.mk.inj value).2]
  exact ⟨subnet, rfl⟩

def usedIn (pools : Table String Pool) (name : String) : List Nat :=
  ((pools.get? name).map (·.used)).getD []

/-- The pools are well formed, and their used values are the spots held. -/
structure Booked (pools : Table String Pool) (held : List Spot) : Prop where
  unique : pools.Unique
  valid : ∀ name pool, pools.get? name = some pool → pool.Valid ∧ pool.subnet.name = name
  marked : ∀ name within, (name, within) ∈ held ↔
    ∃ pool n, pools.get? name = some pool ∧ n ∈ pool.used ∧ within = some (pool.family, n)
  single : held.Nodup

namespace Booked
variable {pools : Table String Pool} {held held' : List Spot} {name : String} {pool pool' : Pool}
variable {r : Record} {n : Nat}

theorem perm (booked : Booked pools held) (same : held.Perm held') : Booked pools held' :=
  { booked with
    marked := fun name within => same.mem_iff.symm.trans (booked.marked name within)
    single := same.nodup_iff.mp booked.single }

theorem mem_iff (booked : Booked pools held) (found : pools.get? name = some pool) :
    (name, some (pool.family, n)) ∈ held ↔ n ∈ pool.used := by
  rw [booked.marked]
  constructor
  · rintro ⟨pool', n', found', used, same⟩
    rw [found] at found'
    cases found'
    cases same
    exact used
  · intro used
    exact ⟨pool, n, found, used, rfl⟩

theorem exists_pool (booked : Booked pools held) (member : r.spot ∈ held) :
    ∃ pool n, pools.get? r.subnet = some pool ∧ pool.valueOf r.address = .ok n ∧ n ∈ pool.used := by
  obtain ⟨pool, n, found, used, within⟩ := (booked.marked _ _).mp member
  refine ⟨pool, n, found, ?_, used⟩
  obtain ⟨a, read, same⟩ := Option.map_eq_some_iff.mp within
  obtain ⟨family, value⟩ := Prod.mk.inj same
  exact Pool.valueOf_eq_ok_iff.mpr ⟨a, read, family, value⟩

theorem mem_usedIn {n : Nat} :
    n ∈ usedIn pools name ↔ ∃ pool, pools.get? name = some pool ∧ n ∈ pool.used := by
  rw [usedIn]
  cases found : pools.get? name with
  | none => simp
  | some pool => simp

theorem nodup_usedIn (booked : Booked pools held) (name : String) : (usedIn pools name).Nodup := by
  rw [usedIn]
  cases found : pools.get? name with
  | none => exact List.nodup_nil
  | some pool => exact (booked.valid name pool found).1.used_nodup

theorem usedIn_perm {pools' : Table String Pool} (booked : Booked pools held)
    (booked' : Booked pools' held) (name : String) :
    (usedIn pools name).Perm (usedIn pools' name) := by
  have within {pools pools' : Table String Pool} (booked : Booked pools held)
      (booked' : Booked pools' held) (n : Nat) (member : n ∈ usedIn pools name) :
      n ∈ usedIn pools' name := by
    obtain ⟨pool, found, used⟩ := mem_usedIn.mp member
    obtain ⟨pool', n', found', used', same⟩ :=
      (booked'.marked name _).mp ((booked.mem_iff found).mpr used)
    obtain ⟨_, rfl⟩ := Prod.mk.inj (Option.some.inj same)
    exact mem_usedIn.mpr ⟨pool', found', used'⟩
  exact (List.perm_ext_iff_of_nodup (booked.nodup_usedIn name) (booked'.nodup_usedIn name)).mpr
    fun n => ⟨within booked booked' n, within booked' booked n⟩

theorem spot_of_value (value : pool.valueOf r.address = .ok n) :
    r.spot = (r.subnet, some (pool.family, n)) := by
  obtain ⟨a, read, family, rfl⟩ := Pool.valueOf_eq_ok_iff.mp value
  simp only [Record.spot, read, Option.map_some, family]

/-- In one subnet the value alone says which spot it is, since all values there are of one family. -/
theorem same_spot (booked : Booked pools held) {s : Record} (left : r.spot ∈ held) (right : s.spot ∈ held)
    (subnet : r.subnet = s.subnet) (value : r.value? = s.value?) : r.spot = s.spot := by
  obtain ⟨pool, n, found, read, _⟩ := booked.exists_pool left
  obtain ⟨pool', n', found', read', _⟩ := booked.exists_pool right
  rw [← subnet, found] at found'
  cases found'
  rw [value?_of_valueOf read, value?_of_valueOf read'] at value
  cases value
  rw [spot_of_value read, spot_of_value read', subnet]

section Marking

theorem replace (booked : Booked pools held) (found : pools.get? name = some pool)
    (valid : pool'.Valid) (subnet : pool'.subnet = pool.subnet)
    (others : ∀ name' within, name' ≠ name → ((name', within) ∈ held' ↔ (name', within) ∈ held))
    (own : ∀ within, (name, within) ∈ held' ↔ ∃ n ∈ pool'.used, within = some (pool'.family, n))
    (single : held'.Nodup) : Booked (pools.put name pool') held' where
  unique := Table.unique_put booked.unique name pool'
  single := single
  valid := by
    intro name' other found'
    rw [Table.get?_put] at found'
    by_cases same : name = name'
    · simp only [same, ↓reduceIte, Option.some.injEq] at found'
      subst found' same
      exact ⟨valid, subnet ▸ (booked.valid name pool found).2⟩
    · simp only [same, ↓reduceIte] at found'
      exact booked.valid name' other found'
  marked := by
    intro name' within
    rw [Table.get?_put]
    by_cases same : name = name'
    · subst same
      simp only [own, ↓reduceIte, Option.some.injEq, exists_and_left, exists_eq_left']
    · simp only [others name' within (Ne.symm same), booked.marked, same, ↓reduceIte]

theorem mark (booked : Booked pools held) (found : pools.get? name = some pool)
    (free : pool.isFree n = true) {cursor : Nat}
    (range : pool.first ≤ cursor ∧ cursor ≤ pool.last) :
    Booked (pools.put name { pool with used := n :: pool.used, cursor := cursor })
      ((name, some (pool.family, n)) :: held) := by
  have unheld : (name, some (pool.family, n)) ∉ held := by
    rw [booked.mem_iff found]
    exact (Pool.isFree_iff.mp free).2
  apply booked.replace found (Pool.valid_mark (booked.valid name pool found).1 free range) rfl
  · intro name' within other
    simp [other]
  · intro within
    simp only [List.mem_cons, Prod.mk.injEq, true_and, exists_eq_or_imp, booked.marked]
    apply or_congr Iff.rfl
    constructor
    · rintro ⟨pool', m, found', used, same⟩
      rw [found] at found'
      cases found'
      exact ⟨m, used, same⟩
    · rintro ⟨m, used, same⟩
      exact ⟨pool, m, found, used, same⟩
  · exact List.nodup_cons.mpr ⟨unheld, booked.single⟩

theorem unmark (booked : Booked pools ((name, some (pool.family, n)) :: held))
    (found : pools.get? name = some pool) :
    Booked (pools.put name { pool with used := pool.used.erase n }) held := by
  obtain ⟨valid, _⟩ := booked.valid name pool found
  obtain ⟨gone, single⟩ := List.nodup_cons.mp booked.single
  apply booked.replace found (Pool.valid_unmark valid n) rfl
  · intro name' within other
    simp [other]
  · intro within
    constructor
    · intro member
      obtain ⟨pool', m, found', used, rfl⟩ :=
        (booked.marked name within).mp (List.mem_cons_of_mem _ member)
      rw [found] at found'
      cases found'
      -- The value that is given back was held once, so it is not the one that is still held.
      have other : m ≠ n := by
        rintro rfl
        exact gone member
      exact ⟨m, (List.mem_erase_of_ne other).mpr used, rfl⟩
    · rintro ⟨m, left, rfl⟩
      obtain ⟨other, used⟩ := valid.used_nodup.mem_erase_iff.mp left
      rcases List.mem_cons.mp ((booked.mem_iff found).mpr used) with same | member
      · cases same
        exact absurd rfl other
      · exact member
  · exact single

theorem release (booked : Booked pools (r.spot :: held)) :
    ∃ pool pool', pools.get? r.subnet = some pool ∧ pool.release r.address = .ok (true, pool') ∧
      pool'.subnet.name = r.subnet ∧ Booked (pools.put r.subnet pool') held := by
  obtain ⟨pool, n, found, value, used⟩ := booked.exists_pool List.mem_cons_self
  have answer := Pool.release_of_value value
  rw [List.contains_iff_mem.mpr used] at answer
  refine ⟨pool, _, found, answer, (booked.valid _ _ found).2, ?_⟩
  rw [spot_of_value value] at booked
  exact booked.unmark found

theorem reserve (booked : Booked pools held) (found : pools.get? r.subnet = some pool)
    (given : pool.reserve r.address = .ok (true, pool')) :
    Booked (pools.put r.subnet pool') (r.spot :: held) := by
  obtain ⟨n, value, free, rfl⟩ := Pool.reserve_eq_ok given
  rw [spot_of_value value]
  exact booked.mark found free (booked.valid _ _ found).1.cursor_range

theorem acquire (booked : Booked pools held) {address : Address}
    (found : pools.get? name = some pool) (given : pool.acquire = .ok (address, pool')) :
    pool'.subnet.name = name ∧
      ∃ a, Address.parse? address.text = some a ∧
        Booked (pools.put name pool') ((name, some (a.family, a.value)) :: held) := by
  obtain ⟨valid, named⟩ := booked.valid name pool found
  obtain ⟨n, free, rfl, rfl⟩ := Pool.acquire_eq_ok valid given
  obtain ⟨usable, _⟩ := Pool.isFree_iff.mp free
  obtain ⟨a, read, family, rfl⟩ := Pool.valueOf_eq_ok_iff.mp (Pool.valueOf_text valid usable)
  obtain ⟨low, high, _⟩ := Pool.isUsable_iff.mp usable
  refine ⟨named, a, read, ?_⟩
  rw [family]
  exact booked.mark found free (Pool.after_range ⟨low, high⟩)

end Marking

section Registering

theorem nothing : Booked [] [] where
  unique := List.nodup_nil
  valid := by simp
  marked := by simp
  single := List.nodup_nil

theorem clear (booked : Booked pools held) :
    Booked (pools.map fun (name, pool) => (name, pool.clear)) [] where
  unique := Table.unique_map booked.unique _
  single := List.nodup_nil
  valid := by
    intro name pool found
    rw [Table.get?_map] at found
    obtain ⟨before, present, rfl⟩ := Option.map_eq_some_iff.mp found
    obtain ⟨valid, named⟩ := booked.valid name before present
    exact ⟨Pool.valid_clear valid, named⟩
  marked := by
    intro name within
    simp only [List.not_mem_nil, Table.get?_map, false_iff]
    rintro ⟨pool, n, found, used, _⟩
    obtain ⟨before, _, rfl⟩ := Option.map_eq_some_iff.mp found
    exact absurd used List.not_mem_nil

theorem addPool (booked : Booked pools held) (absent : pools.get? name = none)
    (valid : pool.Valid) (named : pool.subnet.name = name) (empty : pool.used = []) :
    Booked (pools.put name pool) held where
  unique := Table.unique_put booked.unique name pool
  single := booked.single
  valid := by
    intro name' other found
    rw [Table.get?_put] at found
    by_cases same : name = name'
    · simp only [same, ↓reduceIte, Option.some.injEq] at found
      subst found same
      exact ⟨valid, named⟩
    · simp only [same, ↓reduceIte] at found
      exact booked.valid name' other found
  marked := by
    intro name' within
    rw [booked.marked, Table.get?_put]
    by_cases same : name = name'
    · subst same
      simp [absent, empty]
    · simp only [same, ↓reduceIte]

theorem erasePool (booked : Booked pools held) (found : pools.get? name = some pool)
    (empty : pool.used = []) : Booked (pools.erase name) held where
  unique := Table.unique_erase booked.unique name
  single := booked.single
  valid := by
    intro name' other found'
    rw [Table.get?_erase] at found'
    by_cases same : name = name'
    · simp [same] at found'
    · simp only [same, ↓reduceIte] at found'
      exact booked.valid name' other found'
  marked := by
    intro name' within
    rw [booked.marked, Table.get?_erase]
    by_cases same : name = name'
    · subst same
      simp [found, empty]
    · simp only [same, ↓reduceIte]

end Registering
end Booked

end PodAddressing
