import PodAddressing.Proofs.Allocator.Ordinals
import PodAddressing.Proofs.Booked
/-!
Keeping the books. Records that are freed give back what they hold, records that are given hold something new,
and an allocation that gives up half way has given back what it took. A rebuild ends with the books of just the
records that it has taken over.
-/

namespace PodAddressing

namespace Allocator
variable {a a' : Allocator} {held : List Spot}

section Freeing

theorem booked_free {r : Record} (booked : Booked a.pools (r.spot :: held)) :
    ∃ a', a.free r = .ok a' ∧ Booked a'.pools held := by
  obtain ⟨pool, pool', found, answer, named, rest⟩ := booked.release
  refine ⟨a.setPool pool', ?_, ?_⟩
  · rw [free, found]
    simp only [answer]
    rfl
  · rw [← named] at rest
    exact rest

/-- Records that hold their spots can all be freed. -/
theorem booked_freeAll {records : List Record}
    (booked : Booked a.pools (records.map Record.spot ++ held)) :
    ∃ a', a.freeAll records = (.ok (), a') ∧ Booked a'.pools held := by
  induction records generalizing a with
  | nil => exact ⟨a, rfl, booked⟩
  | cons r rest ih =>
      obtain ⟨next, freed, booked'⟩ := booked_free booked
      obtain ⟨a', freed', done⟩ := ih booked'
      exact ⟨a', by rw [freeAll, freed]; exact freed', done⟩

theorem booked_freeAll_snd {records : List Record}
    (booked : Booked a.pools (records.map Record.spot ++ held)) :
    Booked (a.freeAll records).2.pools held := by
  obtain ⟨a', freed, done⟩ := booked_freeAll booked
  rw [freed]
  exact done

theorem pool_freeAll {records : List Record} {name : String} {pool : Pool}
    (booked : Booked a.pools (records.map Record.spot ++ held))
    (found : a.pools.get? name = some pool) :
    ∃ used, (a.freeAll records).2.pools.get? name = some { pool with used := used } := by
  induction records generalizing a pool with
  | nil => exact ⟨pool.used, found⟩
  | cons r rest ih =>
      obtain ⟨own, own', registered, answer, named, _⟩ := Booked.release (r := r) booked
      obtain ⟨next, freed, booked'⟩ := booked_free (r := r) booked
      obtain ⟨used, rfl⟩ := Pool.release_eq_ok answer
      have same : next.pools = a.pools.put r.subnet { own with used := used } := by
        rw [free, registered] at freed
        simp only [answer] at freed
        cases freed
        rw [← named]
        rfl
      rw [freeAll, freed]
      by_cases here : r.subnet = name
      · subst here
        rw [registered] at found
        cases found
        have left : next.pools.get? r.subnet = some { pool with used := used } := by
          rw [same, Table.get?_put_self]
        obtain ⟨used', after⟩ := ih booked' left
        exact ⟨used', after⟩
      · exact ih booked' (by rw [same, Table.get?_put_ne here, found])

theorem freeAll_unmarks {records : List Record} {r : Record}
    (booked : Booked a.pools (records.map Record.spot ++ held)) (member : r ∈ records) :
    ∃ pool, (r.subnet, pool) ∈ (a.freeAll records).2.pools ∧ pool.isUsed r.address = .ok false := by
  have listed := List.mem_map_of_mem (f := Record.spot) member
  obtain ⟨pool, n, found, value, _⟩ := booked.exists_pool (List.mem_append_left _ listed)
  obtain ⟨used, left⟩ := pool_freeAll booked found
  refine ⟨_, Table.mem_of_get? left, ?_⟩
  have unheld : r.spot ∉ held := fun held => (List.nodup_append.mp booked.single).2.2 _ listed _ held rfl
  rw [Booked.spot_of_value value] at unheld
  have unused : n ∉ used := fun marked =>
    unheld (((booked_freeAll_snd booked).mem_iff left).mpr marked)
  have value' : ({ pool with used := used } : Pool).valueOf r.address = .ok n := value
  rw [Pool.isUsed_of_value value']
  exact congrArg Except.ok (by simpa using unused)

end Freeing

theorem booked_addSubnet {s : Subnet} (booked : Booked a.pools held) (added : a.addSubnet s = .ok a') :
    Booked a'.pools held := by
  obtain ⟨pool, made, absent, rfl⟩ := addSubnet_eq_ok added
  obtain ⟨valid, named, empty, _⟩ := Pool.ofSubnet_valid made
  exact booked.addPool absent valid (congrArg Subnet.name named) empty

section Giving
variable {w : Identity} {index : Option Int} {mac : String} {networkType : NetworkType}
variable {eligible : Option (List String)} {family : Family}

theorem acquireFrom?_eq_some {pools : List Pool} {given : Address × Pool}
    (found : acquireFrom? pools = some given) : ∃ pool ∈ pools, pool.acquire = .ok given := by
  induction pools with
  | nil => cases found
  | cons pool rest ih =>
      unfold acquireFrom? at found
      split at found
      case h_1 answer =>
        cases found
        exact ⟨pool, List.mem_cons_self, answer⟩
      case h_2 =>
        obtain ⟨other, member, answer⟩ := ih found
        exact ⟨other, List.mem_cons_of_mem _ member, answer⟩

theorem acquire_eq_ok {address : Address} {pool' : Pool}
    (given : a.acquire networkType family eligible = .ok (address, pool')) :
    ∃ name pool, (name, pool) ∈ a.pools ∧ pool.acquire = .ok (address, pool') := by
  unfold acquire at given
  dsimp only at given
  split at given
  case isTrue => cases given
  case isFalse =>
    split at given
    case h_1 found =>
      cases given
      obtain ⟨pool, member, answer⟩ := acquireFrom?_eq_some found
      unfold eligiblePools at member
      rw [List.mem_mergeSort] at member
      obtain ⟨⟨name, pool⟩, listed, rfl⟩ := List.mem_map.mp member
      exact ⟨name, pool, (List.mem_filter.mp listed).1, answer⟩
    case h_2 => cases given

theorem booked_acquire {address : Address} {pool' : Pool} (booked : Booked a.pools held)
    (w : Identity) (index : Option Int) (mac : String)
    (given : a.acquire networkType family eligible = .ok (address, pool')) :
    Booked (a.setPool pool').pools
      ((freshRecord w index mac family address pool'.subnet).spot :: held) := by
  obtain ⟨name, pool, listed, answer⟩ := acquire_eq_ok given
  obtain ⟨rfl, a', read, marked⟩ := booked.acquire (Table.get?_of_mem booked.unique listed) answer
  have text : (freshRecord w index mac family address pool'.subnet).address = address.text := rfl
  simp only [Record.spot, text, read, Option.map_some]
  exact marked

def recordsIn (answer : Except Fault (List Record)) : List Record := answer.toOption.getD []

theorem booked_acquireAll (taken : List Record) (families : List Family)
    (booked : Booked a.pools (taken.map Record.spot ++ held)) :
    let outcome := a.acquireAll w index mac networkType eligible taken families
    Booked outcome.2.pools ((recordsIn outcome.1).map Record.spot ++ held) := by
  induction families generalizing a taken with
  | nil => exact booked
  | cons family rest ih =>
      unfold acquireAll
      cases given : a.acquire networkType family eligible with
      | error fault => exact booked_freeAll_snd booked
      | ok found =>
          obtain ⟨address, pool⟩ := found
          -- What is taken so far stays in front of what others hold.
          have marked := booked_acquire booked w index mac given
          apply ih
          apply marked.perm
          rw [List.map_append, List.append_assoc, List.map_singleton, List.singleton_append]
          exact List.perm_middle.symm

theorem booked_allocateFresh (booked : Booked a.pools held) (w : Identity) (index : Option Int)
    (c : Criteria) (eligible : Option (List String)) :
    let outcome := a.allocateFresh w index c eligible
    Booked outcome.2.pools ((recordsIn outcome.1).map Record.spot ++ held) :=
  booked_acquireAll (a := { a with macs := a.macs.draw.2 }) [] c.orderedFamilies booked

end Giving
end Allocator

namespace Rebuilding
variable {s s' : Rebuilding} {r : Record} {held : List Spot}

theorem booked_drop (booked : Booked s.pools (r.spot :: held)) : Booked (s.drop r).pools held := by
  obtain ⟨pool, pool', found, answer, _, rest⟩ := booked.release
  have dropped : s.drop r = (s.setPool r pool').skip r := by
    simp only [drop, found, answer]
  rw [dropped]
  exact rest

theorem booked_drops {records : List Record}
    (booked : Booked s.pools (records.map Record.spot ++ held)) :
    Booked (records.foldl drop s).pools held := by
  induction records generalizing s with
  | nil => exact booked
  | cons r rest ih => exact ih (booked_drop booked)

theorem booked_reserve? (booked : Booked s.pools held) (reserved : s.reserve? r = some s') :
    Booked s'.pools (r.spot :: held) := by
  unfold reserve? at reserved
  split at reserved
  case h_1 => cases reserved
  case h_2 pool found =>
    split at reserved
    case h_1 pool' answer =>
      cases reserved
      exact booked.reserve found answer
    case h_2 => cases reserved

def filed (s : Rebuilding) : List Record := s.active.values.flatten ++ s.retained.values.flatten

/-- What has been taken over is what the pools account for. -/
def Balanced (s : Rebuilding) : Prop := Booked s.pools (s.filed.map Record.spot)

theorem filed_of_filed (same : SameFiled s s') : s'.filed = s.filed := by
  rw [filed, filed, same.1, same.2.2]

theorem filed_addActive (valid : s.Agrees) (r : Record) : (s.addActive r).filed.Perm (r :: s.filed) :=
  (Table.members_gather valid.active_unique _ r).append_right _

theorem file_cases (valid : s.Agrees) (r : Record) :
    ((s.file r).pools = s.pools ∧ (s.file r).filed.Perm (r :: s.filed)) ∨ s.file r = s.drop r := by
  unfold file
  by_cases unnamed : r.binding.podUID = ""
  · rw [if_pos unnamed]
    split
    case h_1 key free known =>
      have joined := (Table.members_gather valid.groups_unique key r).append_left
        s.active.values.flatten
      exact .inl ⟨rfl, joined.trans List.perm_middle⟩
    case h_2 => exact .inr rfl
  · rw [if_neg unnamed]
    split
    case h_1 => exact .inl ⟨rfl, filed_addActive valid r⟩
    case h_2 key known =>
      split
      case h_1 => exact .inl ⟨rfl, filed_addActive valid r⟩
      case h_2 holder held =>
        split
        case isTrue => exact .inl ⟨rfl, filed_addActive valid r⟩
        case isFalse => exact .inr rfl

theorem balanced_file (valid : s.Agrees) (booked : Booked s.pools (r.spot :: s.filed.map Record.spot)) :
    (s.file r).Balanced := by
  unfold Balanced
  rcases file_cases valid r with ⟨pools, more⟩ | dropped
  · rw [pools]
    exact booked.perm (more.map Record.spot).symm
  · rw [dropped, filed_of_filed (drop_filed s r)]
    exact booked_drop booked

theorem balanced_adopt (valid : s.Agrees) (balanced : s.Balanced) (r : Record) :
    (s.adopt r).Balanced := by
  unfold adopt
  split
  case h_1 next reserved =>
    have same := reserve?_filed reserved
    apply balanced_file (agrees_of_filed valid same)
    rw [filed_of_filed same]
    exact booked_reserve? balanced reserved
  case h_2 => exact balanced

theorem balanced_adopts (valid : s.Agrees) (balanced : s.Balanced) (records : List Record) :
    (records.foldl adopt s).Balanced := by
  induction records generalizing s with
  | nil => exact balanced
  | cons r rest ih => exact ih (agrees_adopt valid r) (balanced_adopt valid balanced r)

theorem settle_parts (s : Rebuilding) : s.filed.Perm (s.lost.values.flatten ++ s.settle.filed) := by
  have halves := Table.members_filter s.retained fun entry => s.holders.has entry.1
  have same := settle_filed s
  rw [filed, filed, same.1, same.2.2]
  exact (halves.append_left _).trans (List.perm_append_comm_assoc _ _ _)

theorem balanced_settle (balanced : s.Balanced) : s.settle.Balanced := by
  have whole := balanced.perm ((settle_parts s).map Record.spot)
  rw [List.map_append] at whole
  unfold Balanced
  rw [settle_eq] at whole ⊢
  exact booked_drops (s := { s with retained := s.kept }) whole

theorem mem_adopts (valid : s.Agrees) {records : List Record} {x : Record}
    (member : x ∈ (records.foldl adopt s).filed) : x ∈ s.filed ∨ x ∈ records := by
  induction records generalizing s with
  | nil => exact .inl member
  | cons r rest ih =>
      rcases ih (agrees_adopt valid r) member with before | later
      · have origin : x = r ∨ x ∈ s.filed := by
          unfold adopt at before
          split at before
          case h_1 next reserved =>
            have same := reserve?_filed reserved
            rcases file_cases (agrees_of_filed valid same) r with ⟨_, more⟩ | dropped
            · have listed := more.mem_iff.mp before
              rwa [filed_of_filed same, List.mem_cons] at listed
            · rw [dropped, filed_of_filed (drop_filed next r), filed_of_filed same] at before
              exact .inr before
          case h_2 => exact .inr before
        rcases origin with rfl | known
        · exact .inr List.mem_cons_self
        · exact .inl known
      · exact .inr (List.mem_cons_of_mem r later)

end Rebuilding

namespace Allocator
variable {a : Allocator} {held : List Spot}

/-- After a rebuild the books and the records agree, whatever was in the books before. -/
theorem booked_rebuild (booked : Booked a.pools held) (records : List Record) :
    let after := (a.rebuild records).2
    Booked after.pools (after.records.map Record.spot) := by
  have adopted := Rebuilding.balanced_adopts (s := .ofPools a.pools) Indexed.nothing booked.clear
    records
  exact Rebuilding.balanced_settle adopted

theorem mem_rebuild {records : List Record} {r : Record}
    (member : r ∈ (a.rebuild records).2.records) : r ∈ records := by
  have parted := Rebuilding.settle_parts (records.foldl Rebuilding.adopt (.ofPools a.pools))
  have adopted := parted.mem_iff.mpr (List.mem_append_right _ member)
  rcases Rebuilding.mem_adopts (s := .ofPools a.pools) Indexed.nothing adopted with nothing | listed
  · exact absurd nothing List.not_mem_nil
  · exact listed

end Allocator

end PodAddressing
