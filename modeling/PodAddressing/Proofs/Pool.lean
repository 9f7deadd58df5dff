import Mathlib.Data.List.Nodup
import Mathlib.Data.List.Perm.Subperm
import Mathlib.Data.Nat.ModEq
import PodAddressing.Pool
import PodAddressing.Proofs.Address.Text
import PodAddressing.Proofs.Basic
/-!
Pools. Every pool that is made is well formed and stays so; then the search for a free value ends on one, and
the text that is handed out leads back to the value that was marked.
-/

namespace PodAddressing.Pool
variable {p p' : Pool}

structure Valid (p : Pool) : Prop where
  cursor_range : p.first ≤ p.cursor ∧ p.cursor ≤ p.last
  bounded : p.last < 2 ^ p.family.width
  blocked_nodup : p.blocked.Nodup
  blocked_range : ∀ n ∈ p.blocked, p.first ≤ n ∧ n ≤ p.last
  used_nodup : p.used.Nodup
  used_usable : ∀ n ∈ p.used, p.isUsable n = true

theorem isUsable_iff {n : Nat} :
    p.isUsable n = true ↔ p.first ≤ n ∧ n ≤ p.last ∧ n ∉ p.blocked := by
  simp [isUsable, and_assoc]

theorem isFree_iff {n : Nat} : p.isFree n = true ↔ p.isUsable n = true ∧ n ∉ p.used := by
  simp [isFree]

theorem range_of_free {n : Nat} (free : p.isFree n = true) : p.first ≤ n ∧ n ≤ p.last :=
  have usable := isUsable_iff.mp (isFree_iff.mp free).1
  ⟨usable.1, usable.2.1⟩

section Making

theorem ofSubnet_valid {s : Subnet} (made : ofSubnet s = .ok p) :
    p.Valid ∧ p.subnet = s ∧ p.used = [] ∧ s.family = .ok p.family := by
  unfold ofSubnet at made
  obtain ⟨block, read, made⟩ := ok_of_bind made
  obtain ⟨gateway, _, made⟩ := ok_of_bind made
  obtain ⟨excluded, _, made⟩ := ok_of_bind made
  obtain ⟨start, _, made⟩ := ok_of_bind made
  obtain ⟨stop, _, made⟩ := ok_of_bind made
  by_cases empty : min block.last stop < max block.first start
  · rw [if_pos empty] at made
    cases made
  · rw [if_neg empty] at made
    cases made
    have ends := Block.last_lt_of_ofText read
    refine ⟨⟨by simp only; omega, ?_, ?_, ?_, List.nodup_nil, by simp⟩, rfl, rfl, ?_⟩
    · exact Nat.lt_of_le_of_lt (Nat.min_le_left _ _) ends
    · exact nodup_eraseDups _
    · intro n member
      have listed := List.mem_eraseDups.mp member
      simpa using (List.mem_filter.mp listed).2
    · rw [Subnet.family, read]
      rfl

end Making

section Seeking

theorem after_range {n : Nat} (range : p.first ≤ n ∧ n ≤ p.last) :
    p.first ≤ p.after n ∧ p.after n ≤ p.last := by
  unfold after
  split <;> omega

theorem after_iterate {n : Nat} (range : p.first ≤ n ∧ n ≤ p.last) (steps : Nat) :
    p.after^[steps] n = p.first + (n - p.first + steps) % (p.last + 1 - p.first) := by
  induction steps generalizing n with
  | zero =>
      have small : n - p.first < p.last + 1 - p.first := by omega
      simp only [Function.iterate_zero, id_eq, Nat.add_zero, Nat.mod_eq_of_lt small]
      omega
  | succ steps ih =>
      rw [Function.iterate_succ_apply, ih (after_range range)]
      unfold after
      by_cases inside : n < p.last
      · rw [if_pos inside]
        have shifted : n + 1 - p.first + steps = n - p.first + (steps + 1) := by omega
        rw [shifted]
      · rw [if_neg inside]
        have round : n - p.first + (steps + 1) = p.last + 1 - p.first + steps := by omega
        rw [round, Nat.add_mod_left, Nat.sub_self, Nat.zero_add]

/-- As long as the range is not gone round, no value is met twice. -/
theorem after_iterate_inj {n i j : Nat} (range : p.first ≤ n ∧ n ≤ p.last)
    (left : i < p.last + 1 - p.first) (right : j < p.last + 1 - p.first)
    (same : p.after^[i] n = p.after^[j] n) : i = j := by
  rw [after_iterate range, after_iterate range] at same
  have congruent : i ≡ j [MOD p.last + 1 - p.first] :=
    Nat.ModEq.add_left_cancel' (n - p.first) (Nat.add_left_cancel same)
  exact congruent.eq_of_lt_of_lt left right

def met (p : Pool) (n steps : Nat) : List Nat := (List.range steps).map fun j => p.after^[j] n

theorem nodup_met {n steps : Nat} (range : p.first ≤ n ∧ n ≤ p.last)
    (short : steps ≤ p.last + 1 - p.first) : (p.met n steps).Nodup := by
  apply List.Nodup.map_on _ List.nodup_range
  intro i left j right same
  have left := List.mem_range.mp left
  have right := List.mem_range.mp right
  exact after_iterate_inj range (by omega) (by omega) same

theorem after_iterate_range {n : Nat} (range : p.first ≤ n ∧ n ≤ p.last) (steps : Nat) :
    p.first ≤ p.after^[steps] n ∧ p.after^[steps] n ≤ p.last := by
  rw [after_iterate range]
  have inside := Nat.mod_lt (n - p.first + steps) (show 0 < p.last + 1 - p.first by omega)
  omega

theorem met_range {n steps m : Nat} (range : p.first ≤ n ∧ n ≤ p.last) (member : m ∈ p.met n steps) :
    p.first ≤ m ∧ m ≤ p.last := by
  obtain ⟨j, _, rfl⟩ := List.mem_map.mp member
  exact after_iterate_range range j

/-- The search ends on the first free value that it meets. -/
theorem seek_eq_iterate {n steps : Nat} (near : ∃ j ≤ steps, p.isFree (p.after^[j] n) = true) :
    ∃ j, p.seek steps n = p.after^[j] n ∧ p.isFree (p.after^[j] n) = true ∧
      ∀ i < j, p.isFree (p.after^[i] n) = false := by
  induction steps generalizing n with
  | zero =>
      obtain ⟨j, few, free⟩ := near
      obtain rfl : j = 0 := by omega
      exact ⟨0, rfl, free, by simp⟩
  | succ steps ih =>
      by_cases here : p.isFree n = true
      · exact ⟨0, by rw [seek, if_pos here]; rfl, here, by simp⟩
      · have later : ∃ j ≤ steps, p.isFree (p.after^[j] (p.after n)) = true := by
          obtain ⟨j, few, free⟩ := near
          cases j with
          | zero => exact absurd free here
          | succ j => exact ⟨j, by omega, free⟩
        obtain ⟨j, found, free, passed⟩ := ih later
        refine ⟨j + 1, by rw [seek, if_neg here, found]; rfl, free, fun i before => ?_⟩
        cases i with
        | zero => simpa using here
        | succ i => exact passed i (by omega)

def distance (p : Pool) (n m : Nat) : Nat :=
  if n ≤ m then m - n else p.last + 1 - p.first + m - n

theorem distance_lt {n m : Nat} (range : p.first ≤ n ∧ n ≤ p.last) (range' : p.first ≤ m ∧ m ≤ p.last) :
    p.distance n m < p.last + 1 - p.first := by
  unfold distance
  split <;> omega

theorem after_iterate_distance {n m : Nat} (range : p.first ≤ n ∧ n ≤ p.last)
    (range' : p.first ≤ m ∧ m ≤ p.last) : p.after^[p.distance n m] n = m := by
  rw [after_iterate range, distance]
  by_cases ahead : n ≤ m
  · have short : n - p.first + (m - n) < p.last + 1 - p.first := by omega
    rw [if_pos ahead, Nat.mod_eq_of_lt short]
    omega
  · have round : n - p.first + (p.last + 1 - p.first + m - n) = m - p.first + (p.last + 1 - p.first) := by omega
    have short : m - p.first < p.last + 1 - p.first := by omega
    rw [if_neg ahead, round, Nat.add_mod_right, Nat.mod_eq_of_lt short]
    omega

theorem distance_iterate {n steps : Nat} (range : p.first ≤ n ∧ n ≤ p.last)
    (short : steps < p.last + 1 - p.first) : p.distance n (p.after^[steps] n) = steps := by
  have inside := after_iterate_range range steps
  exact after_iterate_inj range (distance_lt range inside) short (after_iterate_distance range inside)

/-- A value is free, and no free value is nearer to where the pool looks next. -/
structure Next (p : Pool) (n : Nat) : Prop where
  free : p.isFree n = true
  nearest : ∀ m, p.isFree m = true → p.distance p.cursor n ≤ p.distance p.cursor m

/-- A pool that is not full has a free value within as many steps as values are taken. -/
theorem exists_free (valid : p.Valid) (room : p.hasFree = true) :
    ∃ j ≤ p.blocked.length + p.used.length, p.isFree (p.after^[j] p.cursor) = true := by
  by_contra none_free
  push Not at none_free
  have size : p.blocked.length + p.used.length < p.last + 1 - p.first := by
    have fewer : p.used.length < p.capacity := of_decide_eq_true room
    unfold capacity at fewer
    omega
  -- One step more than values are taken: were none of the values met free, two of them would be the same.
  have distinct := nodup_met valid.cursor_range size
  have taken : p.met p.cursor (p.blocked.length + p.used.length + 1) ⊆ p.blocked ++ p.used := by
    intro n member
    have within := met_range valid.cursor_range member
    obtain ⟨j, few, rfl⟩ := List.mem_map.mp member
    have busy := none_free j (Nat.le_of_lt_succ (List.mem_range.mp few))
    rw [ne_eq, isFree_iff, isUsable_iff] at busy
    rw [List.mem_append]
    tauto
  have counted := (List.subperm_of_subset distinct taken).length_le
  simp only [met, List.length_map, List.length_range, List.length_append] at counted
  omega

theorem hasFree_of_free (valid : p.Valid) {n : Nat} (free : p.isFree n = true) : p.hasFree = true := by
  obtain ⟨usable, unused⟩ := isFree_iff.mp free
  obtain ⟨low, high, unblocked⟩ := isUsable_iff.mp usable
  have inside (m : Nat) (used : m ∈ p.used) := isUsable_iff.mp (valid.used_usable m used)
  have distinct : (n :: (p.used ++ p.blocked)).Nodup := by
    refine List.nodup_cons.mpr ⟨by simp [unused, unblocked], List.nodup_append.mpr ⟨valid.used_nodup,
      valid.blocked_nodup, ?_⟩⟩
    rintro m used k blocked rfl
    exact (inside m used).2.2 blocked
  have ranged : n :: (p.used ++ p.blocked) ⊆ List.range' p.first (p.last + 1 - p.first) := by
    refine List.cons_subset.mpr ⟨List.mem_range'_1.mpr (by omega), List.append_subset.mpr ⟨?_, ?_⟩⟩
    · intro m used
      obtain ⟨first, last, _⟩ := inside m used
      exact List.mem_range'_1.mpr (by omega)
    · intro m blocked
      obtain ⟨first, last⟩ := valid.blocked_range m blocked
      exact List.mem_range'_1.mpr (by omega)
  have counted := (List.subperm_of_subset distinct ranged).length_le
  simp only [List.length_cons, List.length_append, List.length_range'] at counted
  rw [hasFree, decide_eq_true_eq, capacity]
  omega

end Seeking

section Changing

theorem next_of_acquire {found : Address} (valid : p.Valid) (given : p.acquire = .ok (found, p')) :
    ∃ n, p.Next n ∧ found = ⟨p.family, n, none⟩ ∧
      p' = { p with used := n :: p.used, cursor := p.after n } := by
  unfold acquire at given
  by_cases room : p.hasFree = true
  · rw [if_pos room] at given
    cases given
    obtain ⟨j, stop, free, passed⟩ := seek_eq_iterate (exists_free valid room)
    refine ⟨_, ⟨stop ▸ free, fun m free' => ?_⟩, rfl, rfl⟩
    -- What lies nearer than the place where the search ends was passed over.
    have reached (k : Nat) (free : p.isFree k = true) : j ≤ p.distance p.cursor k := by
      by_contra nearer
      have skipped := passed _ (Nat.lt_of_not_le nearer)
      rw [after_iterate_distance valid.cursor_range (range_of_free free), free] at skipped
      cases skipped
    have short : j < p.last + 1 - p.first :=
      Nat.lt_of_le_of_lt (reached m free') (distance_lt valid.cursor_range (range_of_free free'))
    rw [stop, distance_iterate valid.cursor_range short]
    exact reached m free'
  · rw [if_neg room] at given
    cases given

theorem Next.ends {n : Nat} (valid : p.Valid) (next : p.Next n) :
    ∃ steps, p.after^[steps] p.cursor = n ∧ ∀ i < steps, p.isFree (p.after^[i] p.cursor) = false := by
  have range := valid.cursor_range
  have inside := range_of_free next.free
  refine ⟨p.distance p.cursor n, after_iterate_distance range inside, fun i before => ?_⟩
  by_contra free
  have nearest := next.nearest _ (Bool.eq_true_of_not_eq_false free)
  rw [distance_iterate range (Nat.lt_trans before (distance_lt range inside))] at nearest
  omega

theorem acquire_eq_ok {found : Address} (valid : p.Valid) (given : p.acquire = .ok (found, p')) :
    ∃ n, p.isFree n = true ∧ found = ⟨p.family, n, none⟩ ∧
      p' = { p with used := n :: p.used, cursor := p.after n } := by
  obtain ⟨n, next, same, after⟩ := next_of_acquire valid given
  exact ⟨n, next.free, same, after⟩

theorem valid_mark (valid : p.Valid) {n : Nat} (free : p.isFree n = true) {cursor : Nat}
    (range : p.first ≤ cursor ∧ cursor ≤ p.last) :
    ({ p with used := n :: p.used, cursor := cursor } : Pool).Valid := by
  obtain ⟨usable, unused⟩ := isFree_iff.mp free
  exact {
    cursor_range := range
    bounded := valid.bounded
    blocked_nodup := valid.blocked_nodup
    blocked_range := valid.blocked_range
    used_nodup := List.nodup_cons.mpr ⟨unused, valid.used_nodup⟩
    used_usable := List.forall_mem_cons.mpr ⟨usable, valid.used_usable⟩ }

theorem valid_unmark (valid : p.Valid) (n : Nat) :
    ({ p with used := p.used.erase n } : Pool).Valid :=
  { valid with
    used_nodup := valid.used_nodup.erase n
    used_usable := fun m member => valid.used_usable m (List.mem_of_mem_erase member) }

theorem valid_clear (valid : p.Valid) : p.clear.Valid :=
  { valid with
    cursor_range := ⟨Nat.le_refl _, Nat.le_trans valid.cursor_range.1 valid.cursor_range.2⟩
    used_nodup := List.nodup_nil
    used_usable := by simp [clear] }

theorem valueOf_eq_ok_iff {address : String} {n : Nat} :
    p.valueOf address = .ok n ↔
      ∃ a, Address.parse? address = some a ∧ a.family = p.family ∧ a.value = n := by
  unfold valueOf valueIn Address.ofText
  cases read : Address.parse? address with
  | none => simp [bind, Except.bind]
  | some a =>
      by_cases family : a.family = p.family
      · simp [bind, Except.bind, family, pure, Except.pure]
      · simp [bind, Except.bind, family, throw, throwThe, MonadExceptOf.throw]

theorem valueOf_text (valid : p.Valid) {n : Nat} (usable : p.isUsable n = true) :
    p.valueOf (Address.text ⟨p.family, n, none⟩) = .ok n := by
  have below : n < 2 ^ p.family.width :=
    Nat.lt_of_le_of_lt (isUsable_iff.mp usable).2.1 valid.bounded
  exact valueOf_eq_ok_iff.mpr ⟨_, Address.parse?_text p.family below, rfl, rfl⟩

theorem contains_of_value {address : String} {n : Nat} (value : p.valueOf address = .ok n) :
    p.contains address = p.isUsable n := by
  rw [contains, value]

theorem isUsed_of_value {address : String} {n : Nat} (value : p.valueOf address = .ok n) :
    p.isUsed address = .ok (p.used.contains n) := by
  rw [isUsed, value]
  rfl

theorem release_of_value {address : String} {n : Nat} (value : p.valueOf address = .ok n) :
    p.release address = .ok (p.used.contains n, { p with used := p.used.erase n }) := by
  rw [release, value]
  change (if p.used.contains n then _ else _) = _
  by_cases used : n ∈ p.used
  · rw [if_pos (by simpa using used)]
    simp [used, pure, Except.pure]
  · rw [if_neg (by simpa using used), List.erase_of_not_mem used]
    simp [used, pure, Except.pure]

theorem release_eq_ok {address : String} {was_used : Bool}
    (given : p.release address = .ok (was_used, p')) : ∃ used, p' = { p with used := used } := by
  unfold release at given
  obtain ⟨n, _, given⟩ := ok_of_bind given
  split at given
  case isTrue =>
    cases given
    exact ⟨_, rfl⟩
  case isFalse =>
    cases given
    exact ⟨p.used, rfl⟩

theorem reserve_eq_ok {address : String} (given : p.reserve address = .ok (true, p')) :
    ∃ n, p.valueOf address = .ok n ∧ p.isFree n = true ∧
      p' = { p with used := n :: p.used } := by
  unfold reserve at given
  obtain ⟨n, value, given⟩ := ok_of_bind given
  by_cases usable : p.isUsable n = true
  · rw [if_neg (by simp [usable])] at given
    by_cases used : p.used.contains n = true
    · rw [if_pos used] at given
      cases given
    · rw [if_neg used] at given
      cases given
      exact ⟨n, value, isFree_iff.mpr ⟨usable, by simpa using used⟩, rfl⟩
  · rw [if_pos (by simp [usable])] at given
    cases given

end Changing

/-!
Runs of calls. A call changes nothing of a pool but which values are used and where the next one is looked for, and
keeps it well formed; so does every run. A pool is therefore always what is made of its subnet, but for what is used.
-/

section Frames

def Made (p : Pool) : Prop := ofSubnet p.subnet = .ok p.clear

theorem made_ofSubnet {s : Subnet} (made : ofSubnet s = .ok p) : p.Made := by
  have whole := made
  unfold ofSubnet at made
  obtain ⟨block, _, made⟩ := ok_of_bind made
  obtain ⟨gateway, _, made⟩ := ok_of_bind made
  obtain ⟨excluded, _, made⟩ := ok_of_bind made
  obtain ⟨start, _, made⟩ := ok_of_bind made
  obtain ⟨stop, _, made⟩ := ok_of_bind made
  by_cases empty : min block.last stop < max block.first start
  · rw [if_pos empty] at made
    cases made
  · rw [if_neg empty] at made
    cases made
    exact whole

theorem subnet_of_clear (same : p'.clear = p.clear) : p'.subnet = p.subnet := by
  change p'.clear.subnet = p.clear.subnet
  rw [same]

theorem range_of_clear (same : p'.clear = p.clear) :
    p'.family = p.family ∧ p'.first = p.first ∧ p'.last = p.last := by
  have fields := Pool.mk.inj same
  tauto

theorem isUsable_of_clear (same : p'.clear = p.clear) (n : Nat) : p'.isUsable n = p.isUsable n := by
  change p'.clear.isUsable n = p.clear.isUsable n
  rw [same]

theorem acquire_parts {found : Address} (given : p.acquire = .ok (found, p')) :
    ∃ n, found = ⟨p.family, n, none⟩ ∧ p' = { p with used := n :: p.used, cursor := p.after n } := by
  unfold acquire at given
  split at given
  · cases given
    exact ⟨_, rfl, rfl⟩
  · cases given

theorem acquire_clear {found : Address} (given : p.acquire = .ok (found, p')) :
    p'.clear = p.clear := by
  obtain ⟨n, _, rfl⟩ := acquire_parts given
  rfl

theorem acquire_plain {found : Address} (given : p.acquire = .ok (found, p')) :
    found.scope = none := by
  obtain ⟨n, rfl, _⟩ := acquire_parts given
  rfl

theorem release_clear {address : String} {was_used : Bool}
    (given : p.release address = .ok (was_used, p')) : p'.clear = p.clear := by
  obtain ⟨used, rfl⟩ := release_eq_ok given
  rfl

theorem reserve_of_value {address : String} {n : Nat} (value : p.valueOf address = .ok n) :
    p.reserve address =
      if p.isUsable n = true then .ok (!p.used.contains n, { p with used := p.used.insert n })
      else .error (.bad (.notAllocatable address p.subnet.name)) := by
  rw [reserve, value]
  change (if (!p.isUsable n) = true then _ else if p.used.contains n = true then _ else _) = _
  by_cases usable : p.isUsable n = true
  · rw [if_neg (by simp [usable]), if_pos usable]
    by_cases used : n ∈ p.used
    · rw [if_pos (by simpa using used), List.insert_of_mem used]
      simp [used, pure, Except.pure]
    · rw [if_neg (by simpa using used), List.insert_of_not_mem used]
      simp [used, pure, Except.pure]
  · rw [if_pos (by simp [usable]), if_neg usable]
    rfl

theorem reserve_of_free {address : String} {n : Nat} (value : p.valueOf address = .ok n) (free : p.isFree n = true) :
    p.reserve address = .ok (true, { p with used := n :: p.used }) := by
  obtain ⟨usable, unused⟩ := isFree_iff.mp free
  rw [reserve_of_value value, if_pos usable, List.insert_of_not_mem unused]
  simp [unused]

theorem reserve_of_used {address : String} {n : Nat} (value : p.valueOf address = .ok n)
    (usable : p.isUsable n = true) (used : n ∈ p.used) : p.reserve address = .ok (false, p) := by
  rw [reserve_of_value value, if_pos usable, List.insert_of_mem used]
  simp [used]

end Frames

section Runs

/-- What holds of a pool holds after a call that is refused, so only an answer has to be looked at. -/
theorem settled_keeps {α : Type} {P : Pool → Prop} {answer : Except Fault (α × Pool)} (same : P p)
    (changed : ∀ value p', answer = .ok (value, p') → P p') : P (p.settled answer) := by
  cases answer with
  | error fault => exact same
  | ok found => exact changed found.1 found.2 rfl

theorem clear_apply (p : Pool) (call : Call) : (p.apply call).clear = p.clear := by
  cases call with
  | acquire => exact settled_keeps (P := fun q => q.clear = p.clear) rfl fun _ _ given => acquire_clear given
  | reserve address =>
      refine settled_keeps (P := fun q => q.clear = p.clear) rfl fun _ _ given => ?_
      obtain ⟨n, value, _⟩ := ok_of_bind given
      rw [reserve_of_value value] at given
      split at given
      · cases given
        rfl
      · cases given
  | release address =>
      exact settled_keeps (P := fun q => q.clear = p.clear) rfl fun _ _ given => release_clear given
  | clear => rfl

@[simp] theorem run_nil (p : Pool) : p.run [] = p := rfl

@[simp] theorem run_cons (p : Pool) (call : Call) (calls : List Call) :
    p.run (call :: calls) = (p.apply call).run calls := rfl

theorem run_append (p : Pool) (before after : List Call) : p.run (before ++ after) = (p.run before).run after :=
  List.foldl_append

theorem run_acquire {found : Address} (given : p.acquire = .ok (found, p')) : p.run [.acquire] = p' := by
  rw [run_cons, run_nil, apply, given]
  rfl

theorem run_reserve {address : String} {was_free : Bool} (given : p.reserve address = .ok (was_free, p')) :
    p.run [.reserve address] = p' := by
  rw [run_cons, run_nil, apply, given]
  rfl

theorem run_release {address : String} {was_used : Bool} (given : p.release address = .ok (was_used, p')) :
    p.run [.release address] = p' := by
  rw [run_cons, run_nil, apply, given]
  rfl

theorem clear_run (p : Pool) (calls : List Call) : (p.run calls).clear = p.clear := by
  induction calls generalizing p with
  | nil => rfl
  | cons call rest ih => exact (ih (p.apply call)).trans (clear_apply p call)

inductive Applied (p : Pool) : Call → Pool → Prop
  | unchanged (call : Call) : Applied p call p
  | acquired {n : Nat} (next : p.Next n) :
      Applied p .acquire { p with used := n :: p.used, cursor := p.after n }
  | reserved {address : String} {n : Nat} (free : p.isFree n = true) :
      Applied p (.reserve address) { p with used := n :: p.used }
  | released {address : String} (n : Nat) : Applied p (.release address) { p with used := p.used.erase n }
  | cleared : Applied p .clear p.clear

theorem apply_cases (valid : p.Valid) (call : Call) : Applied p call (p.apply call) := by
  cases call with
  | acquire =>
      refine settled_keeps (P := Applied p .acquire) (.unchanged _) fun _ _ given => ?_
      obtain ⟨n, next, _, rfl⟩ := next_of_acquire valid given
      exact .acquired next
  | reserve address =>
      refine settled_keeps (P := Applied p (.reserve address)) (.unchanged _) fun _ _ given => ?_
      obtain ⟨n, value, _⟩ := ok_of_bind given
      rw [reserve_of_value value] at given
      split at given
      case isFalse => cases given
      case isTrue usable =>
        cases given
        by_cases used : n ∈ p.used
        · rw [List.insert_of_mem used]
          exact .unchanged _
        · rw [List.insert_of_not_mem used]
          exact .reserved (isFree_iff.mpr ⟨usable, used⟩)
  | release address =>
      refine settled_keeps (P := Applied p (.release address)) (.unchanged _) fun _ _ given => ?_
      obtain ⟨n, value, _⟩ := ok_of_bind given
      rw [release_of_value value] at given
      cases given
      exact .released n
  | clear => exact .cleared

theorem valid_apply (valid : p.Valid) (call : Call) : (p.apply call).Valid := by
  have outcome := apply_cases valid call
  generalize p.apply call = p' at outcome
  cases outcome with
  | unchanged => exact valid
  | acquired next => exact valid_mark valid next.free (after_range (range_of_free next.free))
  | reserved free => exact valid_mark valid free valid.cursor_range
  | released n => exact valid_unmark valid n
  | cleared => exact valid_clear valid

theorem valid_run (valid : p.Valid) (calls : List Call) : (p.run calls).Valid := by
  induction calls generalizing p with
  | nil => exact valid
  | cons call rest ih => exact ih (valid_apply valid call)

/-- A pool as it stands under a name: it is what is made of the subnet of that name, but for what is used. -/
structure Stands (name : String) (p : Pool) : Prop where
  named : p.subnet.name = name
  made : p.Made
  valid : p.Valid

theorem stands_ofSubnet {s : Subnet} (made : ofSubnet s = .ok p) : p.Stands s.name where
  named := congrArg Subnet.name (ofSubnet_valid made).2.1
  made := made_ofSubnet made
  valid := (ofSubnet_valid made).1

theorem Stands.run {name : String} (stands : p.Stands name) (calls : List Call) : (p.run calls).Stands name where
  named := by
    rw [subnet_of_clear (clear_run p calls)]
    exact stands.named
  made := by
    rw [Made, subnet_of_clear (clear_run p calls), clear_run]
    exact stands.made
  valid := valid_run stands.valid calls

end Runs

end PodAddressing.Pool
