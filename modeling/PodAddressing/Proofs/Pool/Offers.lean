import Mathlib.Data.Finset.Card
import Mathlib.Order.Interval.Finset.Nat
import PodAddressing.Proofs.Pool
/-!
What a pool has to offer. The values that a subnet offers are told here from its texts alone; a pool of the subnet hands
out these and no others, each once until it is given back, and is full just if all of them are used.
-/

namespace PodAddressing

namespace Subnet
variable (s : Subnet) (n : Nat)

def value? (address : Option String) : Option Nat := (address.bind Address.parse?).map (·.value)

/-- A value lies in the block of a subnet, between the bounds that are given. -/
def InRange : Prop :=
  ∃ block, s.block = .ok block ∧
    max block.first ((value? s.start).getD block.first) ≤ n ∧ n ≤ min block.last ((value? s.stop).getD block.last)

/-- The gateway, the excluded addresses and, of a block of more than two addresses, its own and the broadcast address
of IPv4 are not handed out. -/
def SetAside : Prop :=
  value? s.gateway = some n ∨ (∃ address ∈ s.excluded, value? (some address) = some n) ∨
    ∃ block, s.block = .ok block ∧ 2 < block.size ∧ (n = block.first ∨ block.base.family = .v4 ∧ n = block.last)

def Offers : Prop := s.InRange n ∧ ¬ s.SetAside n

end Subnet

/-- The first of some values from a start on, or the least of them where all lie before it. -/
structure FirstFrom (values : Finset Nat) (start n : Nat) : Prop where
  listed : n ∈ values
  ahead : start ≤ n → ∀ m ∈ values, start ≤ m → n ≤ m
  round : n < start → ∀ m ∈ values, n ≤ m ∧ m < start

namespace Pool
variable {p made : Pool} {s : Subnet} {n : Nat}

section Reading

theorem value?_of_valueIn {f : Family} {subnet address : String} (read : valueIn f subnet address = .ok n) :
    Subnet.value? (some address) = some n := by
  unfold valueIn Address.ofText at read
  rw [Subnet.value?, Option.bind_some]
  cases found : Address.parse? address with
  | none =>
      rw [found] at read
      cases read
  | some a =>
      simp only [found] at read
      change (if a.family = f then _ else _) = _ at read
      split at read
      · cases read
        rfl
      · cases read

theorem value?_given? (address : Option String) : Subnet.value? (given? address) = Subnet.value? address := by
  have empty : Address.parse? "" = none := by decide +kernel
  cases address with
  | none => rfl
  | some text =>
      by_cases nothing : text = ""
      · subst nothing
        simp [given?, Subnet.value?, empty]
      · simp [given?, Option.filter, nothing]

theorem value?_of_bound {f : Family} {address : Option String} {default : Nat}
    (read : bound f s address default = .ok n) : n = (Subnet.value? address).getD default := by
  unfold bound at read
  rw [← value?_given?]
  split at read
  case h_1 absent =>
    cases read
    rw [absent]
    rfl
  case h_2 text present =>
    rw [present, value?_of_valueIn read]
    rfl

theorem values_of_mapM {f : Family} {subnet : String} {texts : List String} {values : List Nat}
    (read : texts.mapM (valueIn f subnet) = .ok values) :
    texts.map (fun text => Subnet.value? (some text)) = values.map some := by
  induction texts generalizing values with
  | nil =>
      cases read
      rfl
  | cons text rest ih =>
      rw [List.mapM_cons] at read
      obtain ⟨first, here, read⟩ := ok_of_bind read
      obtain ⟨others, later, read⟩ := ok_of_bind read
      cases read
      rw [List.map_cons, value?_of_valueIn here, ih later, List.map_cons]

theorem mem_of_mapM {f : Family} {subnet : String} {texts : List String} {values : List Nat}
    (read : texts.mapM (valueIn f subnet) = .ok values) :
    n ∈ values ↔ ∃ text ∈ texts, Subnet.value? (some text) = some n := by
  have same := values_of_mapM read
  have listed : n ∈ values ↔ some n ∈ values.map some := by simp
  rw [listed, ← same, List.mem_map]

theorem mem_reservedBy {block : Block} :
    n ∈ reservedBy block ↔
      2 < block.size ∧ (n = block.first ∨ block.base.family = .v4 ∧ n = block.last) := by
  unfold reservedBy
  by_cases small : block.size ≤ 2
  · simp [small]
  · rw [if_neg small]
    cases family : block.base.family <;> simp [Nat.not_le.mp small]

end Reading

theorem parts_of_ofSubnet (accepted : ofSubnet s = .ok made) (n : Nat) :
    (s.InRange n ↔ made.first ≤ n ∧ n ≤ made.last) ∧ (n ∈ made.blocked ↔ s.InRange n ∧ s.SetAside n) := by
  unfold ofSubnet at accepted
  obtain ⟨block, found, accepted⟩ := ok_of_bind accepted
  obtain ⟨gateway, gateway_read, accepted⟩ := ok_of_bind accepted
  obtain ⟨excluded, excluded_read, accepted⟩ := ok_of_bind accepted
  obtain ⟨start, start_read, accepted⟩ := ok_of_bind accepted
  obtain ⟨stop, stop_read, accepted⟩ := ok_of_bind accepted
  by_cases empty : min block.last stop < max block.first start
  · rw [if_pos empty] at accepted
    cases accepted
  · rw [if_neg empty] at accepted
    cases accepted
    have inside : s.InRange n ↔ max block.first start ≤ n ∧ n ≤ min block.last stop := by
      rw [Subnet.InRange, found, value?_of_bound start_read, value?_of_bound stop_read]
      simp
    have own : Subnet.value? s.gateway = some n ↔ n ∈ gateway := by
      rw [mem_of_mapM gateway_read, ← value?_given?]
      cases given? s.gateway with
      | none => simp [Subnet.value?]
      | some text => simp
    have aside : s.SetAside n ↔ n ∈ reservedBy block ++ gateway ++ excluded := by
      rw [Subnet.SetAside, found, own, ← mem_of_mapM excluded_read, List.mem_append, List.mem_append, mem_reservedBy]
      simp only [ok_eq_ok_iff, exists_eq_left]
      tauto
    refine ⟨inside, ?_⟩
    rw [inside, aside, List.mem_eraseDups, List.mem_filter, Bool.and_eq_true, decide_eq_true_eq, decide_eq_true_eq]
    exact and_comm

/-- A pool can hand out what its subnet offers. -/
theorem isUsable_iff_offers (accepted : ofSubnet s = .ok made) : made.isUsable n = true ↔ s.Offers n := by
  obtain ⟨inside, aside⟩ := parts_of_ofSubnet accepted n
  rw [isUsable_iff, Subnet.Offers, aside, inside]
  tauto

section Counting

def usableValues (p : Pool) : Finset Nat := (Finset.Icc p.first p.last).filter fun n => p.isUsable n = true

theorem mem_usableValues : n ∈ p.usableValues ↔ p.isUsable n = true := by
  rw [usableValues, Finset.mem_filter, Finset.mem_Icc]
  exact and_iff_right_of_imp fun usable => ⟨(isUsable_iff.mp usable).1, (isUsable_iff.mp usable).2.1⟩

theorem capacity_eq_card (valid : p.Valid) : p.capacity = p.usableValues.card := by
  have parted : p.usableValues = Finset.Icc p.first p.last \ p.blocked.toFinset := by
    ext n
    rw [mem_usableValues, isUsable_iff, Finset.mem_sdiff, Finset.mem_Icc, List.mem_toFinset, and_assoc]
  have inside : p.blocked.toFinset ⊆ Finset.Icc p.first p.last := by
    intro n member
    exact Finset.mem_Icc.mpr (valid.blocked_range n (List.mem_toFinset.mp member))
  rw [parted, Finset.card_sdiff_of_subset inside, Nat.card_Icc, List.toFinset_card_of_nodup valid.blocked_nodup]
  rfl

theorem used_subset (valid : p.Valid) : p.used.toFinset ⊆ p.usableValues := by
  intro n member
  exact mem_usableValues.mpr (valid.used_usable n (List.mem_toFinset.mp member))

theorem mem_free_iff : n ∈ p.usableValues \ p.used.toFinset ↔ p.isFree n = true := by
  rw [Finset.mem_sdiff, mem_usableValues, List.mem_toFinset, isFree_iff]

theorem hasFree_iff (valid : p.Valid) : p.hasFree = true ↔ p.used.toFinset ≠ p.usableValues := by
  rw [hasFree, decide_eq_true_eq, capacity_eq_card valid, ← List.toFinset_card_of_nodup valid.used_nodup]
  constructor
  · intro fewer same
    rw [same] at fewer
    exact absurd fewer (Nat.lt_irrefl _)
  · intro different
    exact Finset.card_lt_card ((used_subset valid).ssubset_of_ne different)

end Counting

section Handing

theorem acquire_of_full (full : p.hasFree = false) :
    p.acquire = .error (.exhausted p.family.name [p.subnet.name]) := by
  rw [acquire, if_neg (by simp [full])]

theorem acquire_of_room (valid : p.Valid) (room : p.hasFree = true) :
    ∃ n, p.Next n ∧
      p.acquire = .ok (⟨p.family, n, none⟩, { p with used := n :: p.used, cursor := p.after n }) := by
  cases given : p.acquire with
  | error fault =>
      rw [acquire, if_pos room] at given
      cases given
  | ok found =>
      obtain ⟨address, after⟩ := found
      obtain ⟨n, next, rfl, rfl⟩ := next_of_acquire valid given
      exact ⟨n, next, rfl⟩

theorem first_of_next (valid : p.Valid) (next : p.Next n) :
    FirstFrom (p.usableValues \ p.used.toFinset) p.cursor n := by
  have range := valid.cursor_range
  have inside := range_of_free next.free
  have nearer (m : Nat) (member : m ∈ p.usableValues \ p.used.toFinset) :
      (p.first ≤ m ∧ m ≤ p.last) ∧ p.distance p.cursor n ≤ p.distance p.cursor m := by
    have free := mem_free_iff.mp member
    exact ⟨range_of_free free, next.nearest m free⟩
  refine ⟨mem_free_iff.mpr next.free, fun here m member later => ?_, fun wraps m member => ?_⟩
  · obtain ⟨_, short⟩ := nearer m member
    rw [distance, distance, if_pos here, if_pos later] at short
    omega
  · obtain ⟨inside', short⟩ := nearer m member
    rw [distance, distance, if_neg (by omega)] at short
    split at short <;> omega

end Handing

/-- After every run the used values are among those on offer, and the next one is the first of the others from the
cursor on, round the range; only where all are used there is none. -/
theorem hands_out_what_is_offered (accepted : ofSubnet s = .ok made) :
    ∃ offered : Finset Nat, (∀ n, n ∈ offered ↔ s.Offers n) ∧ s.family = .ok made.family ∧
      ∀ calls, let p := made.run calls
        p.used.Nodup ∧ p.used.toFinset ⊆ offered ∧ p.capacity = offered.card ∧ s.InRange p.cursor ∧
        (p.acquire = .error (.exhausted made.family.name [s.name]) ↔ p.used.toFinset = offered) ∧
        (p.used.toFinset = offered → p.apply .acquire = p) ∧
        (p.used.toFinset ≠ offered → ∃ n, FirstFrom (offered \ p.used.toFinset) p.cursor n ∧
          (∃ steps, p.after^[steps] p.cursor = n ∧ ∀ i < steps, p.isFree (p.after^[i] p.cursor) = false) ∧
          p.acquire = .ok (⟨made.family, n, none⟩, { p with used := n :: p.used, cursor := p.after n })) := by
  obtain ⟨start, subnet, _, family⟩ := ofSubnet_valid accepted
  refine ⟨made.usableValues, fun n => mem_usableValues.trans (isUsable_iff_offers accepted), family, fun calls => ?_⟩
  have valid := valid_run start calls
  have frame := clear_run made calls
  generalize made.run calls = p at valid frame
  have offered : p.usableValues = made.usableValues := by
    ext n
    rw [mem_usableValues, mem_usableValues, isUsable_of_clear frame]
  obtain ⟨kind, first, last⟩ := range_of_clear frame
  have named : p.subnet = s := (subnet_of_clear frame).trans subnet
  have cursor : s.InRange p.cursor := by
    rw [(parts_of_ofSubnet accepted _).1, ← first, ← last]
    exact valid.cursor_range
  have full (all : p.used.toFinset = p.usableValues) :
      p.acquire = .error (.exhausted p.family.name [p.subnet.name]) :=
    acquire_of_full (by simpa [all] using (hasFree_iff valid).not)
  rw [← offered, ← kind, ← named]
  refine ⟨valid.used_nodup, used_subset valid, capacity_eq_card valid, named.symm ▸ cursor, ⟨?_, full⟩, ?_, ?_⟩
  · intro refused
    by_contra different
    obtain ⟨n, _, given⟩ := acquire_of_room valid ((hasFree_iff valid).mpr different)
    rw [given] at refused
    cases refused
  · intro all
    rw [apply, full all]
    rfl
  · intro different
    obtain ⟨n, next, given⟩ := acquire_of_room valid ((hasFree_iff valid).mpr different)
    exact ⟨n, first_of_next valid next, next.ends valid, given⟩

section Sample

/-- A subnet that is narrowed at both ends, with addresses set aside inside its range and outside of it. -/
def clipped : Subnet where
  name := "four"
  network := "pods"
  cidr := "10.0.0.9/29"
  gateway := some "10.0.0.1"
  excluded := ["10.0.0.11", "10.0.0.200"]
  start := some "10.0.0.10"
  stop := some "10.0.1.0"

def clippedPool : Pool where
  subnet := clipped
  family := .v4
  first := 0x0a00000a
  last := 0x0a00000f
  blocked := [0x0a00000f, 0x0a00000b]
  used := []
  cursor := 0x0a00000a

def leased : List Call := [.acquire, .acquire, .acquire, .release "10.0.0.10"]

theorem clipped_made : ofSubnet clipped = .ok clippedPool := by decide +kernel

theorem clipped_hands_out :
    ofSubnet clipped = .ok clippedPool ∧ ∃ offered : Finset Nat, (∀ n, n ∈ offered ↔ clipped.Offers n) ∧
      let p := clippedPool.run leased
      p.used = [0x0a00000d, 0x0a00000c] ∧ p.used.toFinset ⊆ offered ∧ offered.card = 4 ∧
        clipped.InRange p.cursor ∧ FirstFrom (offered \ p.used.toFinset) p.cursor 0x0a00000e ∧
        (p.acquire.map (·.1)).toOption = some ⟨.v4, 0x0a00000e, none⟩ := by
  obtain ⟨offered, exactly, _, states⟩ := hands_out_what_is_offered clipped_made
  obtain ⟨_, inside, total, cursor, _, _, next⟩ := states leased
  have size : offered.card = 4 := total.symm.trans (by decide +kernel)
  have used : (clippedPool.run leased).used = [0x0a00000d, 0x0a00000c] := by decide +kernel
  have answer : ((clippedPool.run leased).acquire.map (·.1)).toOption = some ⟨.v4, 0x0a00000e, none⟩ := by
    decide +kernel
  refine ⟨clipped_made, offered, exactly, used, inside, size, cursor, ?_, answer⟩
  obtain ⟨n, first, _, given⟩ := next (by rintro rfl; rw [used] at size; cases size)
  rw [given] at answer
  cases answer
  exact first

end Sample

end Pool

/-!
Turns. What is handed out moves the place where a pool looks next just behind it, and nothing else moves that place;
so the pool comes back to a value only after all others were passed over, because they were in use, or handed out.
-/

namespace Pool
variable {p p' made : Pool} {s : Subnet}

theorem distance_after {start n m : Nat} (range : p.first ≤ start ∧ start ≤ p.last)
    (inside : p.first ≤ n ∧ n ≤ p.last) (inside' : p.first ≤ m ∧ m ≤ p.last)
    (nearer : p.distance start n < p.distance start m) :
    p.distance (p.after n) m + (p.distance start n + 1) = p.distance start m := by
  unfold distance after at *
  split_ifs at * <;> omega

theorem eq_of_distance {start n m : Nat} (range : p.first ≤ start ∧ start ≤ p.last)
    (inside : p.first ≤ n ∧ n ≤ p.last) (inside' : p.first ≤ m ∧ m ≤ p.last)
    (same : p.distance start n = p.distance start m) : n = m := by
  rw [← after_iterate_distance range inside, same, after_iterate_distance range inside']

/-- What lies nearer than a value is in use at some time before that value is handed out. -/
theorem used_before {middle : List Call} (valid : p.Valid) (still : .clear ∉ middle) {found : Address}
    (given : (p.run middle).acquire = .ok (found, p')) {n : Nat} (usable : p.isUsable n = true)
    (inside : p.first ≤ found.value ∧ found.value ≤ p.last)
    (nearer : p.distance p.cursor n < p.distance p.cursor found.value) :
    ∃ part, part <+: middle ∧ n ∈ (p.run part).used := by
  induction middle generalizing p with
  | nil =>
      refine ⟨[], List.nil_prefix, ?_⟩
      by_contra unused
      obtain ⟨m, next, rfl, _⟩ := next_of_acquire valid given
      exact absurd (next.nearest n (isFree_iff.mpr ⟨usable, unused⟩)) (Nat.not_le.mpr nearer)
  | cons call rest ih =>
      by_cases used : n ∈ p.used
      · exact ⟨[], List.nil_prefix, used⟩
      have free : p.isFree n = true := isFree_iff.mpr ⟨usable, used⟩
      have later : .clear ∉ rest := fun member => still (List.mem_cons_of_mem call member)
      suffices after : ∃ part, part <+: rest ∧ n ∈ ((p.apply call).run part).used by
        obtain ⟨part, within, marked⟩ := after
        exact ⟨call :: part, (List.prefix_cons_inj call).mpr within, marked⟩
      have outcome := apply_cases valid call
      have valid' := valid_apply valid call
      rw [run_cons] at given
      generalize p.apply call = q at outcome valid' given
      cases outcome with
      | unchanged => exact ih valid later given usable inside nearer
      | @acquired m next =>
          by_cases same : m = n
          · exact ⟨[], List.nil_prefix, same ▸ List.mem_cons_self⟩
          · -- The one that is handed out is the nearest, so it is passed before either of the two.
            have range := range_of_free next.free
            have ahead : p.distance p.cursor m < p.distance p.cursor n := by
              apply Nat.lt_of_le_of_ne (next.nearest n free)
              exact fun level => same (eq_of_distance valid.cursor_range range (range_of_free free) level)
            have left := distance_after valid.cursor_range range (range_of_free free) ahead
            have right := distance_after valid.cursor_range range inside (Nat.lt_trans ahead nearer)
            have order : p.distance (p.after m) n < p.distance (p.after m) found.value := by omega
            exact ih valid' later given usable inside order
      | reserved => exact ih valid' later given usable inside nearer
      | released => exact ih valid' later given usable inside nearer
      | cleared => exact absurd List.mem_cons_self still

theorem distance_after_lt {n m : Nat} (inside : p.first ≤ n ∧ n ≤ p.last) (inside' : p.first ≤ m ∧ m ≤ p.last)
    (other : m ≠ n) : p.distance (p.after n) m < p.distance (p.after n) n := by
  unfold distance after
  split_ifs <;> omega

/-- An address comes again only after every other one has been in use; so one that is given back is not handed out again
while another one has been free all the while. -/
theorem reused_in_turn (accepted : ofSubnet s = .ok made) (before middle : List Call) (still : .clear ∉ middle)
    {first second : Address} (earlier : (made.run before).acquire = .ok (first, p))
    (later : (p.run middle).acquire = .ok (second, p')) (same : second.text = first.text)
    {n : Nat} (offered : s.Offers n) (other : n ≠ first.value) :
    ∃ part, part <+: middle ∧ n ∈ (p.run part).used := by
  have valid := valid_run (ofSubnet_valid accepted).1 before
  have frame := clear_run made before
  generalize made.run before = start at earlier valid frame
  obtain ⟨m, next, rfl, rfl⟩ := next_of_acquire valid earlier
  have range := range_of_free next.free
  have marked := valid_mark valid next.free (after_range range)
  have unmoved := clear_run { start with used := m :: start.used, cursor := start.after m } middle
  obtain ⟨k, next', rfl, _⟩ := next_of_acquire (valid_run marked middle) later
  -- The second address is the first one, since one text stands for one value.
  have again : k = m := by
    have usable := (isUsable_of_clear unmoved k).symm.trans (isFree_iff.mp next'.free).1
    rw [(range_of_clear unmoved).1] at same
    have read := valueOf_text valid (n := k) usable
    rw [same, valueOf_text valid (isFree_iff.mp next.free).1] at read
    exact (Except.ok.inj read).symm
  have usable : start.isUsable n = true := by
    rw [isUsable_of_clear frame, isUsable_iff_offers accepted]
    exact offered
  have inside := isUsable_iff.mp usable
  subst again
  exact used_before marked still later usable range
    (distance_after_lt (p := start) range ⟨inside.1, inside.2.1⟩ other)

/-- Of the other addresses two are handed out, and one is reserved and given back before its turn. -/
def turn : List Call :=
  [.release "10.0.0.10", .acquire, .reserve "10.0.0.13", .release "10.0.0.12", .acquire, .release "10.0.0.13"]

theorem clipped_reused_in_turn :
    (clippedPool.acquire.map (·.1.text)).toOption = some "10.0.0.10" ∧
      (((clippedPool.run [.acquire]).run turn).acquire.map (·.1.text)).toOption = some "10.0.0.10" ∧
      ∀ n, clipped.Offers n → n ≠ 0x0a00000a →
        ∃ part, part <+: turn ∧ n ∈ ((clippedPool.run [.acquire]).run part).used := by
  have earlier : (clippedPool.run []).acquire = .ok (⟨.v4, 0x0a00000a, none⟩, clippedPool.run [.acquire]) := by
    decide +kernel
  have later : ((clippedPool.run [.acquire]).run turn).acquire = .ok (⟨.v4, 0x0a00000a, none⟩,
      ((clippedPool.run [.acquire]).run turn).run [.acquire]) := by
    decide +kernel
  refine ⟨by decide +kernel, by decide +kernel, fun n offered other => ?_⟩
  exact reused_in_turn clipped_made [] turn (by decide) earlier later rfl offered other

end Pool

end PodAddressing
