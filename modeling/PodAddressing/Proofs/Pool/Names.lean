import PodAddressing.Proofs.Address.Canonical
import PodAddressing.Proofs.Pool
import PodAddressing.Record
/-!
Texts and values. The text of an address that is handed out leads back to the value that was marked, and an address that
is spelled in another way is the same to a pool; only a refusal quotes the text that it was given.
-/

namespace PodAddressing

def Fault.respelt (text : String) : Fault → Fault
  | .bad (.foreignFamily _ subnet) => .bad (.foreignFamily text subnet)
  | .bad (.notAllocatable _ subnet) => .bad (.notAllocatable text subnet)
  | fault => fault

namespace Pool
variable {p p' q made : Pool} {s : Subnet}

section Respelling
variable {text other : String} {a b : Address}

theorem valueOf_eq (read : Address.parse? text = some a) :
    p.valueOf text = if a.family = p.family then .ok a.value else .error (.bad (.foreignFamily text p.subnet.name)) := by
  rw [valueOf, valueIn, Address.ofText, read]
  rfl

theorem valueOf_respelt (read : Address.parse? text = some a) (read' : Address.parse? other = some b)
    (family : b.family = a.family) (value : b.value = a.value) :
    p.valueOf other = (p.valueOf text).mapError (·.respelt other) := by
  rw [valueOf_eq read, valueOf_eq read', family, value]
  split <;> rfl

theorem contains_respelt (read : Address.parse? text = some a) (read' : Address.parse? other = some b)
    (family : b.family = a.family) (value : b.value = a.value) : p.contains other = p.contains text := by
  rw [contains, contains, valueOf_respelt read read' family value]
  cases p.valueOf text <;> rfl

theorem isUsed_respelt (read : Address.parse? text = some a) (read' : Address.parse? other = some b)
    (family : b.family = a.family) (value : b.value = a.value) :
    p.isUsed other = (p.isUsed text).mapError (·.respelt other) := by
  rw [isUsed, isUsed, valueOf_respelt read read' family value]
  cases p.valueOf text <;> rfl

theorem reserve_respelt (read : Address.parse? text = some a) (read' : Address.parse? other = some b)
    (family : b.family = a.family) (value : b.value = a.value) :
    p.reserve other = (p.reserve text).mapError (·.respelt other) := by
  have same := valueOf_respelt (p := p) read read' family value
  cases known : p.valueOf text with
  | ok n =>
      rw [known] at same
      rw [reserve_of_value known, reserve_of_value same]
      split <;> rfl
  | error fault =>
      rw [reserve, reserve, same, known]
      rfl

theorem release_respelt (read : Address.parse? text = some a) (read' : Address.parse? other = some b)
    (family : b.family = a.family) (value : b.value = a.value) :
    p.release other = (p.release text).mapError (·.respelt other) := by
  have same := valueOf_respelt (p := p) read read' family value
  cases known : p.valueOf text with
  | ok n =>
      rw [known] at same
      rw [release_of_value known, release_of_value same]
      rfl
  | error fault =>
      rw [release, release, same, known]
      rfl

end Respelling

/-- What is handed out is read back, given back and reserved again under its own text. -/
theorem acquired_text (valid : p.Valid) {found : Address} (given : p.acquire = .ok (found, q)) :
    Address.parse? found.text = some ⟨p.family, found.value, none⟩ ∧ q.used = found.value :: p.used ∧
      q.contains found.text = true ∧ q.isUsed found.text = .ok true ∧
      ∃ r, q.release found.text = .ok (true, r) ∧ r.used = p.used ∧
        r.reserve found.text = .ok (true, q) ∧ q.reserve found.text = .ok (false, q) := by
  obtain ⟨n, next, rfl, rfl⟩ := next_of_acquire valid given
  have usable := (isFree_iff.mp next.free).1
  have below : n < 2 ^ p.family.width := Nat.lt_of_le_of_lt (isUsable_iff.mp usable).2.1 valid.bounded
  have value (used : List Nat) (cursor : Nat) :
      ({ p with used, cursor } : Pool).valueOf (Address.text ⟨p.family, n, none⟩) = .ok n :=
    valueOf_text valid usable
  refine ⟨Address.parse?_text p.family below, rfl, ?_, ?_, { p with cursor := p.after n }, ?_, rfl, ?_, ?_⟩
  · rw [contains_of_value (value _ _)]
    exact usable
  · rw [isUsed_of_value (value _ _)]
    simp
  · rw [release_of_value (value _ _)]
    simp
  · exact reserve_of_free (value _ _) next.free
  · exact reserve_of_used (value _ _) usable List.mem_cons_self

/-- After every run the text of an address that is acquired does for it all that its value would, and so does any other
text of that value. -/
theorem texts_and_values_agree (accepted : ofSubnet s = .ok made) (calls : List Call) :
    let p := made.run calls
    (∀ found q, p.acquire = .ok (found, q) →
      Address.parse? found.text = some ⟨made.family, found.value, none⟩ ∧ q.used = found.value :: p.used ∧
        q.contains found.text = true ∧ q.isUsed found.text = .ok true ∧
        ∃ r, q.release found.text = .ok (true, r) ∧ r.used = p.used ∧
          r.reserve found.text = .ok (true, q) ∧ q.reserve found.text = .ok (false, q)) ∧
    ∀ text other a b, Address.parse? text = some a → Address.parse? other = some b →
      b.family = a.family → b.value = a.value →
      p.contains other = p.contains text ∧ p.isUsed other = (p.isUsed text).mapError (·.respelt other) ∧
        p.reserve other = (p.reserve text).mapError (·.respelt other) ∧
        p.release other = (p.release text).mapError (·.respelt other) := by
  have valid := valid_run (ofSubnet_valid accepted).1 calls
  refine ⟨fun found q given => ?_, fun text other a b read read' family value => ?_⟩
  · rw [← (range_of_clear (clear_run made calls)).1]
    exact acquired_text valid given
  · exact ⟨contains_respelt read read' family value, isUsed_respelt read read' family value,
      reserve_respelt read read' family value, release_respelt read read' family value⟩

section Sample

def six : Subnet where
  name := "six"
  network := "pods"
  cidr := "2001:db8::/125"
  gateway := some "2001:DB8:0::1"

def sixPool : Pool where
  subnet := six
  family := .v6
  first := 0x20010db8000000000000000000000000
  last := 0x20010db8000000000000000000000007
  blocked := [0x20010db8000000000000000000000000, 0x20010db8000000000000000000000001]
  used := []
  cursor := 0x20010db8000000000000000000000000

theorem six_made : ofSubnet six = .ok sixPool := by decide +kernel

/-- In capitals, with its last part as IPv4, and with a scope, an address is the one that was handed out. -/
theorem six_texts_and_values_agree :
    let p := sixPool.run [.acquire]
    sixPool.acquire = .ok (⟨.v6, 0x20010db8000000000000000000000002, none⟩, p) ∧
      p.isUsed "2001:db8::2" = .ok true ∧ p.isUsed "2001:DB8:0::0.0.0.2%eth0" = .ok true ∧
      ∃ r, p.release "2001:DB8:0::0.0.0.2%eth0" = .ok (true, r) ∧ r.used = [] := by
  have given : sixPool.acquire =
      .ok (⟨.v6, 0x20010db8000000000000000000000002, none⟩, sixPool.run [.acquire]) := by
    decide +kernel
  have text : Address.text ⟨.v6, 0x20010db8000000000000000000000002, none⟩ = "2001:db8::2" := by decide +kernel
  have read : Address.parse? "2001:db8::2" = some ⟨.v6, 0x20010db8000000000000000000000002, none⟩ := by decide +kernel
  have read' : Address.parse? "2001:DB8:0::0.0.0.2%eth0" =
      some ⟨.v6, 0x20010db8000000000000000000000002, some "eth0"⟩ := by
    decide +kernel
  obtain ⟨_, _, _, used, r, freed, kept, _, _⟩ := (texts_and_values_agree six_made []).1 _ _ given
  obtain ⟨_, used', _, freed'⟩ := (texts_and_values_agree six_made [.acquire]).2 _ _ _ _ read read' rfl rfl
  rw [text] at used freed
  rw [used] at used'
  rw [freed] at freed'
  exact ⟨given, used, used', r, freed', kept⟩

end Sample

end Pool

/-!
The names of records. A name has hyphens for the points or the colons of an address, and still it tells the address.
There are no other hyphens in it, so the numbers can be cut out again: four of an IPv4 address, and of an IPv6 address
eight, or fewer with an empty place among them for the zeros that are left out.
-/

namespace Address
open Text

def mark : Family → Char
  | .v4 => '.'
  | .v6 => ':'

def hyphened (c : Char) : Char := if c = '.' || c = ':' then '-' else c

section Numbers
variable {f g : Family}

theorem hyphened_mark (f : Family) : hyphened (mark f) = '-' := by
  cases f <;> rfl

theorem hyphened_of_other {c : Char} (no_point : c ≠ '.') (no_colon : c ≠ ':') : hyphened c = c := by
  simp [hyphened, no_point, no_colon]

theorem mark_or_other (f : Family) (n : Nat) :
    ∀ c ∈ digits ⟨f, n, none⟩, c = mark f ∨ hyphened c = c ∧ c ≠ '-' := by
  intro c member
  cases f with
  | v4 =>
      rcases mem_join member with point | ⟨piece, inside, found⟩
      · exact .inl point
      · obtain ⟨octet, _, rfl⟩ := List.mem_map.mp inside
        have digit : c.isDigit = true := Nat.isDigit_of_mem_toDigits (by decide) (by decide) found
        have apart {d : Char} (other : d.isDigit = false) : c ≠ d := by
          rintro rfl
          rw [other] at digit
          cases digit
        exact .inr ⟨hyphened_of_other (apart rfl) (apart rfl), apart rfl⟩
  | v6 =>
      have apart {d : Char} (listed : d ∈ ['.', '/', '%', '-']) : c ≠ d := by
        rintro rfl
        exact mark_free_groupsText n c listed member
      by_cases colon : c = ':'
      · exact .inl colon
      · exact .inr ⟨hyphened_of_other (apart (by simp)) colon, apart (by simp)⟩

theorem cut_hyphened (f : Family) (n : Nat) :
    cut '-' ((digits ⟨f, n, none⟩).map hyphened) = cut (mark f) (digits ⟨f, n, none⟩) :=
  cut_map_mark (mark f) (hyphened_mark f) (mark_or_other f n)

theorem numbers_v4 (n : Nat) :
    (cut '.' (quadText n)).length = 4 ∧ [] ∉ cut '.' (quadText n) := by
  rw [cut_quadText]
  refine ⟨rfl, fun empty => ?_⟩
  obtain ⟨octet, _, nothing⟩ := List.mem_map.mp empty
  exact Nat.toDigits_ne_nil nothing

theorem numbers_v6 (n : Nat) :
    (cut ':' (groupsText n)).length = 8 ∨ [] ∈ cut ':' (groupsText n) := by
  unfold groupsText
  dsimp only
  split
  · have some_group : groups n ≠ [] := List.ne_nil_of_length_pos (by simp [length_groups])
    left
    rw [cut_joinGroups, sideParts, if_neg some_group, List.length_map, length_groups]
  · right
    rw [cut_gap]
    exact List.mem_append_right _ List.mem_cons_self

theorem family_of_numbers {n m : Nat}
    (same : cut (mark f) (digits ⟨f, n, none⟩) = cut (mark g) (digits ⟨g, m, none⟩)) : f = g := by
  have apart (n m : Nat) : cut '.' (quadText n) ≠ cut ':' (groupsText m) := by
    intro same
    obtain ⟨four, full⟩ := numbers_v4 n
    rw [same] at four full
    rcases numbers_v6 m with eight | empty
    · rw [four] at eight
      cases eight
    · exact full empty
  cases f <;> cases g
  · rfl
  · exact absurd same (apart n m)
  · exact absurd same.symm (apart m n)
  · rfl

/-- An address without a scope can be read off its text with hyphens. -/
theorem digits_of_hyphened {n m : Nat}
    (same : (digits ⟨f, n, none⟩).map hyphened = (digits ⟨g, m, none⟩).map hyphened) :
    digits ⟨f, n, none⟩ = digits ⟨g, m, none⟩ := by
  have numbers : cut (mark f) (digits ⟨f, n, none⟩) = cut (mark g) (digits ⟨g, m, none⟩) := by
    rw [← cut_hyphened, ← cut_hyphened, same]
  -- In one family the numbers are joined again by the same mark.
  obtain rfl := family_of_numbers numbers
  rw [← join_cut (mark f) (digits ⟨f, n, none⟩), numbers, join_cut]

end Numbers
end Address

namespace Record
variable {r u : Record} {a b : Address}

theorem toList_name (r : Record) : r.name.toList = r.address.toList.map Address.hyphened := by
  rw [name, String.toList_ofList]
  rfl

theorem address_of_name (plain : a.scope = none) (plain' : b.scope = none) (kept : r.address = a.text)
    (kept' : u.address = b.text) (same : r.name = u.name) : r.address = u.address := by
  obtain ⟨f, n, _⟩ := a
  obtain ⟨g, m, _⟩ := b
  cases plain
  cases plain'
  rw [← String.toList_inj, toList_name, toList_name, kept, kept', Address.text, Address.text, String.toList_ofList,
    String.toList_ofList] at same
  rw [kept, kept', Address.text, Address.text, Address.digits_of_hyphened same]

section Acquired
variable {s t : Subnet} {p q p' q' : Pool}

/-- Whichever pools hand two addresses out, and after whatever calls, the records of them have one name just if they are
records of one address. -/
theorem named_alike_iff (made : Pool.ofSubnet s = .ok p) (made' : Pool.ofSubnet t = .ok q)
    (calls calls' : List Pool.Call) (given : (p.run calls).acquire = .ok (a, p'))
    (given' : (q.run calls').acquire = .ok (b, q')) (kept : r.address = a.text) (kept' : u.address = b.text) :
    (r.name = u.name ↔ r.address = u.address) ∧ (r.address = u.address ↔ a = b) := by
  refine ⟨⟨?_, fun same => ?_⟩, ?_⟩
  · exact address_of_name (Pool.acquire_plain given) (Pool.acquire_plain given') kept kept'
  · rw [name, name, same]
  · have proper {s : Subnet} {p p' : Pool} {a : Address} {calls : List Pool.Call} (made : Pool.ofSubnet s = .ok p)
        (given : (p.run calls).acquire = .ok (a, p')) : a.Proper := by
      have valid := Pool.valid_run (Pool.ofSubnet_valid made).1 calls
      obtain ⟨n, next, rfl, _⟩ := Pool.next_of_acquire valid given
      have inside := Pool.range_of_free next.free
      exact Address.proper_plain (Nat.lt_of_le_of_lt inside.2 valid.bounded)
    rw [kept, kept']
    exact (proper made given).text_inj (proper made' given')

def loneFour : Subnet where
  name := "four"
  network := "pods"
  cidr := "1.2.3.4/32"

def loneFourPool : Pool := ⟨loneFour, .v4, 0x01020304, 0x01020304, [], [], 0x01020304⟩

def loneSix : Subnet where
  name := "six"
  network := "pods"
  cidr := "1:2:3:4::/128"

def loneSixPool : Pool :=
  ⟨loneSix, .v6, 0x00010002000300040000000000000000, 0x00010002000300040000000000000000, [], [],
    0x00010002000300040000000000000000⟩

def spare (address : String) : Record := ⟨address, .v4, "", "", "", "", ⟨"", "", "", ⟨"", "", ""⟩, none⟩⟩

/-- The names of these two differ in nothing but the hyphens at the end. -/
theorem lone_names_differ :
    (loneFourPool.run [.acquire, .release "1.2.3.4"]).acquire =
        .ok (⟨.v4, 0x01020304, none⟩, loneFourPool.run [.acquire]) ∧
      loneSixPool.acquire = .ok (⟨.v6, 0x00010002000300040000000000000000, none⟩, loneSixPool.run [.acquire]) ∧
      (spare "1.2.3.4").name = "1-2-3-4" ∧ (spare "1:2:3:4::").name = "1-2-3-4--" ∧
      ((spare "1.2.3.4").name = (spare "1:2:3:4::").name ↔ "1.2.3.4" = "1:2:3:4::") := by
  have made : Pool.ofSubnet loneFour = .ok loneFourPool := by decide +kernel
  have made' : Pool.ofSubnet loneSix = .ok loneSixPool := by decide +kernel
  have given : (loneFourPool.run [.acquire, .release "1.2.3.4"]).acquire =
      .ok (⟨.v4, 0x01020304, none⟩, loneFourPool.run [.acquire]) := by
    decide +kernel
  have given' : (loneSixPool.run []).acquire =
      .ok (⟨.v6, 0x00010002000300040000000000000000, none⟩, loneSixPool.run [.acquire]) := by
    decide +kernel
  have text : (spare "1.2.3.4").address = Address.text ⟨.v4, 0x01020304, none⟩ := by decide +kernel
  have text' : (spare "1:2:3:4::").address = Address.text ⟨.v6, 0x00010002000300040000000000000000, none⟩ := by
    decide +kernel
  have alike := named_alike_iff made made' [.acquire, .release "1.2.3.4"] [] given given' text text'
  exact ⟨given, given', by decide +kernel, by decide +kernel, alike.1⟩

end Acquired
end Record
end PodAddressing
