import PodAddressing.Proofs.Address.Text
import PodAddressing.Proofs.Text.Pieces
/-!
Canonical spellings. Every address that was read is read back from its text, with its scope, so two addresses that were
read have one text just if they are of one family, value and scope. The same is true of blocks.
-/

namespace PodAddressing

namespace Address
open Text
variable {a b : Address} {cs : List Char} {s : String}

/-- An address as it can be read. Only an IPv6 address has a scope, and one that can be written. -/
structure Proper (a : Address) : Prop where
  bounded : a.value < 2 ^ a.family.width
  scopes : ∀ scope, a.scope = some scope →
    a.family = .v6 ∧ scope.toList ≠ [] ∧ '%' ∉ scope.toList ∧ '/' ∉ scope.toList

theorem proper_plain {f : Family} {n : Nat} (bounded : n < 2 ^ f.width) : Proper ⟨f, n, none⟩ :=
  ⟨bounded, fun _ none => by cases none⟩

section Reading

theorem scope_of_v6? {scope : String} (read : v6? cs = some a) (has : a.scope = some scope) :
    scope.toList ≠ [] ∧ '%' ∉ scope.toList ∧ '/' ∉ scope.toList ∧ ∃ digits, cs = digits ++ '%' :: scope.toList := by
  unfold v6? at read
  split at read
  · cases read
  case isFalse no_slash =>
    split at read
    case h_1 =>
      obtain ⟨n, _, rfl⟩ := Option.map_eq_some_iff.mp read
      cases has
    case h_2 digits rest cut =>
      have whole := eq_of_cutFirst '%' cut
      split at read
      · cases read
      case isFalse allowed =>
        obtain ⟨n, _, rfl⟩ := Option.map_eq_some_iff.mp read
        cases has
        simp only [Bool.or_eq_true, List.isEmpty_iff, decide_eq_true_eq, not_or] at allowed
        rw [String.toList_ofList]
        refine ⟨allowed.1, allowed.2, fun slash => no_slash ?_, digits, whole⟩
        rw [whole]
        exact List.mem_append_right _ (List.mem_cons_of_mem _ slash)

theorem proper_of_v4? (read : v4? cs = some a) : a.Proper := by
  obtain ⟨n, value, rfl⟩ := Option.map_eq_some_iff.mp read
  exact proper_plain (quad?_lt value)

theorem proper_of_v6? (read : v6? cs = some a) : a.Proper where
  bounded := by
    obtain ⟨family, bound⟩ := v6?_eq_some read
    rwa [family]
  scopes scope has := by
    obtain ⟨some_char, no_mark, no_slash, _⟩ := scope_of_v6? read has
    exact ⟨(v6?_eq_some read).1, some_char, no_mark, no_slash⟩

theorem proper_of_parse? (read : parse? s = some a) : a.Proper := by
  unfold parse? at read
  split at read
  case h_1 found =>
    cases read
    exact proper_of_v4? found
  case h_2 => exact proper_of_v6? read

theorem proper_of_ofValue? {n : Int} (found : ofValue? n = some a) : a.Proper := by
  unfold ofValue? at found
  split at found
  · cases found
  · split at found
    case isTrue small =>
      cases found
      rw [Nat.one_shiftLeft] at small
      exact proper_plain small
    case isFalse =>
      split at found
      case isTrue small =>
        cases found
        rw [Nat.one_shiftLeft] at small
        exact proper_plain small
      case isFalse => cases found

theorem proper_of_ofJson {v : Json} (read : ofJson v = .ok a) : a.Proper := by
  unfold ofJson at read
  dsimp only at read
  split at read
  case h_2 => cases read
  case h_1 found answered =>
    cases read
    cases v with
    | text s => exact proper_of_parse? answered
    | integer n => exact proper_of_ofValue? answered
    | boolean b => exact proper_of_ofValue? answered
    | _ => cases answered

end Reading

section Writing

theorem plain_of_quad? {n : Nat} (read : quad? cs = some n) : ∀ c ∈ cs, c = '.' ∨ c.isDigit = true := by
  have digits {piece : List Char} {m : Nat} (octet : octet? piece = some m) : ∀ c ∈ piece, c.isDigit = true := by
    unfold octet? at octet
    split at octet
    · cases octet
    case isFalse plain =>
      simp only [Bool.or_eq_true, not_or, Bool.not_eq_true, Bool.not_eq_false'] at plain
      exact List.all_eq_true.mp plain.2
  have whole : List.intercalate ['.'] (cut '.' cs) = cs := join_cut '.' cs
  intro c member
  unfold quad? at read
  split at read
  case h_2 => cases read
  case h_1 p q r s parts =>
    simp only [Option.bind_eq_bind, Option.bind_eq_some_iff] at read
    obtain ⟨_, first, _, second, _, third, _, fourth, _⟩ := read
    rw [← whole, parts] at member
    rcases mem_join member with point | ⟨piece, inside, found⟩
    · exact .inl point
    · simp only [List.mem_cons, List.not_mem_nil, or_false] at inside
      rcases inside with rfl | rfl | rfl | rfl
      · exact .inr (digits first c found)
      · exact .inr (digits second c found)
      · exact .inr (digits third c found)
      · exact .inr (digits fourth c found)

theorem Proper.parse?_text (proper : a.Proper) : parse? a.text = some a := by
  obtain ⟨family, n, scope⟩ := a
  cases scope with
  | none => exact Address.parse?_text family proper.bounded
  | some scope =>
      obtain ⟨six, some_char, no_mark, no_slash⟩ := proper.scopes scope rfl
      cases six
      have spelled : (text ⟨.v6, n, some scope⟩).toList = groupsText n ++ '%' :: scope.toList := by
        rw [text, String.toList_ofList]
        rfl
      have not_four : v4? (groupsText n ++ '%' :: scope.toList) = none := by
        rw [v4?, Option.map_eq_none_iff]
        by_contra four
        obtain ⟨m, read⟩ := Option.ne_none_iff_exists'.mp four
        have mark := plain_of_quad? read '%' (List.mem_append_right _ List.mem_cons_self)
        exact absurd mark (by decide)
      have unslashed : '/' ∉ groupsText n ++ '%' :: scope.toList := by
        simp [mark_free_groupsText n '/' (by simp), no_slash]
      have divided := cutFirst_append_mark '%' (mark_free_groupsText n '%' (by simp)) scope.toList
      have some_char : scope.toList.isEmpty = false := List.isEmpty_eq_false_iff.mpr some_char
      have read : groupsValue? (groupsText n) = some n := groupsValue?_groupsText proper.bounded
      rw [parse?, spelled, not_four]
      simp [v6?, unslashed, divided, some_char, no_mark, read]

/-- Two addresses have one text just if they are one address. -/
theorem Proper.text_inj (left : a.Proper) (right : b.Proper) : a.text = b.text ↔ a = b := by
  refine ⟨fun same => ?_, congrArg text⟩
  have read := left.parse?_text
  rw [same, right.parse?_text] at read
  exact (Option.some.inj read).symm

theorem plain_groupsText (n : Nat) : ∀ c ∈ groupsText n, isBlank c = false := by
  have digits (d : Nat) (small : d < 16) : isBlank d.digitChar = false := by
    revert d
    decide
  have joined (gs : List Nat) : ∀ c ∈ joinGroups gs, isBlank c = false := by
    intro c member
    rcases mem_join member with rfl | ⟨piece, inside, found⟩
    · decide
    · obtain ⟨g, _, rfl⟩ := List.mem_map.mp inside
      obtain ⟨d, small, rfl⟩ := mem_hexDigits found
      exact digits d small
  unfold groupsText
  dsimp only
  split
  · exact joined _
  · intro c member
    simp only [List.append_assoc, List.mem_append, List.mem_cons, List.not_mem_nil, or_false, or_self] at member
    rcases member with before | rfl | after
    · exact joined _ c before
    · decide
    · exact joined _ c after

theorem plain_quadText {n : Nat} (bounded : n < 2 ^ 32) : ∀ c ∈ quadText n, isBlank c = false := by
  intro c member
  rcases plain_of_quad? (quad?_quadText bounded) c member with rfl | digit
  · decide
  · have within : 48 ≤ c.toNat ∧ c.toNat ≤ 57 :=
      @toNat_between '0' '9' c (by simpa [Char.isDigit, Char.le_def] using digit)
    unfold isBlank
    simp
    omega

theorem trim_of_plain (plain : ∀ c ∈ cs, isBlank c = false) : trim cs = cs :=
  trim_eq_self (fun c first => plain c (List.mem_of_head? first)) (fun c last => plain c (List.mem_of_getLast? last))

theorem trim_scoped {n : Nat} {scope : List Char} (some_char : scope ≠ [])
    (ends : ∀ c ∈ scope.getLast?, isBlank c = false) :
    trim (groupsText n ++ '%' :: scope) = groupsText n ++ '%' :: scope := by
  apply trim_eq_self
  · intro c first
    rcases group : groupsText n with _ | ⟨d, ds⟩
    · rw [group, List.nil_append, List.head?_cons, Option.mem_some_iff] at first
      rw [← first]
      decide
    · rw [group, List.cons_append, List.head?_cons, Option.mem_some_iff] at first
      rw [← first]
      exact plain_groupsText n d (group ▸ List.mem_cons_self)
  · rw [getLast?_append_mark some_char]
    exact ends

theorem Proper.trimmed_text (proper : a.Proper)
    (ends : ∀ scope, a.scope = some scope → ∀ c ∈ scope.toList.getLast?, isBlank c = false) :
    trimmed a.text = a.text := by
  obtain ⟨family, n, scope⟩ := a
  have whole : trim (digits ⟨family, n, scope⟩) = digits ⟨family, n, scope⟩ := by
    cases family with
    | v4 => exact trim_of_plain (plain_quadText proper.bounded)
    | v6 =>
        cases scope with
        | none => exact trim_of_plain (plain_groupsText n)
        | some scope => exact trim_scoped (proper.scopes scope rfl).2.1 (ends scope rfl)
  rw [trimmed, text, String.toList_ofList, whole]

theorem Proper.no_slash (proper : a.Proper) : '/' ∉ a.text.toList := by
  have read := proper.parse?_text
  intro slash
  unfold parse? at read
  split at read
  case h_1 found =>
    obtain ⟨n, value, _⟩ := Option.map_eq_some_iff.mp found
    exact absurd (plain_of_quad? value '/' slash) (by decide)
  case h_2 =>
    unfold v6? at read
    rw [if_pos slash] at read
    cases read

end Writing

end Address

namespace Block
variable {b c : Block}

structure Proper (b : Block) : Prop where
  base : b.base.Proper
  short : b.length ≤ b.base.family.width

theorem proper_single {a : Address} (proper : a.Proper) : (single a).Proper := ⟨proper, Nat.le_refl _⟩

theorem proper_of {a : Address} {length : Nat} (proper : a.Proper) (short : length ≤ a.family.width) :
    (of a length).Proper := by
  unfold of
  dsimp only
  split
  case isTrue => exact ⟨proper, short⟩
  case isFalse => exact ⟨Address.proper_plain (Nat.lt_of_le_of_lt (Nat.sub_le _ _) proper.bounded), short⟩

theorem proper_of_parse? {s : String} (read : parse? s = some b) : b.Proper := by
  unfold parse? at read
  split at read
  · obtain ⟨a, found, rfl⟩ := Option.map_eq_some_iff.mp read
    exact proper_single (Address.proper_of_parse? found)
  · split at read
    case h_1 a found =>
      obtain ⟨length, short, rfl⟩ := Option.map_eq_some_iff.mp read
      refine proper_of (Address.proper_of_v4? found) ?_
      rw [(Address.v4?_eq_some found).1]
      exact v4Length?_le short
    case h_2 =>
      obtain ⟨a, found, rest⟩ := Option.bind_eq_some_iff.mp read
      obtain ⟨length, short, rfl⟩ := Option.map_eq_some_iff.mp rest
      refine proper_of (Address.proper_of_v6? found) ?_
      rw [(Address.v6?_eq_some found).1]
      exact lengthOf?_le short
  · cases read

theorem proper_of_ofJson {v : Json} (read : ofJson v = .ok b) : b.Proper := by
  unfold ofJson at read
  dsimp only at read
  split at read
  case h_2 => cases read
  case h_1 found answered =>
    cases read
    have number {n : Int} (known : (Address.ofValue? n).map single = some b) : b.Proper := by
      obtain ⟨a, found, rfl⟩ := Option.map_eq_some_iff.mp known
      exact proper_single (Address.proper_of_ofValue? found)
    cases v with
    | text s => exact proper_of_parse? answered
    | integer n => exact number answered
    | boolean b => exact number answered
    | _ => cases answered

/-- Two blocks have one text just if they are one block. -/
theorem Proper.text_inj (left : b.Proper) (right : c.Proper) : b.text = c.text ↔ b = c := by
  refine ⟨fun same => ?_, congrArg text⟩
  have parts (b : Block) : b.text.toList = b.base.text.toList ++ '/' :: (toString b.length).toList := by
    rw [text, String.toList_append, String.toList_append, List.append_assoc]
    rfl
  have whole := congrArg String.toList same
  rw [parts, parts] at whole
  have divided := congrArg (Text.cutFirst '/') whole
  rw [Text.cutFirst_append_mark '/' left.base.no_slash, Text.cutFirst_append_mark '/' right.base.no_slash] at divided
  obtain ⟨base, length⟩ := Prod.mk.inj divided
  have bases := (left.base.text_inj right.base).mp (String.toList_inj.mp base)
  have lengths : b.length = c.length := by
    have digits : Nat.toDigits 10 b.length = Nat.toDigits 10 c.length := by
      rw [← Nat.toList_repr, ← Nat.toList_repr]
      exact Option.some.inj length
    rw [← Number.ofDigits_toDigits b.length, digits, Number.ofDigits_toDigits]
  obtain ⟨a, m⟩ := b
  obtain ⟨d, n⟩ := c
  exact congrArg₂ Block.mk bases lengths

/-- A block has all the addresses of its family that share its first bits. -/
def Holds (b : Block) (a : Address) : Prop := a.family = b.base.family ∧ b.first ≤ a.value ∧ a.value ≤ b.last

theorem Proper.alike_of_holds (left : b.Proper) (right : c.Proper) (same : ∀ a, b.Holds a ↔ c.Holds a) :
    b.base.family = c.base.family ∧ b.first = c.first ∧ b.length = c.length := by
  have ends (d : Block) : d.Holds ⟨d.base.family, d.first, none⟩ ∧ d.Holds ⟨d.base.family, d.last, none⟩ := by
    have some_address := d.size_pos
    have ordered : d.first ≤ d.last := by
      unfold last
      omega
    exact ⟨⟨rfl, Nat.le_refl _, ordered⟩, rfl, ordered, Nat.le_refl _⟩
  obtain ⟨family, low, _⟩ := (same _).mp (ends b).1
  obtain ⟨_, _, high⟩ := (same _).mp (ends b).2
  obtain ⟨_, low', _⟩ := (same _).mpr (ends c).1
  obtain ⟨_, _, high'⟩ := (same _).mpr (ends c).2
  have first : b.first = c.first := Nat.le_antisymm low' low
  have last : b.last = c.last := Nat.le_antisymm high high'
  have size : b.size = c.size := by
    have some_left := b.size_pos
    have some_right := c.size_pos
    simp only [Block.last] at last
    omega
  rw [Block.size, Block.size, span_eq, span_eq, family] at size
  have unshared : c.base.family.width - b.length = c.base.family.width - c.length :=
    Nat.pow_right_injective (Nat.le_refl 2) size
  have short : b.length ≤ c.base.family.width := family ▸ left.short
  have short' := right.short
  exact ⟨family, first, by omega⟩

/-- Blocks are the same just if they have the same addresses and their bases the same scope. -/
theorem Proper.eq_iff (left : b.Proper) (right : c.Proper) :
    b = c ↔ (∀ a, b.Holds a ↔ c.Holds a) ∧ b.base.scope = c.base.scope := by
  refine ⟨fun same => same ▸ ⟨fun _ => Iff.rfl, rfl⟩, fun ⟨same, scope⟩ => ?_⟩
  obtain ⟨family, first, length⟩ := left.alike_of_holds right same
  obtain ⟨⟨_, _, _⟩, _⟩ := b
  obtain ⟨⟨_, _, _⟩, _⟩ := c
  cases family
  cases first
  cases length
  cases scope
  rfl

end Block

end PodAddressing
