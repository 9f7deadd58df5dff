import Mathlib.Data.List.TakeWhile
import PodAddressing.Address.Basic
import PodAddressing.Address.Block
import PodAddressing.Proofs.Text.Digits
import PodAddressing.Proofs.Text.Pieces
/-!
Addresses and their texts. What is read has a value of its family's width, and an address without a scope is
read back from its text, whichever run of zero groups the text leaves out.
-/

namespace PodAddressing

namespace Address

open Text

section Octets

theorem octet?_toDigits {n : Nat} (small : n ≤ 255) : octet? (Nat.toDigits 10 n) = some n := by
  have short : (Nat.toDigits 10 n).length ≤ 3 :=
    (Nat.length_toDigits_le_iff (by decide) (by decide)).mpr (by omega)
  have lead : ¬ (1 < (Nat.toDigits 10 n).length ∧ (Nat.toDigits 10 n).head? = some '0') := by
    rintro ⟨long, zero⟩
    by_cases positive : 0 < n
    · exact Number.head_toDigits_ne_zero positive zero
    · have nothing : n = 0 := by omega
      subst nothing
      simp at long
  have digits := Number.all_isDigit_toDigits n
  unfold octet?
  rw [if_neg, if_neg, Number.ofDigits_toDigits]
  · simp [small]
  · simpa using lead
  · simp [Nat.not_lt.mpr short, digits]

theorem octet?_le {cs : List Char} {n : Nat} (read : octet? cs = some n) : n ≤ 255 := by
  unfold octet? at read
  split at read
  · cases read
  · split at read
    · cases read
    · simp only at read
      split at read
      case isTrue small =>
        cases read
        exact small
      case isFalse => cases read

theorem quad?_lt {cs : List Char} {n : Nat} (read : quad? cs = some n) : n < 2 ^ 32 := by
  unfold quad? at read
  split at read
  · simp only [Option.bind_eq_bind, Option.bind_eq_some_iff] at read
    obtain ⟨a, first, b, second, c, third, d, fourth, value⟩ := read
    have := octet?_le first
    have := octet?_le second
    have := octet?_le third
    have := octet?_le fourth
    have spelled : ((a * 256 + b) * 256 + c) * 256 + d = n := Option.some.inj value
    omega
  · cases read

theorem point_free (n : Nat) : '.' ∉ Nat.toDigits 10 n := by
  intro member
  have digit := Nat.isDigit_of_mem_toDigits (by decide) (by decide) member
  simp at digit

theorem cut_quadText (n : Nat) : cut '.' (quadText n) = (octets n).map (Nat.toDigits 10) := by
  apply cut_join
  · intro piece member
    obtain ⟨octet, _, rfl⟩ := List.mem_map.mp member
    exact point_free octet
  · simp [octets]

theorem quad?_quadText {n : Nat} (bounded : n < 2 ^ 32) : quad? (quadText n) = some n := by
  have small (m : Nat) : octet? (Nat.toDigits 10 (m % 256)) = some (m % 256) :=
    octet?_toDigits (by omega)
  unfold quad?
  rw [cut_quadText]
  simp only [octets, List.map_cons, List.map_nil, small, Option.bind_eq_bind, Option.bind_some,
    Option.pure_def, Option.some.injEq]
  omega

end Octets

section Groups

theorem group?_toDigits {g : Nat} (small : g < 2 ^ 16) : group? (Nat.toDigits 16 g) = some g := by
  have short : (Nat.toDigits 16 g).length ≤ 4 :=
    (Nat.length_toDigits_le_iff (by decide) (by decide)).mpr (by omega)
  unfold group?
  rw [if_neg (by simp [Nat.not_lt.mpr short]), hexNumber?_toDigits]

theorem group?_lt {cs : List Char} {g : Nat} (read : group? cs = some g) : g < 2 ^ 16 := by
  unfold group? at read
  split at read
  case isTrue => cases read
  case isFalse short =>
    have few : cs.length ≤ 4 := by simp at short; omega
    have bound := hexNumber?_lt read
    have most : 16 ^ cs.length ≤ 16 ^ 4 := Nat.pow_le_pow_right (by decide) few
    omega

theorem mark_free (g : Nat) {mark : Char} (listed : mark ∈ [':', '.', '/', '%', '-']) :
    mark ∉ Nat.toDigits 16 g := by
  intro member
  obtain ⟨d, small, same⟩ := mem_hexDigits member
  subst same
  have other : ∀ d < 16, d.digitChar ∉ [':', '.', '/', '%', '-'] := by decide
  exact other d small listed

theorem mapM_group? {gs : List Nat} (small : ∀ g ∈ gs, g < 2 ^ 16) :
    (gs.map (Nat.toDigits 16)).mapM group? = some gs := by
  induction gs with
  | nil => rfl
  | cons g rest ih =>
      simp only [List.forall_mem_cons] at small
      simp [group?_toDigits small.1, ih small.2]

theorem mapM_group?_lt {parts : List (List Char)} {gs : List Nat}
    (read : parts.mapM group? = some gs) : ∀ g ∈ gs, g < 2 ^ 16 := by
  induction parts generalizing gs with
  | nil =>
      cases read
      simp
  | cons part rest ih =>
      simp only [List.mapM_cons, Option.bind_eq_bind, Option.bind_eq_some_iff] at read
      obtain ⟨g, first, tail, others, whole⟩ := read
      cases whole
      exact List.forall_mem_cons.mpr ⟨group?_lt first, ih others⟩

theorem side?_lt {parts : List (List Char)} {gs : List Nat} (read : side? parts = some gs) :
    ∀ g ∈ gs, g < 2 ^ 16 := by
  unfold side? at read
  split at read
  · cases read
    simp
  · exact mapM_group?_lt read

theorem ofGroups_append (gs : List Nat) (g : Nat) :
    ofGroups (gs ++ [g]) = 2 ^ 16 * ofGroups gs + g := by
  simp [ofGroups, List.foldl_append, Nat.shiftLeft_eq, Nat.mul_comm]

theorem ofGroups_lt {gs : List Nat} (small : ∀ g ∈ gs, g < 2 ^ 16) :
    ofGroups gs < 2 ^ (16 * gs.length) := by
  induction gs using List.reverseRecOn with
  | nil => simp [ofGroups]
  | append_singleton gs g ih =>
      have high := ih fun g' member => small g' (by simp [member])
      have low := small g (by simp)
      rw [ofGroups_append, List.length_append, List.length_singleton, Nat.mul_add, Nat.pow_add]
      omega

theorem groupsValue?_lt {cs : List Char} {n : Nat} (read : groupsValue? cs = some n) :
    n < 2 ^ 128 := by
  have bounded {gs : List Nat} (small : ∀ g ∈ gs, g < 2 ^ 16) (eight : gs.length = 8)
      (whole : ofGroups gs = n) : n < 2 ^ 128 := by
    have bound := ofGroups_lt small
    rw [eight, whole] at bound
    exact bound
  unfold groupsValue? at read
  simp only [Option.bind_eq_bind, Option.bind_eq_some_iff] at read
  obtain ⟨parts, _, read⟩ := read
  split at read
  case h_1 before after _ =>
    obtain ⟨high, left, rest⟩ := Option.bind_eq_some_iff.mp read
    obtain ⟨low, right, value⟩ := Option.bind_eq_some_iff.mp rest
    split at value
    case isTrue few =>
      have whole : ofGroups (high ++ List.replicate (8 - (high.length + low.length)) 0 ++ low) = n :=
        Option.some.inj value
      refine bounded ?_ ?_ whole
      · intro g member
        simp only [List.mem_append, List.mem_replicate] at member
        rcases member with (above | zero) | below
        · exact side?_lt left g above
        · omega
        · exact side?_lt right g below
      · simp only [List.length_append, List.length_replicate]
        omega
    case isFalse => cases value
  case h_2 =>
    obtain ⟨gs, groups, value⟩ := Option.bind_eq_some_iff.mp read
    split at value
    case isTrue eight => exact bounded (mapM_group?_lt groups) eight (Option.some.inj value)
    case isFalse => cases value

theorem ofGroups_groups {n : Nat} (bounded : n < 2 ^ 128) : ofGroups (groups n) = n := by
  simp only [ofGroups, groups, List.range, List.range.loop, List.map_cons, List.map_nil,
    List.foldl_cons, List.foldl_nil]
  omega

theorem groups_lt (n : Nat) : ∀ g ∈ groups n, g < 2 ^ 16 := by
  intro g member
  obtain ⟨i, _, rfl⟩ := List.mem_map.mp member
  exact Nat.mod_lt _ (by decide)

def sideParts (gs : List Nat) : List (List Char) :=
  if gs = [] then [[]] else gs.map (Nat.toDigits 16)

theorem sideParts_ne_nil (gs : List Nat) : sideParts gs ≠ [] := by
  by_cases empty : gs = [] <;> simp [sideParts, empty]

theorem cut_joinGroups (gs : List Nat) : cut ':' (joinGroups gs) = sideParts gs := by
  by_cases empty : gs = []
  · simp [joinGroups, sideParts, empty, cut]
  · rw [joinGroups, sideParts, if_neg empty]
    apply cut_join
    · intro piece member
      obtain ⟨g, _, rfl⟩ := List.mem_map.mp member
      exact mark_free g (by simp)
    · simpa using empty

theorem cut_gap (before after : List Nat) : cut ':' (joinGroups before ++ [':', ':'] ++ joinGroups after) =
    sideParts before ++ [] :: sideParts after := by
  rw [List.append_assoc]
  change cut ':' (joinGroups before ++ ':' :: ([] ++ ':' :: joinGroups after)) = _
  rw [cut_append_mark, cut_append_mark, cut_joinGroups, cut_joinGroups]
  rfl

theorem side?_sideParts {gs : List Nat} (small : ∀ g ∈ gs, g < 2 ^ 16) :
    side? (sideParts gs) = some gs := by
  by_cases empty : gs = []
  · simp [side?, sideParts, empty]
  · obtain ⟨g, rest, rfl⟩ := List.exists_cons_of_ne_nil empty
    have given : (g :: rest).map (Nat.toDigits 16) ≠ [[]] := by simp
    rw [side?, sideParts, if_neg empty, if_neg given]
    exact mapM_group? small

theorem point_free_sideParts (gs : List Nat) : ∀ part ∈ sideParts gs, '.' ∉ part := by
  intro part member
  by_cases empty : gs = []
  · simp only [sideParts, empty, ↓reduceIte, List.mem_singleton] at member
    simp [member]
  · rw [sideParts, if_neg empty] at member
    obtain ⟨g, _, rfl⟩ := List.mem_map.mp member
    exact mark_free g (by simp)

theorem groupParts?_of_free {cs : List Char} (free : ∀ part ∈ cut ':' cs, '.' ∉ part) :
    groupParts? cs = some (cut ':' cs) := by
  unfold groupParts?
  cases last : (cut ':' cs).getLast? with
  | none => simp [last]
  | some tail =>
      have plain := free tail (List.mem_of_getLast? last)
      simp [last, plain]

theorem splitGap?_of_full {parts : List (List Char)} (full : ∀ part ∈ parts, part ≠ []) :
    splitGap? parts = none := by
  cases parts with
  | nil => rfl
  | cons head rest =>
      have nothing : rest.dropWhile (!·.isEmpty) = [] := by
        rw [List.dropWhile_eq_nil_iff]
        intro part member
        simp [full part (List.mem_cons_of_mem head member)]
      simp [splitGap?, nothing]

theorem splitGap?_append (before after : List Nat) :
    splitGap? (sideParts before ++ [] :: sideParts after) =
      some (sideParts before, sideParts after) := by
  obtain ⟨head, rest, left⟩ := List.exists_cons_of_ne_nil (sideParts_ne_nil before)
  obtain ⟨next, others, right⟩ := List.exists_cons_of_ne_nil (sideParts_ne_nil after)
  have full : ∀ part ∈ rest, (!part.isEmpty) = true := by
    intro part member
    by_cases empty : before = []
    · simp only [sideParts, empty, ↓reduceIte, List.cons.injEq] at left
      simp [← left.2] at member
    · have listed : part ∈ sideParts before := by simp [left, member]
      rw [sideParts, if_neg empty] at listed
      obtain ⟨g, _, rfl⟩ := List.mem_map.mp listed
      simp
  rw [left, right, List.cons_append, splitGap?]
  rw [List.takeWhile_append_of_pos full, List.dropWhile_append_of_pos full]
  simp

theorem take_zeroRun_drop (gs : List Nat) (i : Nat) :
    gs.take i ++ List.replicate (zeroRun gs i) 0 ++ gs.drop (i + zeroRun gs i) = gs := by
  have zeros : (gs.drop i).takeWhile (· == 0) = List.replicate (zeroRun gs i) 0 := by
    apply List.eq_replicate_iff.mpr
    refine ⟨rfl, fun g member => ?_⟩
    have zero := List.mem_takeWhile_imp (p := (· == 0)) member
    exact beq_iff_eq.mp zero
  have rest : gs.drop (i + zeroRun gs i) = (gs.drop i).dropWhile (· == 0) := by
    rw [← List.drop_drop]
    conv_lhs => rw [← List.takeWhile_append_dropWhile (p := (· == 0)) (l := gs.drop i)]
    exact List.drop_left' rfl
  rw [← zeros, rest, List.append_assoc, List.takeWhile_append_dropWhile, List.take_append_drop]

theorem length_groups (n : Nat) : (groups n).length = 8 := rfl

theorem groupsValue?_joinGroups {n : Nat} (bounded : n < 2 ^ 128) :
    groupsValue? (joinGroups (groups n)) = some n := by
  have parts := cut_joinGroups (groups n)
  have read : groupParts? (joinGroups (groups n)) = some (sideParts (groups n)) := by
    rw [← parts]
    exact groupParts?_of_free (by rw [parts]; exact point_free_sideParts _)
  have spelled : sideParts (groups n) = (groups n).map (Nat.toDigits 16) :=
    if_neg (List.ne_nil_of_length_pos (by simp [length_groups]))
  have whole : splitGap? (sideParts (groups n)) = none := by
    rw [spelled]
    apply splitGap?_of_full
    intro part member
    obtain ⟨g, _, rfl⟩ := List.mem_map.mp member
    exact Nat.toDigits_ne_nil
  unfold groupsValue?
  simp only [read, Option.bind_eq_bind, Option.bind_some, whole]
  rw [spelled, mapM_group? (groups_lt n)]
  simp [length_groups, ofGroups_groups bounded]

theorem groupsValue?_gap {n start : Nat} (bounded : n < 2 ^ 128)
    (some_zeros : 0 < zeroRun (groups n) start) :
    groupsValue? (joinGroups ((groups n).take start) ++ [':', ':'] ++
      joinGroups ((groups n).drop (start + zeroRun (groups n) start))) = some n := by
  have whole := take_zeroRun_drop (groups n) start
  have small := groups_lt n
  have total := congrArg List.length whole
  generalize (groups n).take start = before at *
  generalize (groups n).drop (start + zeroRun (groups n) start) = after at *
  generalize zeroRun (groups n) start = run at *
  simp only [List.length_append, List.length_replicate, length_groups] at total
  have parts := cut_gap before after
  have read : groupParts? (joinGroups before ++ [':', ':'] ++ joinGroups after) =
      some (sideParts before ++ [] :: sideParts after) := by
    rw [← parts]
    apply groupParts?_of_free
    rw [parts]
    intro part member
    rcases List.mem_append.mp member with left | right
    · exact point_free_sideParts before part left
    · rcases List.mem_cons.mp right with gap | right
      · simp [gap]
      · exact point_free_sideParts after part right
  have left : side? (sideParts before) = some before :=
    side?_sideParts fun g member => small g (by rw [← whole]; simp [member])
  have right : side? (sideParts after) = some after :=
    side?_sideParts fun g member => small g (by rw [← whole]; simp [member])
  have missing : 8 - (before.length + after.length) = run := by omega
  unfold groupsValue?
  simp only [read, Option.bind_eq_bind, Option.bind_some, splitGap?_append, left, right, missing]
  rw [if_pos (by omega), whole, ofGroups_groups bounded]
  rfl

theorem groupsValue?_groupsText {n : Nat} (bounded : n < 2 ^ 128) :
    groupsValue? (groupsText n) = some n := by
  unfold groupsText
  by_cases short : zeroRun (groups n) (gapStart (groups n)) < 2
  · simpa [short] using groupsValue?_joinGroups bounded
  · simpa [short] using groupsValue?_gap bounded (by omega)

theorem mark_free_groupsText (n : Nat) (mark : Char) (listed : mark ∈ ['.', '/', '%', '-']) :
    mark ∉ groupsText n := by
  have apart : mark ≠ ':' := by
    rintro rfl
    simp at listed
  have joined (gs : List Nat) : mark ∉ joinGroups gs := by
    intro member
    rcases mem_join member with same | ⟨piece, inside, found⟩
    · exact apart same
    · obtain ⟨g, _, rfl⟩ := List.mem_map.mp inside
      exact mark_free g (List.mem_cons_of_mem _ listed) found
  unfold groupsText
  by_cases short : zeroRun (groups n) (gapStart (groups n)) < 2
  · simpa [short] using joined (groups n)
  · simp [short, joined, apart]

end Groups

/-- An address without a scope is read back from its text. -/
theorem parse?_text (f : Family) {n : Nat} (bounded : n < 2 ^ f.width) :
    parse? (text ⟨f, n, none⟩) = some ⟨f, n, none⟩ := by
  cases f with
  | v4 =>
      simp [parse?, text, digits, v4?, quad?_quadText bounded]
  | v6 =>
      have plain : v4? (groupsText n) = none := by
        simp [v4?, quad?, cut_of_free '.' (mark_free_groupsText n '.' (by simp))]
      have no_slash := mark_free_groupsText n '/' (by simp)
      have no_scope := cutFirst_of_free '%' (mark_free_groupsText n '%' (by simp))
      simp [parse?, text, digits, plain, v6?, no_slash, no_scope, groupsValue?_groupsText bounded]

theorem v4?_eq_some {cs : List Char} {a : Address} (read : v4? cs = some a) :
    a.family = .v4 ∧ a.value < 2 ^ 32 := by
  obtain ⟨n, value, rfl⟩ := Option.map_eq_some_iff.mp read
  exact ⟨rfl, quad?_lt value⟩

theorem v6?_eq_some {cs : List Char} {a : Address} (read : v6? cs = some a) :
    a.family = .v6 ∧ a.value < 2 ^ 128 := by
  unfold v6? at read
  split at read
  · cases read
  · split at read
    · obtain ⟨n, value, rfl⟩ := Option.map_eq_some_iff.mp read
      exact ⟨rfl, groupsValue?_lt value⟩
    · split at read
      · cases read
      · obtain ⟨n, value, rfl⟩ := Option.map_eq_some_iff.mp read
        exact ⟨rfl, groupsValue?_lt value⟩

/-- The value of an address that was read has no more bits than its family. -/
theorem parse?_lt {s : String} {a : Address} (read : parse? s = some a) :
    a.value < 2 ^ a.family.width := by
  unfold parse? at read
  split at read
  case h_1 found =>
    cases read
    obtain ⟨family, bound⟩ := v4?_eq_some found
    rw [family]
    exact bound
  case h_2 =>
    obtain ⟨family, bound⟩ := v6?_eq_some read
    rw [family]
    exact bound

end Address

/-!
A block that was read lies within the addresses of its family.
-/

namespace Block

theorem span_eq (f : Family) (length : Nat) : span f length = 2 ^ (f.width - length) :=
  Nat.one_shiftLeft _

theorem span_pos (f : Family) (length : Nat) : 0 < span f length := by
  rw [span_eq]
  exact Nat.two_pow_pos _

theorem size_pos (b : Block) : 0 < b.size := span_pos _ _

theorem lengthOf?_le {f : Family} {cs : List Char} {length : Nat}
    (read : lengthOf? f cs = some length) : length ≤ f.width := by
  unfold lengthOf? at read
  split at read
  · cases read
  · simp only at read
    split at read
    case isTrue fits =>
      cases read
      exact fits
    case isFalse => cases read

theorem ofMask?_le {n length : Nat} (read : ofMask? n = some length) : length ≤ 32 := by
  unfold ofMask? at read
  simp only at read
  have listed : length ∈ List.range 33 := by
    split at read
    case h_1 found =>
      cases read
      exact List.mem_of_find?_eq_some found
    case h_2 => exact List.mem_of_find?_eq_some read
  have := List.mem_range.mp listed
  omega

theorem v4Length?_le {cs : List Char} {length : Nat} (read : v4Length? cs = some length) :
    length ≤ 32 := by
  unfold v4Length? at read
  split at read
  case h_1 found =>
    cases read
    exact lengthOf?_le (f := .v4) found
  case h_2 =>
    obtain ⟨mask, _, known⟩ := Option.bind_eq_some_iff.mp read
    exact ofMask?_le known

theorem single_le {a : Address} (bounded : a.value < 2 ^ a.family.width) :
    (single a).first + (single a).size ≤ 2 ^ (single a).base.family.width := by
  simp only [single, first, size, span_eq, Nat.sub_self, Nat.pow_zero]
  omega

theorem of_le {a : Address} {length : Nat} (bounded : a.value < 2 ^ a.family.width)
    (short : length ≤ a.family.width) :
    (of a length).first + (of a length).size ≤ 2 ^ (of a length).base.family.width := by
  have base : (of a length).first = a.value - a.value % span a.family length := by
    unfold of first
    by_cases own : a.value % span a.family length = 0 <;> simp [own]
  have family : (of a length).base.family = a.family := by
    unfold of
    by_cases own : a.value % span a.family length = 0 <;> simp [own]
  have same : (of a length).length = length := by
    unfold of
    by_cases own : a.value % span a.family length = 0 <;> simp [own]
  have room : span a.family length * 2 ^ length = 2 ^ a.family.width := by
    rw [span_eq, ← Nat.pow_add, Nat.sub_add_cancel short]
  have block : a.value / span a.family length < 2 ^ length := by
    apply Nat.div_lt_of_lt_mul
    rw [room]
    exact bounded
  rw [size, base, family, same, ← room]
  calc a.value - a.value % span a.family length + span a.family length
      = span a.family length * (a.value / span a.family length + 1) := by
        have split := Nat.div_add_mod a.value (span a.family length)
        rw [Nat.mul_add, Nat.mul_one]
        omega
    _ ≤ span a.family length * 2 ^ length := Nat.mul_le_mul_left _ block

theorem parse?_le {s : String} {b : Block} (read : parse? s = some b) :
    b.first + b.size ≤ 2 ^ b.base.family.width := by
  unfold parse? at read
  split at read
  · obtain ⟨a, found, rfl⟩ := Option.map_eq_some_iff.mp read
    exact single_le (Address.parse?_lt found)
  · split at read
    case h_1 a found =>
      obtain ⟨family, bound⟩ := Address.v4?_eq_some found
      obtain ⟨length, short, rfl⟩ := Option.map_eq_some_iff.mp read
      apply of_le <;> rw [family]
      · exact bound
      · exact v4Length?_le short
    case h_2 =>
      obtain ⟨a, found, rest⟩ := Option.bind_eq_some_iff.mp read
      obtain ⟨family, bound⟩ := Address.v6?_eq_some found
      obtain ⟨length, short, rfl⟩ := Option.map_eq_some_iff.mp rest
      apply of_le <;> rw [family]
      · exact bound
      · exact lengthOf?_le (f := .v6) short
  · cases read

theorem last_lt_of_ofText {s : String} {b : Block} (read : ofText s = .ok b) :
    b.last < 2 ^ b.base.family.width := by
  have within : b.first + b.size ≤ 2 ^ b.base.family.width := by
    unfold ofText at read
    split at read
    case h_1 found =>
      cases read
      exact parse?_le found
    case h_2 => cases read
  have some_address := b.size_pos
  unfold last
  omega

end Block

end PodAddressing
