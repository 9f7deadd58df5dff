import PodAddressing.Document
import PodAddressing.Proofs.Text.Digits
/-!
Texts inside documents. A text is written as its code units, each as itself or escaped, and the units that are read
back are joined to the same characters. Only a first half that stands before a second one without being one character
with it comes back as that character.
-/

namespace PodAddressing

namespace Text

def isHighHalf (c : Char) : Bool := (half? c).any isHighUnit
def isLowHalf (c : Char) : Bool := (half? c).any isLowUnit

/-- Whether no first half stands before a second one. -/
def isWhole : List Char → Bool
  | c :: d :: rest => !(isHighHalf c && isLowHalf d) && isWhole (d :: rest)
  | _ => true

def Apart (c : Char) (cs : List Char) : Prop := isHighHalf c = true → ∀ d ∈ cs.head?, isLowHalf d = false

theorem isWhole_cons {c : Char} {cs : List Char} (apart : Apart c cs) : isWhole (c :: cs) = isWhole cs := by
  cases cs with
  | nil => rfl
  | cons d rest =>
      rw [isWhole, Bool.and_eq_right_iff_imp, Bool.not_eq_true', Bool.and_eq_false_imp]
      exact fun _ high => apart high d rfl

def codeUnits (n : Nat) : List Nat :=
  if n < 0x10000 then [n] else [0xd800 + (n - 0x10000) / 0x400, 0xdc00 + (n - 0x10000) % 0x400]

/-- The code units of a character; one that stands for a half is that half. -/
def units (c : Char) : List Nat := (half? c).elim (codeUnits c.toNat) fun n => [n]

section Units
variable {c : Char} {n : Nat}

theorem half?_eq_some (half : half? c = some n) :
    (isHighUnit n || isLowUnit n) = true ∧ Char.ofNat (halfOffset + n) = c := by
  obtain ⟨same, inside⟩ := Option.filter_eq_some_iff.mp half
  refine ⟨inside, ?_⟩
  have value : c.toNat - halfOffset = n := Option.some.inj same
  have above : halfOffset + n = c.toNat := by
    simp only [isHighUnit, isLowUnit, Bool.or_eq_true, Bool.and_eq_true, decide_eq_true_eq] at inside
    omega
  rw [above, Char.ofNat_toNat]

theorem toNat_not_unit (c : Char) : isHighUnit c.toNat = false ∧ isLowUnit c.toNat = false := by
  have valid := c.valid
  simp only [UInt32.isValidChar, Nat.isValidChar] at valid
  have same : c.val.toNat = c.toNat := rfl
  simp only [isHighUnit, isLowUnit, Bool.and_eq_false_iff, decide_eq_false_iff_not]
  omega

theorem units_of_half (half : half? c = some n) : units c = [n] := by
  rw [units, half, Option.elim_some]

theorem half?_of_lt (below : c.toNat < 0xe000) : half? c = none := by
  cases half : half? c with
  | none => rfl
  | some n =>
      obtain ⟨same, inside⟩ := Option.filter_eq_some_iff.mp half
      have value : c.toNat - halfOffset = n := Option.some.inj same
      simp only [isHighUnit, isLowUnit, Bool.or_eq_true, Bool.and_eq_true, decide_eq_true_eq] at inside
      unfold halfOffset at value
      omega

theorem units_narrow (unhalved : half? c = none) (narrow : c.toNat < 0x10000) : units c = [c.toNat] := by
  rw [units, unhalved, Option.elim_none, codeUnits, if_pos narrow]

theorem units_wide (unhalved : half? c = none) (wide : ¬ c.toNat < 0x10000) :
    units c = [0xd800 + (c.toNat - 0x10000) / 0x400, 0xdc00 + (c.toNat - 0x10000) % 0x400] := by
  rw [units, unhalved, Option.elim_none, codeUnits, if_neg wide]

theorem toNat_lt (c : Char) : c.toNat < 0x110000 := by
  have valid := c.valid
  simp only [UInt32.isValidChar, Nat.isValidChar] at valid
  have same : c.val.toNat = c.toNat := rfl
  omega

theorem ofUnit_of_half (half : half? c = some n) : ofUnit n = c := by
  obtain ⟨inside, back⟩ := half?_eq_some half
  rw [ofUnit, if_pos inside, back]

theorem ofUnit_toNat (c : Char) : ofUnit c.toNat = c := by
  obtain ⟨high, low⟩ := toNat_not_unit c
  rw [ofUnit, high, low, if_neg (by decide), Char.ofNat_toNat]

end Units
end Text

namespace Json

open Text

section Joining

theorem joinUnits_cons {n : Nat} {us : List Nat}
    (apart : isHighUnit n = true → ∀ m ∈ us.head?, isLowUnit m = false) :
    joinUnits (n :: us) = ofUnit n :: joinUnits us := by
  cases us with
  | nil => rfl
  | cons m us =>
      rw [joinUnits, if_neg]
      intro both
      obtain ⟨high, low⟩ := Bool.and_eq_true_iff.mp both
      rw [apart high m rfl] at low
      cases low

theorem joinUnits_pair {n : Nat} (low : 0x10000 ≤ n) (high : n < 0x110000) (us : List Nat) :
    joinUnits ((0xd800 + (n - 0x10000) / 0x400) :: (0xdc00 + (n - 0x10000) % 0x400) :: us) =
      Char.ofNat n :: joinUnits us := by
  have back : 0x10000 + (0xd800 + (n - 0x10000) / 0x400 - 0xd800) * 0x400 +
      (0xdc00 + (n - 0x10000) % 0x400 - 0xdc00) = n := by
    omega
  rw [joinUnits, if_pos, back]
  simp only [isHighUnit, isLowUnit, Bool.and_eq_true, decide_eq_true_eq]
  omega

theorem isLowUnit_head (c : Char) : ∃ n us, units c = n :: us ∧ isLowUnit n = isLowHalf c := by
  cases half : half? c with
  | some n => exact ⟨n, [], units_of_half half, by rw [isLowHalf, half, Option.any_some]⟩
  | none =>
      rw [isLowHalf, half, Option.any_none]
      by_cases narrow : c.toNat < 0x10000
      · exact ⟨_, _, units_narrow half narrow, (toNat_not_unit c).2⟩
      · refine ⟨_, _, units_wide half narrow, ?_⟩
        have bound := toNat_lt c
        simp only [isLowUnit, Bool.and_eq_false_iff, decide_eq_false_iff_not]
        omega

/-- The units of a character that begins no pair are joined to the character. -/
theorem joinUnits_units_cons {c : Char} {cs : List Char} (apart : Apart c cs) :
    joinUnits ((c :: cs).flatMap units) = c :: joinUnits (cs.flatMap units) := by
  rw [List.flatMap_cons]
  cases half : half? c with
  | some n =>
      have high : isHighUnit n = isHighHalf c := by
        rw [isHighHalf, half, Option.any_some]
      have begins (first : isHighUnit n = true) : ∀ m ∈ (cs.flatMap units).head?, isLowUnit m = false := by
        cases cs with
        | nil => simp
        | cons d rest =>
            obtain ⟨m, us, spelled, same⟩ := isLowUnit_head d
            rw [List.flatMap_cons, spelled]
            simpa [same] using apart (high.symm.trans first) d rfl
      rw [units_of_half half, List.singleton_append, joinUnits_cons begins, ofUnit_of_half half]
  | none =>
      by_cases narrow : c.toNat < 0x10000
      · rw [units_narrow half narrow, List.singleton_append, joinUnits_cons, ofUnit_toNat]
        intro high
        rw [(toNat_not_unit c).1] at high
        cases high
      · rw [units_wide half narrow, List.cons_append, List.singleton_append,
          joinUnits_pair (Nat.not_lt.mp narrow) (toNat_lt c), Char.ofNat_toNat]

end Joining

section Escaping

theorem hexUnit?_hexDigits {n : Nat} (small : n < 0x10000) :
    ∃ a b c d, Text.hexDigits 4 n = [a, b, c, d] ∧ hexUnit? a b c d = some n := by
  refine ⟨_, _, _, _, rfl, ?_⟩
  have digit (k : Nat) : Text.hexValue? (Nat.digitChar (n >>> (4 * k) % 16)) = some (n >>> (4 * k) % 16) :=
    Text.hexValue?_digitChar (Nat.mod_lt _ (by decide))
  simp only [hexUnit?, Text.hexNumber?, List.foldlM_cons, List.foldlM_nil, digit, Option.map_some,
    Option.bind_eq_bind, Option.bind_some, Option.pure_def, Option.some.injEq]
  simp only [Nat.shiftRight_eq_div_pow]
  omega

theorem readUnits_unitEscape {n : Nat} (small : n < 0x10000) (rest : List Char) :
    readUnits (unitEscape n ++ rest) = (readUnits rest).map fun (us, tail) => (n :: us, tail) := by
  obtain ⟨a, b, c, d, digits, value⟩ := hexUnit?_hexDigits small
  rw [unitEscape, digits]
  change readUnits ('\\' :: 'u' :: a :: b :: c :: d :: rest) = _
  rw [readUnits, value]

theorem readUnits_simple {mark e : Char} (named : mark ≠ 'u') (simple : simpleEscape? mark = some e)
    (below : e.toNat < 0xe000) (rest : List Char) :
    readUnits (['\\', mark] ++ rest) = (readUnits rest).map fun (us, tail) => (units e ++ us, tail) := by
  have narrow : e.toNat < 0x10000 := by omega
  rw [units_narrow (half?_of_lt below) narrow, List.cons_append, List.singleton_append, readUnits, simple]
  · rfl
  · rintro a b c d rest rfl
    exact absurd rfl named

theorem readUnits_plain {c : Char} (visible : 0x20 ≤ c.toNat) (quote : c ≠ '"') (slash : c ≠ '\\')
    (rest : List Char) : readUnits ([c] ++ rest) = (readUnits rest).map fun (us, tail) => ([c.toNat] ++ us, tail) := by
  rw [List.singleton_append, readUnits]
  · rw [if_neg]
    · rfl
    · simp only [slash, Bool.or_false, decide_eq_true_eq, decide_false]
      omega
  · exact quote
  · exact fun _ _ _ _ _ same => absurd same slash
  · exact fun _ _ same => absurd same slash

theorem escape_of_half {c : Char} {n : Nat} (half : half? c = some n) : escape c = unitEscape n := by
  have above : 0xe000 ≤ c.toNat := by
    by_contra below
    rw [half?_of_lt (Nat.not_le.mp below)] at half
    cases half
  have other (d : Char) (narrow : d.toNat < 0xe000) : c ≠ d := by
    rintro rfl
    omega
  have visible : ¬ (decide (0x20 ≤ c.toNat) && decide (c.toNat ≤ 0x7e)) = true := by
    simp only [Bool.and_eq_true, decide_eq_true_eq]
    omega
  rw [escape, if_neg (other _ (by decide)), if_neg (other _ (by decide)), if_neg (other _ (by decide)),
    if_neg (other _ (by decide)), if_neg (other _ (by decide)), if_neg (other _ (by decide)),
    if_neg (other _ (by decide)), if_neg visible, half]

theorem escape_of_wide {c : Char} (unhalved : half? c = none) (wide : ¬ c.toNat < 0x10000) :
    escape c = unitEscape (0xd800 + (c.toNat - 0x10000) / 0x400) ++
      unitEscape (0xdc00 + (c.toNat - 0x10000) % 0x400) := by
  have other (d : Char) (narrow : d.toNat < 0x10000) : c ≠ d := by
    rintro rfl
    exact wide narrow
  have visible : ¬ (decide (0x20 ≤ c.toNat) && decide (c.toNat ≤ 0x7e)) = true := by
    simp only [Bool.and_eq_true, decide_eq_true_eq]
    omega
  rw [escape, if_neg (other _ (by decide)), if_neg (other _ (by decide)), if_neg (other _ (by decide)),
    if_neg (other _ (by decide)), if_neg (other _ (by decide)), if_neg (other _ (by decide)),
    if_neg (other _ (by decide)), if_neg visible, unhalved]
  exact if_neg wide

theorem readUnits_escape (c : Char) (rest : List Char) :
    readUnits (escape c ++ rest) = (readUnits rest).map fun (us, tail) => (units c ++ us, tail) := by
  cases half : half? c with
  | some n =>
      have inside := (half?_eq_some half).1
      simp only [isHighUnit, isLowUnit, Bool.or_eq_true, Bool.and_eq_true, decide_eq_true_eq] at inside
      rw [escape_of_half half, units_of_half half]
      exact readUnits_unitEscape (by omega) rest
  | none =>
      unfold escape
      rw [half]
      split_ifs with quote slash feed back tab bell form plain narrow
      · subst quote
        exact readUnits_simple (by decide) rfl (by decide) rest
      · subst slash
        exact readUnits_simple (by decide) rfl (by decide) rest
      · subst feed
        exact readUnits_simple (by decide) rfl (by decide) rest
      · subst back
        exact readUnits_simple (by decide) rfl (by decide) rest
      · subst tab
        exact readUnits_simple (by decide) rfl (by decide) rest
      · subst bell
        exact readUnits_simple (by decide) rfl (by decide) rest
      · subst form
        exact readUnits_simple (by decide) rfl (by decide) rest
      · simp only [Bool.and_eq_true, decide_eq_true_eq] at plain
        rw [units_narrow half (by omega)]
        exact readUnits_plain plain.1 quote slash rest
      · rw [units_narrow half narrow]
        exact readUnits_unitEscape narrow rest
      · have bound := toNat_lt c
        rw [units_wide half narrow, List.append_assoc, readUnits_unitEscape (by omega),
          readUnits_unitEscape (by omega)]
        cases readUnits rest <;> rfl

theorem readUnits_escapes (cs rest : List Char) :
    readUnits (cs.flatMap escape ++ '"' :: rest) = .ok (cs.flatMap units, rest) := by
  induction cs with
  | nil => rfl
  | cons c cs ih =>
      rw [List.flatMap_cons, List.append_assoc, readUnits_escape, ih, List.flatMap_cons]
      rfl

end Escaping

section Rejoining

/-- The character that two characters stand for the halves of. -/
def ofHalves (c d : Char) : Char :=
  Char.ofNat (0x10000 + ((half? c).getD 0 - 0xd800) * 0x400 + ((half? d).getD 0 - 0xdc00))

/-- The characters with every first half that stands before a second one joined to it. -/
def rejoin : List Char → List Char
  | [] => []
  | [c] => [c]
  | c :: d :: rest =>
      if isHighHalf c && isLowHalf d then ofHalves c d :: rejoin rest else c :: rejoin (d :: rest)

variable {cs : List Char} {c d : Char}

theorem ofHalves_spec (high : isHighHalf c = true) (low : isLowHalf d = true) :
    escape (ofHalves c d) = escape c ++ escape d ∧ half? (ofHalves c d) = none ∧
      ∀ us, joinUnits (units c ++ (units d ++ us)) = ofHalves c d :: joinUnits us := by
  obtain ⟨n, half, first⟩ := (Option.any_eq_true _ _).mp high
  obtain ⟨m, half', second⟩ := (Option.any_eq_true _ _).mp low
  have both : (isHighUnit n && isLowUnit m) = true := by rw [first, second]; rfl
  rw [ofHalves, half, half', Option.getD_some, Option.getD_some]
  simp only [isHighUnit, isLowUnit, Bool.and_eq_true, decide_eq_true_eq] at first second
  set k := 0x10000 + (n - 0xd800) * 0x400 + (m - 0xdc00) with joined
  have value : (Char.ofNat k).toNat = k := by
    have valid : k.isValidChar := by
      simp only [Nat.isValidChar]
      omega
    rw [Char.ofNat, dif_pos valid]
    rfl
  have wide : ¬ (Char.ofNat k).toNat < 0x10000 := by omega
  have unhalved : half? (Char.ofNat k) = none := by
    cases other : half? (Char.ofNat k) with
    | none => rfl
    | some l =>
        obtain ⟨same, inside⟩ := Option.filter_eq_some_iff.mp other
        have back : (Char.ofNat k).toNat - halfOffset = l := Option.some.inj same
        simp only [isHighUnit, isLowUnit, Bool.or_eq_true, Bool.and_eq_true, decide_eq_true_eq] at inside
        unfold halfOffset at back
        omega
  refine ⟨?_, unhalved, fun us => ?_⟩
  · have beginning : 0xd800 + (k - 0x10000) / 0x400 = n := by omega
    have ending : 0xdc00 + (k - 0x10000) % 0x400 = m := by omega
    rw [escape_of_half half, escape_of_half half', escape_of_wide unhalved wide, value, beginning, ending]
  · rw [units_of_half half, units_of_half half', List.singleton_append, List.singleton_append, joinUnits,
      if_pos both]

theorem apart_of_not {rest : List Char} (unpaired : ¬ (isHighHalf c && isLowHalf d) = true) :
    Apart c (d :: rest) := by
  rintro high _ ⟨⟩
  rw [high, Bool.true_and] at unpaired
  exact Bool.eq_false_iff.mpr unpaired

/-- The units of a text are joined to its characters, but for the halves that make one. -/
theorem joinUnits_units (cs : List Char) : joinUnits (cs.flatMap units) = rejoin cs := by
  fun_induction rejoin cs with
  | case1 => rfl
  | case2 c => exact joinUnits_units_cons fun _ _ none => nomatch none
  | case3 c d rest paired ih =>
      obtain ⟨high, low⟩ := Bool.and_eq_true_iff.mp paired
      rw [List.flatMap_cons, List.flatMap_cons, (ofHalves_spec high low).2.2, ih]
  | case4 c d rest unpaired ih => rw [joinUnits_units_cons (apart_of_not unpaired), ih]

theorem escape_rejoin (cs : List Char) : (rejoin cs).flatMap escape = cs.flatMap escape := by
  fun_induction rejoin cs with
  | case1 => rfl
  | case2 c => rfl
  | case3 c d rest paired ih =>
      obtain ⟨high, low⟩ := Bool.and_eq_true_iff.mp paired
      rw [List.flatMap_cons, List.flatMap_cons, List.flatMap_cons, ih, (ofHalves_spec high low).1,
        List.append_assoc]
  | case4 c d rest unpaired ih => rw [List.flatMap_cons, ih, ← List.flatMap_cons]

theorem head_rejoin_of_low (low : isLowHalf d = true) (first : d ∈ (rejoin cs).head?) : d ∈ cs.head? := by
  revert first
  fun_cases rejoin cs with
  | case1 | case2 => exact id
  | case3 c d' rest paired =>
      intro first
      obtain ⟨high, low'⟩ := Bool.and_eq_true_iff.mp paired
      rw [← Option.some.inj first, isLowHalf, (ofHalves_spec high low').2.1] at low
      cases low
  | case4 c d' rest unpaired => exact id

theorem isWhole_rejoin (cs : List Char) : isWhole (rejoin cs) = true := by
  fun_induction rejoin cs with
  | case1 => rfl
  | case2 c => rfl
  | case3 c d rest paired ih =>
      obtain ⟨high, low⟩ := Bool.and_eq_true_iff.mp paired
      have alone : Apart (ofHalves c d) (rejoin rest) := by
        intro high'
        rw [isHighHalf, (ofHalves_spec high low).2.1] at high'
        cases high'
      rw [isWhole_cons alone, ih]
  | case4 c d rest unpaired ih =>
      have alone : Apart c (rejoin (d :: rest)) := by
        intro high e first
        by_contra low
        have low : isLowHalf e = true := Bool.not_eq_false _ ▸ low
        rw [apart_of_not unpaired high e (head_rejoin_of_low low first)] at low
        cases low
      rw [isWhole_cons alone, ih]

theorem rejoin_of_whole (whole : isWhole cs = true) : rejoin cs = cs := by
  fun_induction rejoin cs with
  | case1 => rfl
  | case2 c => rfl
  | case3 c d rest paired ih =>
      rw [isWhole, paired] at whole
      cases whole
  | case4 c d rest unpaired ih => rw [ih (isWhole_cons (apart_of_not unpaired) ▸ whole)]

theorem length_rejoin_le (cs : List Char) : (rejoin cs).length ≤ cs.length := by
  fun_induction rejoin cs with
  | case1 => exact Nat.le_refl _
  | case2 c => exact Nat.le_refl _
  | case3 c d rest paired ih =>
      simp only [List.length_cons]
      omega
  | case4 c d rest unpaired ih => exact Nat.succ_le_succ ih

theorem length_rejoin_lt (broken : isWhole cs = false) : (rejoin cs).length < cs.length := by
  fun_induction rejoin cs with
  | case1 => cases broken
  | case2 c => cases broken
  | case3 c d rest paired ih =>
      have shorter := length_rejoin_le rest
      simp only [List.length_cons]
      omega
  | case4 c d rest unpaired ih => exact Nat.succ_lt_succ (ih (isWhole_cons (apart_of_not unpaired) ▸ broken))

def rejoined (s : String) : String := String.ofList (rejoin s.toList)

theorem isWhole_rejoined (s : String) : isWhole (rejoined s).toList = true := by
  rw [rejoined, String.toList_ofList]
  exact isWhole_rejoin s.toList

theorem rejoined_of_whole {s : String} (whole : isWhole s.toList = true) : rejoined s = s := by
  rw [rejoined, rejoin_of_whole whole, String.ofList_toList]

theorem writeText_rejoined (s : String) : writeText (rejoined s) = writeText s := by
  rw [writeText, writeText, rejoined, String.toList_ofList, escape_rejoin]

theorem length_rejoined (s : String) : (rejoined s).length ≤ s.length ∧
    (isWhole s.toList = false → (rejoined s).length < s.length) := by
  rw [rejoined, String.length_ofList, ← String.length_toList]
  exact ⟨length_rejoin_le s.toList, length_rejoin_lt⟩

/-- A whole text is read back as it was written, whatever follows it. -/
theorem readText_writeText {s : String} (whole : isWhole s.toList = true) (rest : List Char) :
    readText (s.toList.flatMap escape ++ '"' :: rest) = .ok (s, rest) := by
  rw [readText, readUnits_escapes]
  simp only [Except.map, joinUnits_units, rejoin_of_whole whole, String.ofList_toList]

end Rejoining

end Json
end PodAddressing
