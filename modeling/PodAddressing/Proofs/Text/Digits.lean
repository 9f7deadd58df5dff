import Mathlib.Algebra.Ring.Nat
import Mathlib.Data.List.Induction
import Mathlib.Data.List.TakeWhile
import Mathlib.Data.Nat.Digits.Defs
import PodAddressing.Number.Reading
import PodAddressing.Proofs.Basic
import PodAddressing.Text.Basic
/-!
Numbers written out and read back, to the bases ten and sixteen.
-/

namespace PodAddressing

namespace Number

theorem ofDigits_eq_ofDigitChars (cs : List Char) (n : Nat) :
    (cs.map (·.toNat - '0'.toNat)).foldl (fun n d => 10 * n + d) n = Nat.ofDigitChars 10 cs n := by
  rw [Nat.ofDigitChars_eq_foldl, List.foldl_map]

theorem ofDigits_toDigits (n : Nat) :
    ofDigits ((Nat.toDigits 10 n).map (·.toNat - '0'.toNat)) = n := by
  rw [ofDigits, ofDigits_eq_ofDigitChars]
  exact Nat.ofDigitChars_ten_toDigits

theorem all_isDigit_toDigits (n : Nat) : (Nat.toDigits 10 n).all Char.isDigit = true :=
  List.all_eq_true.mpr fun _ member =>
    Nat.isDigit_of_mem_toDigits (by decide) (by decide) member

theorem head_toDigits_ne_zero {n : Nat} (positive : 0 < n) :
    (Nat.toDigits 10 n).head? ≠ some '0' := by
  induction n using Nat.base_induction 10 (by decide) with
  | single m small =>
      rw [Nat.toDigits_of_lt_base small]
      simp only [List.head?_cons, ne_eq, Option.some.injEq, Nat.digitChar_eq_zero]
      omega
  | digit m k small above ih =>
      rw [← Nat.toDigits_append_toDigits (by decide) above small, List.head?_append]
      have lead := ih above
      obtain ⟨c, rest, spelled⟩ := List.exists_cons_of_ne_nil (Nat.toDigits_ne_nil (n := m) (b := 10))
      rw [spelled] at lead ⊢
      simpa using lead

section Numerals
variable {cs tail : List Char} {ds : List Nat} {n : Int}

theorem decimalValue?_lt {c : Char} {d : Nat} (read : Text.decimalValue? c = some d) : d < 10 := by
  obtain ⟨first, found, rfl⟩ := Option.map_eq_some_iff.mp read
  have within := List.find?_some found
  simp only [Bool.and_eq_true, decide_eq_true_eq] at within
  omega

theorem spanDigits_lt {open_ : Bool} (read : spanDigits open_ cs = .ok (ds, tail)) : ∀ d ∈ ds, d < 10 := by
  induction cs generalizing open_ ds with
  | nil =>
      cases open_ with
      | true => cases read
      | false =>
          cases read
          simp
  | cons c rest ih =>
      unfold spanDigits at read
      split at read
      case h_1 d value =>
        obtain ⟨⟨others, _⟩, later, same⟩ := ok_of_map read
        cases same
        exact List.forall_mem_cons.mpr ⟨decimalValue?_lt value, ih later⟩
      case h_2 =>
        split at read
        · cases read
        · split at read
          · exact ih read
          · cases read
            simp

theorem ofDigits_lt (small : ∀ d ∈ ds, d < 10) : ofDigits ds < 10 ^ ds.length := by
  induction ds using List.reverseRecOn with
  | nil => exact Nat.one_pos
  | append_singleton ds d ih =>
      rw [List.forall_mem_append] at small
      have upper := ih small.1
      have lower := small.2 d List.mem_cons_self
      have next : ofDigits (ds ++ [d]) = 10 * ofDigits ds + d := List.foldl_append
      rw [next, List.length_append, List.length_singleton, Nat.pow_succ]
      omega

theorem readInteger_short (read : readInteger cs = .ok n) :
    (Nat.toDigits 10 n.natAbs).length ≤ digitLimit := by
  unfold readInteger at read
  dsimp only at read
  split at read
  case h_1 => cases read
  case h_2 ds tail digits =>
    split at read
    case isTrue => cases read
    case isFalse few =>
      split at read
      case isTrue => cases read
      case isFalse =>
        cases read
        have small : ∀ d ∈ ds, d < 10 := by
          unfold readDigits at digits
          split at digits
          · cases digits
          · exact spanDigits_lt digits
        have magnitude (negative : Bool) : (signed negative (ofDigits ds)).natAbs = ofDigits ds := by
          cases negative <;> simp [signed]
        have below := Nat.pow_le_pow_right (n := 10) (by decide) (Nat.le_of_not_lt few)
        rw [magnitude]
        exact Nat.toDigits_length _ _ _ (by decide) (Nat.lt_of_lt_of_le (ofDigits_lt small) below)

theorem readInteger_nonneg (unsigned : '-' ∉ cs) (read : readInteger cs = .ok n) : 0 ≤ n := by
  have positive : (splitSign (cs.dropWhile Text.isNumeralBlank)).1 = false := by
    unfold splitSign
    split
    case h_1 rest starts =>
      have first : '-' ∈ cs.dropWhile Text.isNumeralBlank := by
        rw [starts]
        exact List.mem_cons_self
      exact absurd ((List.dropWhile_sublist _).mem first) unsigned
    case h_2 => rfl
    case h_3 => rfl
  unfold readInteger at read
  dsimp only at read
  rw [positive] at read
  split at read
  case h_1 => cases read
  case h_2 =>
    split at read
    · cases read
    · split at read
      · cases read
      · cases read
        exact Int.natCast_nonneg _

end Numerals
end Number

namespace Text

theorem hexValue?_digitChar {d : Nat} (small : d < 16) : hexValue? d.digitChar = some d := by
  revert d
  decide

theorem hexNumber?_append (cs : List Char) (c : Char) :
    hexNumber? (cs ++ [c]) =
      (hexNumber? cs).bind fun n => (hexValue? c).map (16 * n + ·) := by
  unfold hexNumber?
  rw [List.foldlM_append]
  simp only [List.foldlM_cons, List.foldlM_nil, bind_pure, Option.bind_eq_bind]

theorem hexNumber?_toDigits (n : Nat) : hexNumber? (Nat.toDigits 16 n) = some n := by
  induction n using Nat.base_induction 16 (by decide) with
  | single m small =>
      rw [Nat.toDigits_of_lt_base small]
      simp [hexNumber?, hexValue?_digitChar small]
  | digit m k small above ih =>
      rw [← Nat.toDigits_append_toDigits (by decide) above small, Nat.toDigits_of_lt_base small,
        hexNumber?_append, ih]
      simp [hexValue?_digitChar small]

theorem toNat_between {low high c : Char}
    (within : (decide (low ≤ c) && decide (c ≤ high)) = true) :
    low.toNat ≤ c.toNat ∧ c.toNat ≤ high.toNat := by
  simpa [Char.le_def, UInt32.le_iff_toNat_le] using within

theorem hexValue?_lt {c : Char} {d : Nat} (read : hexValue? c = some d) : d < 16 := by
  unfold hexValue? at read
  split at read
  case isTrue digit =>
    have between : 48 ≤ c.toNat ∧ c.toNat ≤ 57 :=
      @toNat_between '0' '9' c (by simpa [Char.isDigit, Char.le_def] using digit)
    have value : c.toNat - 48 = d := Option.some.inj read
    omega
  case isFalse =>
    split at read
    case isTrue lower =>
      have between : 97 ≤ c.toNat ∧ c.toNat ≤ 102 := toNat_between lower
      have value : c.toNat - 97 + 10 = d := Option.some.inj read
      omega
    case isFalse =>
      split at read
      case isTrue upper =>
        have between : 65 ≤ c.toNat ∧ c.toNat ≤ 70 := toNat_between upper
        have value : c.toNat - 65 + 10 = d := Option.some.inj read
        omega
      case isFalse => cases read

theorem hexNumber?_lt {cs : List Char} {n : Nat} (read : hexNumber? cs = some n) :
    n < 16 ^ cs.length := by
  induction cs using List.reverseRecOn generalizing n with
  | nil =>
      cases read
      decide
  | append_singleton cs c ih =>
      rw [hexNumber?_append] at read
      obtain ⟨high, before, last⟩ := Option.bind_eq_some_iff.mp read
      obtain ⟨low, digit, rfl⟩ := Option.map_eq_some_iff.mp last
      have upper := ih before
      have lower := hexValue?_lt digit
      rw [List.length_append, List.length_singleton, Nat.pow_succ]
      omega

theorem mem_hexDigits {c : Char} {n : Nat} (member : c ∈ Nat.toDigits 16 n) :
    ∃ d, d < 16 ∧ c = d.digitChar := by
  induction n using Nat.base_induction 16 (by decide) with
  | single m small =>
      rw [Nat.toDigits_of_lt_base small, List.mem_singleton] at member
      exact ⟨m, small, member⟩
  | digit m k small above ih =>
      rw [← Nat.toDigits_append_toDigits (by decide) above small, List.mem_append] at member
      rcases member with high | low
      · exact ih high
      · rw [Nat.toDigits_of_lt_base small, List.mem_singleton] at low
        exact ⟨k, small, low⟩

end Text

/-!
Numerals that are digits from end to end. A decimal digit counts whatever script it is of. A digit sign is taken for a
digit and ends the numeral all the same, so it is left over and spoils the whole.
-/

namespace Text
variable {c : Char}

theorem exists_range_of_isDigit (digit : isDigit c = true) :
    (∃ first ∈ zeros, ∃ d < 10, Char.ofNat (first + d) = c) ∨
      ∃ run ∈ digitSigns, ∃ d ≤ run.2 - run.1, Char.ofNat (run.1 + d) = c := by
  have named {start : Nat} (above : start ≤ c.toNat) : Char.ofNat (start + (c.toNat - start)) = c := by
    rw [Nat.add_sub_cancel' above, Char.ofNat_toNat]
  rcases Bool.or_eq_true_iff.mp digit with decimal | sign
  · obtain ⟨d, value⟩ := Option.isSome_iff_exists.mp decimal
    obtain ⟨first, found, _⟩ := Option.map_eq_some_iff.mp value
    have within := List.find?_some found
    simp only [Bool.and_eq_true, decide_eq_true_eq] at within
    exact .inl ⟨first, List.mem_of_find?_eq_some found, c.toNat - first, by omega, named within.1⟩
  · obtain ⟨run, listed, within⟩ := List.any_eq_true.mp sign
    simp only [Bool.and_eq_true, decide_eq_true_eq] at within
    exact .inr ⟨run, listed, c.toNat - run.1, by omega, named within.1⟩

theorem isBlank_of_isDigit (digit : isDigit c = true) : isBlank c = false := by
  have decimals : ∀ first ∈ zeros, ∀ d < 10, isBlank (Char.ofNat (first + d)) = false := by decide +kernel
  have signs : ∀ run ∈ digitSigns, ∀ d ≤ run.2 - run.1, isBlank (Char.ofNat (run.1 + d)) = false := by
    decide +kernel
  rcases exists_range_of_isDigit digit with ⟨first, listed, d, small, rfl⟩ | ⟨run, listed, d, small, rfl⟩
  · exact decimals first listed d small
  · exact signs run listed d small

theorem isNumeralBlank_of_isDigit (digit : isDigit c = true) : isNumeralBlank c = false := by
  rw [isNumeralBlank, isBlank_of_isDigit digit, Bool.false_and]

end Text

namespace Number
open Text
variable {cs : List Char}

def leading (cs : List Char) : List Nat := (cs.takeWhile isDecimal).filterMap decimalValue?

theorem spanDigits_of_digits (digits : ∀ c ∈ cs, isDigit c = true) :
    spanDigits false cs = .ok (leading cs, cs.dropWhile isDecimal) := by
  induction cs with
  | nil => rfl
  | cons c rest ih =>
      obtain ⟨digit, others⟩ := List.forall_mem_cons.mp digits
      unfold spanDigits
      cases value : decimalValue? c with
      | some d =>
          have decimal : isDecimal c = true := by rw [isDecimal, value, Option.isSome_some]
          simp [ih others, leading, decimal, value, Except.map]
      | none =>
          have sign : isDecimal c = false := by rw [isDecimal, value, Option.isSome_none]
          have no_underscore : c ≠ '_' := by
            rintro rfl
            exact absurd digit (by decide)
          simp [leading, sign, no_underscore]

theorem length_leading (decimals : ∀ c ∈ cs, isDecimal c = true) : (leading cs).length = cs.length := by
  rw [leading, List.takeWhile_eq_self_iff.mpr decimals]
  rw [List.length_filterMap_eq_countP]
  exact List.countP_eq_length.mpr decimals

theorem ne_of_isDigit {c mark : Char} (digit : isDigit c = true) (other : isDigit mark = false) : c ≠ mark := by
  rintro rfl
  rw [digit] at other
  cases other

theorem splitSign_of_digit {c : Char} {rest : List Char} (digit : isDigit c = true) :
    splitSign (c :: rest) = (false, c :: rest) := by
  unfold splitSign
  split
  case h_1 same => exact absurd (List.cons.inj same).1 (ne_of_isDigit digit (by decide))
  case h_2 same => exact absurd (List.cons.inj same).1 (ne_of_isDigit digit (by decide))
  case h_3 => rfl

theorem readDigits_of_digits {c : Char} {rest : List Char} (digits : ∀ x ∈ c :: rest, isDigit x = true) :
    readDigits (c :: rest) = .ok (leading (c :: rest), (c :: rest).dropWhile isDecimal) := by
  unfold readDigits
  split
  case h_1 same =>
    exact absurd (List.cons.inj same).1 (ne_of_isDigit (digits c List.mem_cons_self) (by decide))
  case h_2 => exact spanDigits_of_digits digits

/-- Without a sign or a blank at the front all is left to the digits. -/
theorem readInteger_of_digits (digits : ∀ c ∈ cs, isDigit c = true) (some_digit : cs ≠ []) :
    readInteger cs =
      if digitLimit < (leading cs).length then .error (.tooManyDigits (leading cs).length)
      else if cs.all isDecimal then .ok (ofDigits (leading cs))
      else .error .notANumeral := by
  obtain ⟨c, rest, rfl⟩ := List.exists_cons_of_ne_nil some_digit
  have first := digits c List.mem_cons_self
  have kept : (c :: rest).dropWhile isNumeralBlank = c :: rest := by
    rw [List.dropWhile_cons_of_neg]
    simp [isNumeralBlank_of_isDigit first]
  unfold readInteger
  simp only [kept, splitSign_of_digit first, readDigits_of_digits digits]
  by_cases decimals : ∀ x ∈ c :: rest, isDecimal x = true
  · have nothing : (c :: rest).dropWhile isDecimal = [] := List.dropWhile_eq_nil_iff.mpr decimals
    have counted := length_leading decimals
    have some_value : (leading (c :: rest)).isEmpty = false := by
      rw [List.isEmpty_eq_false_iff, ← List.length_pos_iff, counted]
      exact Nat.succ_pos _
    rw [if_pos (List.all_eq_true.mpr decimals)]
    simp [nothing, some_value, signed]
  · -- A digit sign is left over, and is no blank.
    have left : ((c :: rest).dropWhile isDecimal).all isNumeralBlank = false := by
      rw [List.all_eq_false]
      obtain ⟨sign, others, same⟩ := List.exists_cons_of_ne_nil (mt List.dropWhile_eq_nil_iff.mp decimals)
      have member : sign ∈ (c :: rest).dropWhile isDecimal := by
        rw [same]
        exact List.mem_cons_self
      exact ⟨sign, member, by
        simp [isNumeralBlank_of_isDigit (digits sign ((List.dropWhile_sublist _).mem member))]⟩
    rw [if_neg (mt List.all_eq_true.mp decimals)]
    simp [left]

/-- A number is read from digits just if they are decimal ones and not too many. -/
theorem readInteger_eq_ok_iff (digits : ∀ c ∈ cs, isDigit c = true) (some_digit : cs ≠ []) {n : Int} :
    readInteger cs = .ok n ↔
      (∀ c ∈ cs, isDecimal c = true) ∧ cs.length ≤ digitLimit ∧ n = ofDigits (leading cs) := by
  rw [readInteger_of_digits digits some_digit]
  by_cases decimals : ∀ c ∈ cs, isDecimal c = true
  · rw [length_leading decimals, if_pos (List.all_eq_true.mpr decimals)]
    by_cases many : digitLimit < cs.length
    · rw [if_pos many]
      exact iff_of_false (by simp) fun spelled => Nat.not_lt.mpr spelled.2.1 many
    · rw [if_neg many, Except.ok.injEq, eq_comm]
      exact ⟨fun same => ⟨decimals, Nat.not_lt.mp many, same⟩, fun spelled => spelled.2.2⟩
  · rw [if_neg (mt List.all_eq_true.mp decimals)]
    refine iff_of_false ?_ fun spelled => decimals spelled.1
    split <;> simp

end Number
end PodAddressing
