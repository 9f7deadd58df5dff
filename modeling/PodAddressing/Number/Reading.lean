import PodAddressing.Number.Binary64
import PodAddressing.Text.Basic
/-!
Reading whole numbers. A numeral is a sign and decimal digits of any script, with single underscores
between digits and blanks around it; one with more than `digitLimit` digits is refused unread.
-/

namespace PodAddressing.Number

open Text

inductive NumeralFault
  | notANumeral
  | tooManyDigits (count : Nat)
  deriving DecidableEq, Repr

def digitLimit : Nat := 4300

-- An underscore needs a digit on either side; `open_` says that the last character was one.
def spanDigits (open_ : Bool) : List Char → Except NumeralFault (List Nat × List Char)
  | [] => if open_ then .error .notANumeral else .ok ([], [])
  | c :: rest =>
      match decimalValue? c with
      | some d => (spanDigits false rest).map fun (ds, tail) => (d :: ds, tail)
      | none =>
          if open_ then .error .notANumeral
          else if c = '_' then spanDigits true rest
          else .ok ([], c :: rest)

def splitSign : List Char → Bool × List Char
  | '-' :: rest => (true, rest)
  | '+' :: rest => (false, rest)
  | rest => (false, rest)

def ofDigits (ds : List Nat) : Nat := ds.foldl (fun n d => 10 * n + d) 0

def signed (negative : Bool) (n : Nat) : Int := if negative then -(n : Int) else n

def readDigits : List Char → Except NumeralFault (List Nat × List Char)
  | '_' :: _ => .error .notANumeral
  | rest => spanDigits false rest

def readInteger (cs : List Char) : Except NumeralFault Int :=
  let (negative, rest) := splitSign (cs.dropWhile isNumeralBlank)
  match readDigits rest with
  | .error fault => .error fault
  | .ok (ds, tail) =>
      if digitLimit < ds.length then .error (.tooManyDigits ds.length)
      else if ds.isEmpty || !tail.all isNumeralBlank then .error .notANumeral
      else .ok (signed negative (ofDigits ds))

/-!
Reading binary numbers from text: a sign, digits with at most one point among them, and a power of ten;
or the name of an infinity or of no number. Digits may be of any script, underscores stand between
digits only, and blanks may surround the whole.
-/

-- Every digit is read as an ASCII one, so that the grammar below only has to know those.
def plainDigit (c : Char) : Char :=
  match decimalValue? c with
  | some d => Nat.digitChar d
  | none => c

def trimNumeral (cs : List Char) : List Char :=
  ((cs.dropWhile isNumeralBlank).reverse.dropWhile isNumeralBlank).reverse

/-- The text without its underscores, if each stands between two digits; `last` is the character before. -/
def dropUnderscores? (last : Char) : List Char → Option (List Char)
  | [] => if last = '_' then none else some []
  | '_' :: rest => if last.isDigit then dropUnderscores? '_' rest else none
  | c :: rest =>
      if last = '_' && !c.isDigit then none
      else (dropUnderscores? c rest).map (c :: ·)

def digitRun (cs : List Char) : List Nat × List Char :=
  ((cs.takeWhile Char.isDigit).map (·.toNat - '0'.toNat), cs.dropWhile Char.isDigit)

/-- The power of ten at the end of a number; none is the power zero. -/
def readPower? : List Char → Option Int
  | [] => some 0
  | c :: rest =>
      if c = 'e' || c = 'E' then
        let (negative, rest) := splitSign rest
        match digitRun rest with
        | ([], _) => none
        | (ds, []) => some (signed negative (ofDigits ds))
        | _ => none
      else none

def readDecimal? (negative : Bool) (cs : List Char) : Option Binary64 :=
  let (whole, rest) := digitRun cs
  let (part, rest) :=
    match rest with
    | '.' :: rest => digitRun rest
    | rest => ([], rest)
  if whole.isEmpty && part.isEmpty then none
  else
    (readPower? rest).map fun power =>
      let ds := whole ++ part
      .ofDecimal negative (ofDigits ds) (power - part.length)

def readReal? (cs : List Char) : Option Binary64 :=
  match dropUnderscores? ' ' (trimNumeral (cs.map plainDigit)) with
  | none => none
  | some cs =>
      let (negative, rest) := splitSign cs
      let name := rest.map Char.toLower
      if name = ['i', 'n', 'f'] || name = ['i', 'n', 'f', 'i', 'n', 'i', 't', 'y'] then
        some (.infinite negative)
      else if name = ['n', 'a', 'n'] then some .notANumber
      else readDecimal? negative rest

end PodAddressing.Number
