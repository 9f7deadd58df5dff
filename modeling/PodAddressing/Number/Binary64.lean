/-!
Numbers of the 64-bit binary format: a sign, a significand below two to the 53 and a power of two from
-1074 to 971, or an infinity, or no number. A ratio is rounded to the nearest of them, a tie to the even
significand.
-/

namespace PodAddressing.Number

inductive Binary64
  | finite (negative : Bool) (significand : Nat) (exponent : Int)
  | infinite (negative : Bool)
  | notANumber
  deriving DecidableEq, Repr

/-- The power of two with a whole exponent below or at a ratio. -/
def floorLog2 (num den : Nat) : Int :=
  let k : Int := (Nat.log2 num : Int) - Nat.log2 den
  if num <<< (-k).toNat < den <<< k.toNat then k - 1 else k

def roundHalfEven (num den : Nat) : Nat :=
  let q := num / den
  let r := num % den
  if 2 * r < den then q else if den < 2 * r then q + 1 else q + q % 2

namespace Binary64

def zero : Binary64 := .finite false 0 (-1074)

def ofRatio (negative : Bool) (num den : Nat) : Binary64 :=
  if num = 0 then .finite negative 0 (-1074)
  else
    let e := max (floorLog2 num den - 52) (-1074)
    let m := roundHalfEven (num <<< (-e).toNat) (den <<< e.toNat)
    -- Rounding up to the next power of two moves the exponent instead.
    let (m, e) := if m = 1 <<< 53 then (1 <<< 52, e + 1) else (m, e)
    if 971 < e then .infinite negative else .finite negative m e

/-- The nearest number to `digits · 10 ^ power`. A power of ten is at least that power of eight, which
tells numbers far outside the format's range without raising it. -/
def ofDecimal (negative : Bool) (digits : Nat) (power : Int) : Binary64 :=
  if digits = 0 then .finite negative 0 (-1074)
  else
    let log : Int := Nat.log2 digits
    if 0 ≤ power then
      if 1100 < log + 3 * power then .infinite negative
      else ofRatio negative (digits * Nat.pow 10 power.toNat) 1
    else if log + 3 * power < -1200 then .finite negative 0 (-1074)
    else ofRatio negative digits (Nat.pow 10 (-power).toNat)

def ofInt (n : Int) : Binary64 := ofRatio (n < 0) n.natAbs 1

def isZero : Binary64 → Bool
  | .finite _ 0 _ => true
  | _ => false

-- No number is neither below zero nor above it.
def isBelowZero : Binary64 → Bool
  | .finite negative m _ => negative && m != 0
  | .infinite negative => negative
  | .notANumber => false

def truncate (negative : Bool) (m : Nat) (e : Int) : Int :=
  let n := m <<< e.toNat >>> (-e).toNat
  if negative then -(n : Int) else n

end Binary64

/-!
The shortest decimal text of a binary number: the fewest digits that lie nearer to it than to any other
number of the format, and of those the nearest.
-/

/-- How many places before the point the first digit of a ratio stands. -/
def decimalPoint (num den : Nat) : Int :=
  if den ≤ num then (Nat.toDigits 10 (num / den)).length
  else
    match (List.range 400).find? fun j => den ≤ num * Nat.pow 10 j with
    | some j => 1 - (j : Int)
    | none => -399

/-- What a decimal has to meet to be read back as one number: bounds in common units, and whether the
bounds themselves count. -/
structure Reach where
  low : Nat
  value : Nat
  high : Nat
  closed : Bool

def Reach.holds (r : Reach) (n : Nat) : Bool :=
  if r.closed then r.low ≤ n && n ≤ r.high else r.low < n && n < r.high

-- Of the two neighbours on a grid the nearer one counts, and of two equally near the even one.
def Reach.onGrid? (r : Reach) (step : Nat) : Option Nat :=
  let below := r.value / step
  let above := below + 1
  let distBelow := r.value - below * step
  let distAbove := above * step - r.value
  let pickBelow := distBelow < distAbove || (distBelow == distAbove && below % 2 == 0)
  match r.holds (below * step), r.holds (above * step) with
  | true, true => some (if pickBelow then below else above)
  | true, false => some below
  | false, true => some above
  | false, false => none

/-- The digits of the shortest decimal, and the place of its point relative to the first of them. -/
def shortestDigits (m : Nat) (e : Int) : List Char × Int :=
  let up := 1 <<< (e - 2).toNat
  let down := 1 <<< (2 - e).toNat
  let point := decimalPoint (4 * m * up) down
  -- Below a power of two the format is twice as fine.
  let low := if m = 1 <<< 52 && -1074 < e then 4 * m - 1 else 4 * m - 2
  let grid (places : Nat) : Option (Nat × Int) :=
    let power := point - places
    let scale := up * Nat.pow 10 (-power).toNat
    let step := down * Nat.pow 10 power.toNat
    let reach : Reach := ⟨low * scale, 4 * m * scale, (4 * m + 2) * scale, m % 2 == 0⟩
    (reach.onGrid? step).map (·, power)
  match (List.range 17).findSome? fun i => grid (i + 1) with
  | some (n, power) =>
      let digits := Nat.toDigits 10 n
      ((digits.reverse.dropWhile (· == '0')).reverse, power + digits.length)
  | none => (['0'], 1)

def exponentText (n : Int) : List Char :=
  let digits := Nat.toDigits 10 n.natAbs
  'e' :: (if n < 0 then '-' else '+') :: (if digits.length < 2 then '0' :: digits else digits)

-- Decimals between a ten-thousandth and ten to the sixteenth are written out, the rest with a power.
def layOut (digits : List Char) (point : Int) : List Char :=
  if -4 < point && point ≤ 16 then
    if point ≤ 0 then '0' :: '.' :: List.replicate (-point).toNat '0' ++ digits
    else
      let whole := digits.take point.toNat
      let part := digits.drop point.toNat
      whole ++ List.replicate (point.toNat - whole.length) '0' ++
        '.' :: (if part.isEmpty then ['0'] else part)
  else
    let part := digits.drop 1
    digits.take 1 ++ (if part.isEmpty then [] else '.' :: part) ++ exponentText (point - 1)

namespace Binary64

def digits : Binary64 → List Char
  | .notANumber => ['n', 'a', 'n']
  | .infinite negative => (if negative then ['-'] else []) ++ ['i', 'n', 'f']
  | .finite negative m e =>
      let (ds, point) := if m = 0 then (['0'], 1) else shortestDigits m e
      (if negative then ['-'] else []) ++ layOut ds point

def text (x : Binary64) : String := String.ofList x.digits

end Binary64
end PodAddressing.Number
