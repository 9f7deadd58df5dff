import PodAddressing.Fault
import PodAddressing.Json.Basic
import PodAddressing.Number.Reading
/-!
Taking values apart: fields that have to be there, fields that may be, the items of a list, and numbers
given as numbers, truth values or numerals.
-/

namespace PodAddressing.Json

open Number

def lookup? (name : String) : List (String × Json) → Option Json
  | [] => none
  | (k, v) :: rest => if k = name then some v else lookup? name rest

def field (name : String) : Json → Except Fault Json
  | .object fields =>
      match lookup? name fields with
      | some v => .ok v
      | none => .error (.missing name)
  | _ => .error .unsuitable

/-- A field that may be absent. Only objects can be asked. -/
def field? (name : String) : Json → Except Fault (Option Json)
  | .object fields => .ok (lookup? name fields)
  | _ => .error .noFields

def fieldOr (name : String) (default : Json) (v : Json) : Except Fault Json :=
  (field? name v).map (·.getD default)

def textField (name : String) (v : Json) : Except Fault String := (field name v).map describe

def textFieldOr (name default : String) (v : Json) : Except Fault String :=
  (field? name v).map fun found => (found.map describe).getD default

/-- The text of a field that counts only if it holds something. -/
def textField? (name : String) (v : Json) : Except Fault (Option String) :=
  (field? name v).map fun found => (found.filter holds).map describe

-- A text is the list of its characters, and an object the list of its field names.
def items : Json → Except Fault (List Json)
  | .list items => .ok items
  | .text s => .ok (s.toList.map fun c => .text (String.singleton c))
  | .object fields => .ok (fields.map fun (name, _) => .text name)
  | _ => .error .unsuitable

def numeralFault (s : String) : NumeralFault → Fault
  | .notANumeral => .bad (.integer (Text.quote s))
  | .tooManyDigits count => .bad (.tooManyDigits count)

def integerOfText (s : String) : Except Fault Int :=
  (readInteger s.toList).mapError (numeralFault s)

def realOfText (s : String) : Except Fault Binary64 :=
  match readReal? s.toList with
  | some x => .ok x
  | none => .error (.bad (.real (Text.quote s)))

def boolInt (b : Bool) : Int := if b then 1 else 0

def toInteger : Json → Except Fault Int
  | .integer n => .ok n
  | .boolean b => .ok (boolInt b)
  | .real (.finite negative m e) => .ok (Binary64.truncate negative m e)
  | .real (.infinite _) => .error .overflow
  | .real .notANumber => .error (.bad .wholeOfNoNumber)
  | .text s => integerOfText s
  | _ => .error .unsuitable

-- A numeral beyond the format is an infinity, a whole number beyond it is a fault.
def toReal : Json → Except Fault Binary64
  | .real x => .ok x
  | .boolean b => .ok (.ofInt (boolInt b))
  | .integer n =>
      match Binary64.ofInt n with
      | .infinite _ => .error .overflow
      | x => .ok x
  | .text s => realOfText s
  | _ => .error .unsuitable

end PodAddressing.Json
