import PodAddressing.Fault
import PodAddressing.Json.Basic
import PodAddressing.Number.Reading
import PodAddressing.Text.Basic
import PodAddressing.Text.Quoted
/-!
Reading JSON text. Besides the standard's values the names of the infinities and of no number are read;
numbers beyond the binary format become an infinity, and whole numbers keep every digit up to the limit
for numerals. Lists and objects may be nested up to a limit.
-/

namespace PodAddressing

namespace Json

open Number

/-- Why a text is not read as JSON: it breaks the grammar, a numeral is too long, or values are nested too
deeply. -/
inductive ReadFault
  | malformed
  | tooManyDigits (count : Nat)
  | tooDeep
  deriving DecidableEq, Repr

/-- How many lists and objects a value may stand in, itself included. -/
def nestingLimit : Nat := 985

abbrev Step (α : Type) := Except ReadFault (α × List Char)

def isSpace (c : Char) : Bool := c = ' ' || c = '\t' || c = '\n' || c = '\r'

def skipSpace (cs : List Char) : List Char := cs.dropWhile isSpace

section Strings

def hexUnit? (a b c d : Char) : Option Nat := Text.hexNumber? [a, b, c, d]

def simpleEscape? : Char → Option Char
  | '"' => some '"'
  | '\\' => some '\\'
  | '/' => some '/'
  | 'b' => some '\x08'
  | 'f' => some '\x0c'
  | 'n' => some '\n'
  | 'r' => some '\r'
  | 't' => some '\t'
  | _ => none

def readUnits : List Char → Step (List Nat)
  | [] => .error .malformed
  | '"' :: rest => .ok ([], rest)
  | '\\' :: 'u' :: a :: b :: c :: d :: rest =>
      match hexUnit? a b c d with
      | some unit => (readUnits rest).map fun (units, tail) => (unit :: units, tail)
      | none => .error .malformed
  | '\\' :: c :: rest =>
      match simpleEscape? c with
      | some e => (readUnits rest).map fun (units, tail) => (e.toNat :: units, tail)
      | none => .error .malformed
  | c :: rest =>
      if c.toNat < 0x20 || c = '\\' then .error .malformed
      else (readUnits rest).map fun (units, tail) => (c.toNat :: units, tail)

/-- Joins the two halves of characters beyond the first plane; a half alone stays one. -/
def joinUnits : List Nat → List Char
  | [] => []
  | [n] => [Text.ofUnit n]
  | high :: low :: rest =>
      if Text.isHighUnit high && Text.isLowUnit low then
        Char.ofNat (0x10000 + (high - 0xd800) * 0x400 + (low - 0xdc00)) :: joinUnits rest
      else Text.ofUnit high :: joinUnits (low :: rest)

def readText (cs : List Char) : Step String :=
  (readUnits cs).map fun (units, rest) => (String.ofList (joinUnits units), rest)

end Strings

section Numbers

def readFraction : List Char → Option (List Nat × List Char)
  | '.' :: rest =>
      match digitRun rest with
      | ([], _) => none
      | run => some run
  | _ => none

def readExponent : List Char → Option (Int × List Char)
  | c :: rest =>
      if c = 'e' || c = 'E' then
        let (negative, rest) := splitSign rest
        match digitRun rest with
        | ([], _) => none
        | (ds, rest) => some (signed negative (ofDigits ds), rest)
      else none
  | [] => none

-- A leading zero stands alone: what follows it is not part of the number.
def readWhole : List Char → List Nat × List Char
  | '0' :: rest => ([0], rest)
  | cs => digitRun cs

def readNumber (cs : List Char) : Step Json :=
  let (negative, rest) :=
    match cs with
    | '-' :: rest => (true, rest)
    | rest => (false, rest)
  match readWhole rest with
  | ([], _) => .error .malformed
  | (whole, rest) =>
      let fraction := readFraction rest
      let part := (fraction.map (·.1)).getD []
      let rest := (fraction.map (·.2)).getD rest
      let power := readExponent rest
      if fraction.isNone && power.isNone then
        if digitLimit < whole.length then .error (.tooManyDigits whole.length)
        else .ok (.integer (signed negative (ofDigits whole)), rest)
      else
        let ds := whole ++ part
        let exponent := (power.map (·.1)).getD 0 - part.length
        .ok (.real (.ofDecimal negative (ofDigits ds) exponent),
          (power.map (·.2)).getD rest)

end Numbers

section Values

mutual

/-- Reads the value at the head of a text; every nested value takes from the same allowance of steps, and
`room` says how many more lists and objects may be nested. -/
def readValue (room : Nat) : Nat → List Char → Step Json
  | 0, _ => .error .malformed
  | steps + 1, cs =>
      match cs with
      | '"' :: rest => (readText rest).map fun (s, rest) => (.text s, rest)
      | '[' :: rest =>
          if room = 0 then .error .tooDeep
          else
            match skipSpace rest with
            | ']' :: rest => .ok (.list [], rest)
            | rest => (readItems (room - 1) steps rest).map fun (items, rest) => (.list items, rest)
      | '{' :: rest =>
          if room = 0 then .error .tooDeep
          else
            match skipSpace rest with
            | '}' :: rest => .ok (.object [], rest)
            | rest => (readFields (room - 1) steps rest).map fun (fields, rest) => (ofFields fields, rest)
      | 'n' :: 'u' :: 'l' :: 'l' :: rest => .ok (.null, rest)
      | 't' :: 'r' :: 'u' :: 'e' :: rest => .ok (.boolean true, rest)
      | 'f' :: 'a' :: 'l' :: 's' :: 'e' :: rest => .ok (.boolean false, rest)
      | 'N' :: 'a' :: 'N' :: rest => .ok (.real .notANumber, rest)
      | 'I' :: 'n' :: 'f' :: 'i' :: 'n' :: 'i' :: 't' :: 'y' :: rest =>
          .ok (.real (.infinite false), rest)
      | '-' :: 'I' :: 'n' :: 'f' :: 'i' :: 'n' :: 'i' :: 't' :: 'y' :: rest =>
          .ok (.real (.infinite true), rest)
      | cs => readNumber cs

def readItems (room : Nat) : Nat → List Char → Step (List Json)
  | 0, _ => .error .malformed
  | steps + 1, cs =>
      match readValue room steps cs with
      | .error fault => .error fault
      | .ok (item, rest) =>
          match skipSpace rest with
          | ',' :: rest =>
              (readItems room steps (skipSpace rest)).map fun (items, rest) => (item :: items, rest)
          | ']' :: rest => .ok ([item], rest)
          | _ => .error .malformed

def readFields (room : Nat) : Nat → List Char → Step (List (String × Json))
  | 0, _ => .error .malformed
  | steps + 1, cs =>
      match cs with
      | '"' :: rest =>
          match readText rest with
          | .error fault => .error fault
          | .ok (name, rest) =>
              match skipSpace rest with
              | ':' :: rest =>
                  match readValue room steps (skipSpace rest) with
                  | .error fault => .error fault
                  | .ok (v, rest) =>
                      match skipSpace rest with
                      | ',' :: rest =>
                          (readFields room steps (skipSpace rest)).map fun (fields, rest) =>
                            ((name, v) :: fields, rest)
                      | '}' :: rest => .ok ([(name, v)], rest)
                      | _ => .error .malformed
              | _ => .error .malformed
      | _ => .error .malformed

end

-- Each step but the one into a value uses up a character, so twice the length is never spent.
def readAll (cs : List Char) : Except ReadFault Json :=
  match readValue nestingLimit (2 * cs.length + 2) (skipSpace cs) with
  | .error fault => .error fault
  | .ok (v, rest) => if (skipSpace rest).isEmpty then .ok v else .error .malformed

def read (s : String) : Except ReadFault Json := readAll s.toList

end Values

/-!
Writing JSON text. Lists and objects are laid out one entry a line, each level two spaces deeper; all
characters beyond ASCII are escaped, those beyond the first plane as two halves. A half alone is written as
itself.
-/

def unitEscape (n : Nat) : List Char := '\\' :: 'u' :: Text.hexDigits 4 n

def escape (c : Char) : List Char :=
  if c = '"' then ['\\', '"']
  else if c = '\\' then ['\\', '\\']
  else if c = '\n' then ['\\', 'n']
  else if c = '\r' then ['\\', 'r']
  else if c = '\t' then ['\\', 't']
  else if c = '\x08' then ['\\', 'b']
  else if c = '\x0c' then ['\\', 'f']
  else if 0x20 ≤ c.toNat && c.toNat ≤ 0x7e then [c]
  else if let some n := Text.half? c then unitEscape n
  else if c.toNat < 0x10000 then unitEscape c.toNat
  else
    let n := c.toNat - 0x10000
    unitEscape (0xd800 + n / 0x400) ++ unitEscape (0xdc00 + n % 0x400)

def writeText (s : String) : List Char := '"' :: s.toList.flatMap escape ++ ['"']

def writeReal : Binary64 → List Char
  | .notANumber => ['N', 'a', 'N']
  | .infinite false => "Infinity".toList
  | .infinite true => "-Infinity".toList
  | x => x.digits

def newLine (depth : Nat) : List Char := '\n' :: List.replicate (2 * depth) ' '

def layEntries (depth : Nat) (opening closing : Char) (entries : List (List Char)) : List Char :=
  if entries.isEmpty then [opening, closing]
  else
    opening :: List.intercalate [','] (entries.map (newLine (depth + 1) ++ ·)) ++
      newLine depth ++ [closing]

mutual

def writeAt (depth : Nat) : Json → List Char
  | .null => "null".toList
  | .boolean true => "true".toList
  | .boolean false => "false".toList
  | .integer n => (integerText n).toList
  | .real x => writeReal x
  | .text s => writeText s
  | .list items => layEntries depth '[' ']' (writeItems (depth + 1) items)
  | .object fields => layEntries depth '{' '}' (writeFields (depth + 1) fields)

def writeItems (depth : Nat) : List Json → List (List Char)
  | [] => []
  | item :: rest => writeAt depth item :: writeItems depth rest

def writeFields (depth : Nat) : List (String × Json) → List (List Char)
  | [] => []
  | (name, v) :: rest => (writeText name ++ ':' :: ' ' :: writeAt depth v) :: writeFields depth rest

end

def write (v : Json) : String := String.ofList (writeAt 0 v)

end Json

/-!
Documents: texts as bytes, and the JSON values that they spell.
-/

namespace Document

def ofText (s : String) : Except Fault Json :=
  match Json.read s with
  | .ok v => .ok v
  | .error .malformed => .error .malformed
  | .error .tooDeep => .error .tooDeep
  | .error (.tooManyDigits count) => .error (.bad (.tooManyDigits count))

def textOf (bytes : ByteArray) : Except Fault String :=
  match String.fromUTF8? bytes with
  | some s => .ok s
  | none => .error .undecodable

def bytesOf (s : String) : Except Fault ByteArray :=
  if Text.hasHalf s then .error .unencodable else .ok s.toUTF8

def ofBytes (bytes : ByteArray) : Except Fault Json := do ofText (← textOf bytes)

end Document

end PodAddressing
