import PodAddressing.Number.Binary64
import PodAddressing.Text.Quoted
/-!
JSON values. Whole numbers and binary ones are kept apart, and the fields of an object keep the order in
which they first appeared. A value has two written forms inside messages: its literal, in which texts are
quoted, and its description, which differs from the literal for a text only.
-/

namespace PodAddressing

open Number

inductive Json
  | null
  | boolean (b : Bool)
  | integer (n : Int)
  | real (x : Binary64)
  | text (s : String)
  | list (items : List Json)
  | object (fields : List (String × Json))
  deriving Repr, Inhabited

namespace Json

/-- Sets a field: a known one keeps its place, a new one goes to the end. -/
def setField (name : String) (v : Json) : List (String × Json) → List (String × Json)
  | [] => [(name, v)]
  | (k, old) :: rest => if k = name then (k, v) :: rest else (k, old) :: setField name v rest

-- Of two fields of one name the later value counts.
def ofFields (fields : List (String × Json)) : Json :=
  .object (fields.foldl (fun known (name, v) => setField name v known) [])

/-- Whether a value stands for anything: null, false, zero and the empty ones do not. -/
def holds : Json → Bool
  | .null => false
  | .boolean b => b
  | .integer n => n != 0
  | .real x => !x.isZero
  | .text s => !s.isEmpty
  | .list items => !items.isEmpty
  | .object fields => !fields.isEmpty

def integerText (n : Int) : String := toString n

mutual

/-- The value as it is spelled inside lists and messages. -/
def literal : Json → String
  | .null => "None"
  | .boolean true => "True"
  | .boolean false => "False"
  | .integer n => integerText n
  | .real x => x.text
  | .text s => Text.quote s
  | .list items => "[" ++ literalItems items ++ "]"
  | .object fields => "\x7b" ++ literalFields fields ++ "\x7d"

def literalItems : List Json → String
  | [] => ""
  | [item] => literal item
  | item :: rest => literal item ++ ", " ++ literalItems rest

def literalFields : List (String × Json) → String
  | [] => ""
  | [(name, v)] => Text.quote name ++ ": " ++ literal v
  | (name, v) :: rest => Text.quote name ++ ": " ++ literal v ++ ", " ++ literalFields rest

end

def describe : Json → String
  | .text s => s
  | v => literal v

end Json
end PodAddressing
