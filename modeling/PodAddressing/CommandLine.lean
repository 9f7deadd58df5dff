import PodAddressing.Table
import PodAddressing.Text.Basic
/-!
Command lines: options, some with a value, among positional arguments. An option may be cut short as long as
only one option begins like it. Two dashes alone end the options; where they are given as a value they stand
for none. A usage error ends the program with status 2, a request for help with status 0, whichever comes
first.
-/

namespace PodAddressing.CommandLine

/-- An option is a flag or has a value, which may have to be of some form. -/
inductive Form
  | flag
  | value (isFit : String → Bool)

-- Help can be asked for on every command line.
structure Grammar where
  options : Table String Form
  positionals : Nat := 0

def mark : String := "--"

/-- What was given for an option or as a positional argument; the mark gives nothing. -/
inductive Value
  | text (s : String)
  | mark
  deriving DecidableEq, Repr

namespace Value

def ofText (s : String) : Value := if s = CommandLine.mark then mark else text s

-- Nothing is shown as an empty list.
def shown : Value → String
  | text s => s
  | mark => "[]"

end Value

structure Arguments where
  values : Table String Value := []
  flags : List String := []
  positionals : List Value := []
  deriving DecidableEq, Repr

def usageStatus : Nat := 2
def helpStatus : Nat := 0

/-- An argument by its looks: the mark is the two dashes that end the options. -/
inductive Token
  | plain (s : String)
  | mark
  | help (status : Nat)
  | known (name : String) (attached : Option String)
  | unknown
  deriving DecidableEq, Repr

section Looks

def shortHelp : String := "-h"
def longHelp : String := "--help"

def isHelp (s : String) : Bool := s == shortHelp || s == longHelp

def splitValue (s : String) : String × Option String :=
  let (name, value) := Text.cutFirst '=' s.toList
  (String.ofList name, value.map String.ofList)

def startsWith (start s : String) : Bool := start.toList.isPrefixOf s.toList

-- Arguments such as -5 and -.5 are numbers, with or without a line feed at the end.
def isNegativeNumber (cs : List Char) : Bool :=
  let cs := if cs.getLast? == some '\n' then cs.dropLast else cs
  match cs with
  | '-' :: digits =>
      let whole := digits.takeWhile Text.isDecimal
      match digits.dropWhile Text.isDecimal with
      | [] => !whole.isEmpty
      | '.' :: part => !part.isEmpty && part.all Text.isDecimal
      | _ => false
  | _ => false

/-- The status of a short request for help with more behind it. Letters are options of their own, of which
only another request for help is known. -/
def joinedHelp (cs : List Char) : Nat := if cs.all (· == 'h') then helpStatus else usageStatus

/-- An option with what is attached to it. To a request for help only more letters can be attached, if it is
short. -/
def optionToken (name : String) (attached : Option String) : Token :=
  if name = shortHelp then
    .help (attached.elim helpStatus fun s => if s = "" then usageStatus else joinedHelp s.toList)
  else if name = longHelp then .help (if attached.isSome then usageStatus else helpStatus)
  else .known name attached

variable (grammar : Grammar)

def isOption (name : String) : Bool := isHelp name || grammar.options.has name

def lookAbbreviated (s : String) : Except Nat Token :=
  let other := if isNegativeNumber s.toList || ' ' ∈ s.toList then Token.plain s else .unknown
  match s.toList with
  | '-' :: '-' :: _ =>
      let (start, attached) := splitValue s
      match (longHelp :: grammar.options.keys).filter (startsWith start) with
      | [] => .ok other
      | [name] => .ok (optionToken name attached)
      | _ => .error usageStatus
  | '-' :: 'h' :: rest => .ok (.help (joinedHelp rest))
  | _ => .ok other

/-- The looks of an argument in front of the mark; an ambiguous one is a usage error. -/
def look (s : String) : Except Nat Token :=
  if s.toList.head? ≠ some '-' || s == "-" then .ok (.plain s)
  else if isOption grammar s then .ok (optionToken s none)
  else
    match splitValue s with
    | (name, some value) =>
        if isOption grammar name then .ok (optionToken name (some value)) else lookAbbreviated grammar s
    | _ => lookAbbreviated grammar s

def tokens : List String → Except Nat (List Token)
  | [] => .ok []
  | s :: rest => do
      if s = mark then pure (.mark :: rest.map .plain)
      else
        let token ← look grammar s
        let later ← tokens rest
        pure (token :: later)

end Looks

section Reading

/-- What has been read; something that has no place is an error once everything else is read. -/
structure Reading where
  arguments : Arguments := {}
  misplaced : Bool := false
  afterPositional : Bool := false
  marked : Bool := false

variable (grammar : Grammar)

namespace Reading
variable (r : Reading)

def takesPositional : Bool := r.arguments.positionals.length < grammar.positionals

-- Behind the mark itself two dashes are a text, elsewhere they are another mark.
def plain (s : String) : Reading :=
  if r.takesPositional grammar then
    let value := if r.marked then .text s else Value.ofText s
    { r with
      arguments := { r.arguments with positionals := r.arguments.positionals ++ [value] }
      afterPositional := true
      marked := false }
  else { r with misplaced := true, afterPositional := false }

-- The mark belongs to a positional argument beside it, the one in front first.
def mark (later : List Token) : Reading :=
  if r.afterPositional then r
  else if !later.isEmpty && r.takesPositional grammar then { r with marked := true }
  else { r with misplaced := true }

def unknown : Reading := { r with misplaced := true, afterPositional := false }

def flag (name : String) : Reading :=
  { r with
    arguments := { r.arguments with flags := r.arguments.flags ++ [name] }
    afterPositional := false }

def value (name : String) (isFit : String → Bool) (given : String) : Except Nat Reading :=
  let value := Value.ofText given
  if value = .mark || isFit given then
    .ok { r with
      arguments := { r.arguments with values := r.arguments.values.put name value }
      afterPositional := false }
  else .error usageStatus

end Reading

def read (r : Reading) : List Token → Except Nat Reading
  | [] => .ok r
  | .plain s :: rest => read (r.plain grammar s) rest
  | .mark :: rest => read (r.mark grammar rest) rest
  | .unknown :: rest => read r.unknown rest
  | .help status :: _ => .error status
  | .known name attached :: rest =>
      match grammar.options.get? name, attached with
      | none, _ => .error usageStatus
      | some .flag, none => read (r.flag name) rest
      | some .flag, some _ => .error usageStatus
      | some (.value isFit), some value => do read (← r.value name isFit value) rest
      | some (.value isFit), none =>
          match rest with
          | .plain value :: rest => do read (← r.value name isFit value) rest
          | _ => .error usageStatus

end Reading

def parse (grammar : Grammar) (args : List String) : Except Nat Arguments := do
  let r ← read grammar {} (← tokens grammar args)
  if r.misplaced || r.takesPositional grammar then throw usageStatus
  pure r.arguments

end PodAddressing.CommandLine
