import PodAddressing.Document
import PodAddressing.Number.Reading
import PodAddressing.Settings.Options
import PodAddressing.Text.Lower
/-!
The readers of settings that the programs use: one of documents that are written in the way of JSON, and one of
option files.

An option file has sections in brackets, and under each options written as a name, an equals sign or a colon, and
a value. A value goes on in the indented lines below it; lines that start with a hash or a semicolon are
comments. A value in quotes loses them. Lines end as on any system.
-/

namespace PodAddressing

namespace OptionFile

open Text

abbrev Options := Table String String

structure Reading where
  heading : Option String := none
  current : Option (List Char × List (List Char)) := none
  sections : Table String Options := []

namespace Reading
variable (r : Reading)

def joinLines (lines : List (List Char)) : String := String.ofList (List.intercalate ['\n'] lines)

/-- Files the option that has been read; the last value given for a name counts. -/
def flush : Except Fault Reading :=
  match r.current, r.heading with
  | none, _ => .ok r
  | some _, none => .error .badOptionFile
  | some (name, lines), some heading =>
      let options : Options := (r.sections.get? heading).getD []
      let options := options.put (String.ofList name) (joinLines lines)
      .ok { r with current := none, sections := r.sections.put heading options }

end Reading

def unquoted (value : List Char) : List Char :=
  match value with
  | c :: rest => if (c = '"' || c = '\'') && value.getLast? == some c then rest.dropLast else value
  | [] => []

def assignment? (line : List Char) : Option (List Char × List Char) :=
  match line.dropWhile fun c => c ≠ '=' && c ≠ ':' with
  | [] => none
  | _ :: value => some (trim (line.takeWhile fun c => c ≠ '=' && c ≠ ':'), unquoted (trim value))

def commonHeading : String := "DEFAULT"

/-- The name of the section that a line begins. Sections are told apart without regard to case, but for the
common one. -/
def sectionName? (line : List Char) : Option String :=
  if line.getLast? == some ']' && 2 < line.length then
    let name := String.ofList (line.drop 1).dropLast
    some (if name = commonHeading then name else lower name)
  else none

def trimEnd (line : List Char) : List Char := (line.reverse.dropWhile isBlank).reverse

def readLine (r : Reading) (line : List Char) : Except Fault Reading := do
  match trimEnd line with
  | [] => r.flush
  | c :: rest =>
      if c = ' ' || c = '\t' then
        match r.current with
        | none => throw .badOptionFile
        | some (name, lines) =>
            pure { r with current := some (name, lines ++ [rest.dropWhile isBlank]) }
      else
        let r ← r.flush
        if c = '[' then
          match sectionName? (c :: rest) with
          | some name => pure { r with heading := some name }
          | none => throw .badOptionFile
        else if c = '#' || c = ';' then pure r
        else
          match assignment? (c :: rest) with
          | none => throw .badOptionFile
          | some ([], _) => throw .badOptionFile
          | some (name, value) => pure { r with current := some (name, [value]) }

def withLineFeeds : List Char → List Char
  | [] => []
  | '\r' :: '\n' :: rest => '\n' :: withLineFeeds rest
  | '\r' :: rest => '\n' :: withLineFeeds rest
  | c :: rest => c :: withLineFeeds rest

def read (s : String) : Except Fault (Table String Options) := do
  let r ← (cut '\n' (withLineFeeds s.toList)).foldlM readLine {}
  pure (← r.flush).sections

end OptionFile

/-!
Texts with references in them. A dollar sign and a name, bare or in braces, stand for the text that the name
refers to; a dollar sign behind another one or behind a backslash stands for itself, and so does one that no
name follows.
-/

namespace Template

inductive Piece
  | character (c : Char)
  | reference (name : List Char)
  deriving DecidableEq, Repr

-- Names are recognised whatever the case of their letters, and these four are a case of an ASCII letter.
def isLetter (c : Char) : Bool := c.isAlpha || ['\u0130', '\u0131', '\u017f', '\u212a'].contains c

def isNameStart (c : Char) : Bool := isLetter c || c = '_'
def isNamePart (c : Char) : Bool := isNameStart c || c.isDigit || c = '.'

def name? : List Char → Option (List Char × List Char)
  | [] => none
  | c :: rest =>
      if isNameStart c then some (c :: rest.takeWhile isNamePart, rest.dropWhile isNamePart) else none

def reference? : List Char → Option (List Char × List Char)
  | '\x7b' :: rest =>
      match name? rest with
      | some (name, '\x7d' :: rest) => some (name, rest)
      | _ => none
  | cs => name? cs

theorem length_lt_of_name? {cs name rest : List Char} (h : name? cs = some (name, rest)) :
    rest.length < cs.length := by
  cases cs with
  | nil => simp [name?] at h
  | cons c tail =>
      simp only [name?] at h
      split at h
      · injection h with h
        injection h with _ h
        subst h
        have := (List.dropWhile_sublist isNamePart (l := tail)).length_le
        simp only [List.length_cons]
        omega
      · simp at h

theorem length_lt_of_reference? {cs name rest : List Char} (h : reference? cs = some (name, rest)) :
    rest.length < cs.length := by
  unfold reference? at h
  split at h
  · split at h
    · rename_i found
      have := length_lt_of_name? found
      injection h with h
      injection h with _ h
      subst h
      simp only [List.length_cons] at this ⊢
      omega
    · simp at h
  · exact length_lt_of_name? h

def pieces : List Char → List Piece
  | [] => []
  | '$' :: '$' :: rest => .character '$' :: pieces rest
  | '$' :: rest =>
      match _h : reference? rest with
      | some (name, rest) => .reference name :: pieces rest
      | none => .character '$' :: pieces rest
  | c :: rest => .character c :: pieces rest
termination_by cs => cs.length
decreasing_by
  all_goals simp only [List.length_cons]
  · omega
  · have := length_lt_of_reference? _h
    omega
  · omega
  · omega

/-- The text with a second dollar sign in place of a backslash in front of one. -/
def doubled : List Char → List Char
  | [] => []
  | '\\' :: '$' :: rest => '$' :: '$' :: doubled rest
  | c :: rest => c :: doubled rest

/-- The text with all references replaced; what replaces them is not looked at again. -/
def fill (refer : String → Except Fault String) (s : String) : Except Fault String := do
  let texts ← (pieces (doubled s.toList)).mapM fun piece =>
    match piece with
    | .character c => pure (String.singleton c)
    | .reference name => refer (String.ofList name)
  pure (String.join texts)

end Template

/-!
Options that are declared, read from a file. One that is not given has its default; those that are not declared are
ignored. What is given may refer to other options, and is read as a value of its type once the references are
replaced.
-/

namespace Options

open Number OptionFile

def Value.shown : Value → String
  | nothing => ""
  | text s => s
  | list items => Text.quoteAll items
  | switch on => (Json.boolean on).literal
  | number x => x.text

namespace Declared

def default : Declared → Value
  | text default => default.elim .nothing .text
  | list => .list []
  | switch => .switch false
  | number default => .number default

def dropTrailingCommas (cs : List Char) : List Char := (cs.reverse.dropWhile (· == ',')).reverse

def listItems (cs : List Char) : List String :=
  let cs := dropTrailingCommas (Text.trim cs)
  if cs.isEmpty then [] else (Text.cut ',' cs).map fun item => String.ofList (Text.trim item)

def readSwitch (s : String) : Except Fault Value :=
  let s := Text.lower s
  if ["true", "1", "on", "yes"].contains s then .ok (.switch true)
  else if ["false", "0", "off", "no"].contains s then .ok (.switch false)
  else .error .badOption

-- A blank text is no number, and a number below zero is refused.
def readNumber (s : String) : Except Fault Value :=
  if (Text.trimmed s).isEmpty then .ok .nothing
  else
    match readReal? s.toList with
    | some x => if x.isBelowZero then .error .badOption else .ok (.number x)
    | none => .error .badOption

def read (s : String) : Declared → Except Fault Value
  | text _ => .ok (.text s)
  | list => .ok (.list (listItems s.toList))
  | switch => readSwitch s
  | number _ => readNumber s

end Declared

section References

/-- Options without a group: the files that options come from, and other sources, of which there are none. -/
def common (path : FilePath) : Table String Value := [
  ("config_file", .list [path.text]),
  ("config_dir", .list []),
  ("config_source", .list [])]

variable (path : FilePath)

/-- The text that a name refers to. The name of an option may stand alone or behind that of its group. -/
def refer (valueOf : String → Except Fault Value) (name : String) : Except Fault String :=
  match Text.cutFirst '.' name.toList with
  | (_, none) =>
      if declared.has name then (valueOf name).map Value.shown
      else
        match (common path).get? name with
        | some value => .ok value.shown
        | none => .error (if name = group then .optionGroup name else .noOption name)
  | (groupName, some option) =>
      if groupName = group.toList then (valueOf (String.ofList option)).map Value.shown
      else .error (.noOptionGroup (String.ofList groupName))

def valueWithin (options : OptionFile.Options) : Nat → String → Except Fault Value
  | 0, _ => .error .tooDeep
  | steps + 1, name =>
      match declared.get? name, options.get? name with
      | none, _ => .error (.noOption name)
      | some type, none => .ok type.default
      | some type, some given => do
          type.read (← Template.fill (refer path fun name => valueWithin options steps name) given)

-- References that go on for more steps than there are options come back to where they have been.
def valueOf (options : OptionFile.Options) (name : String) : Except Fault Value :=
  valueWithin path options (declared.length + 1) name

end References

def ofFile (files : Files) (path : FilePath) : Except Fault Given :=
  match files.read (files.settled path) with
  | .error (.file .missing _) => .error (.noOptionFile path.text)
  | .error fault => .error fault
  | .ok bytes => do
      let sections ← OptionFile.read (← Document.textOf bytes)
      pure (valueOf path ((sections.get? group).getD []))

end Options

/-!
Documents. An escape in one stands for one character, so that two escaped halves stay two.
-/

namespace Document

def withHalves : List Char → List Char
  | '\\' :: 'u' :: a :: b :: c :: d :: rest =>
      match (Json.hexUnit? a b c d).filter fun n => Text.isHighUnit n || Text.isLowUnit n with
      | some n => Text.ofUnit n :: withHalves rest
      | none => '\\' :: 'u' :: a :: b :: c :: d :: withHalves rest
  | '\\' :: c :: rest => '\\' :: c :: withHalves rest
  | c :: rest => c :: withHalves rest
  | [] => []

/-- The value that a document spells. An empty one spells none. -/
def spelled (s : String) : Except Fault Json :=
  if s.toList.all fun c => c = ' ' || c = '\n' || c = '\r' then .ok .null
  else ofText (String.ofList (withHalves s.toList))

end Document

namespace Settings

def Readers.usual : Readers := ⟨Document.spelled, Options.ofFile⟩

end Settings

end PodAddressing
