import PodAddressing.Number.Binary64
import PodAddressing.Settings
import PodAddressing.Table
/-!
Settings from named options, each of a declared type. Whatever reads the options gives each of them a value of its
type. Files cannot be watched by way of options.
-/

namespace PodAddressing

namespace Options

open Number

inductive Declared
  | text (default : Option String)
  | list
  | switch
  | number (default : Binary64)
  deriving DecidableEq, Repr

def group : String := "ipam"

def defaultRecordsPath : String := "/var/lib/podnet/records.json"

def defaultTimeout : Binary64 := .ofRatio false 3 1

def declared : Table String Declared := [
  ("node_name", .text none),
  ("networks", .list),
  ("subnets", .list),
  ("records_path", .text (some defaultRecordsPath)),
  ("arp_check_enabled", .switch),
  ("arp_interface", .text none),
  ("arp_timeout", .number defaultTimeout)]

/-- The value of an option. A text may be left out, and so may a number. -/
inductive Value
  | nothing
  | text (s : String)
  | list (items : List String)
  | switch (on : Bool)
  | number (x : Binary64)
  deriving DecidableEq, Repr

namespace Value

def text? : Value → Option String
  | text s => some s
  | _ => none

def items : Value → List String
  | list items => items
  | _ => []

def isOn : Value → Bool
  | switch on => on
  | _ => false

-- Without a number there is no end of the waiting.
def timeout : Value → Timeout
  | number x => .real x
  | _ => .unlimited

def given? (v : Value) : Option String := v.text?.filter (· ≠ "")

end Value

/-- What options have been given, by their names. An option may turn out to be unreadable when it is asked for. -/
abbrev Given := String → Except Fault Value

def settings (given : Given) : Except Fault Settings := do
  match (← given "node_name").given? with
  | none => throw (.bad .noNodeOption)
  | some node =>
      let enabled ← given "arp_check_enabled"
      let interface ← given "arp_interface"
      let timeout ← given "arp_timeout"
      if enabled.isOn && interface.given?.isNone then throw (.bad .interfaceOption)
      let networks ← Specs.networks (← given "networks").items
      let subnets ← Specs.subnets (← given "subnets").items
      let recordsPath := (← given "records_path").given?
      pure {
        node, networks, subnets
        activation := ⟨enabled.isOn, interface.text?.elim .null .text, timeout.timeout⟩
        recordsPath := recordsPath.map FilePath.ofText
        watchers := [] }

end Options

/-- What reads settings: documents from their texts, and options from the file that they are in. -/
structure Settings.Readers where
  document : String → Except Fault Json
  options : Files → FilePath → Except Fault Options.Given

end PodAddressing
