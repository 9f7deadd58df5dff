import PodAddressing.AddressCheck
import PodAddressing.Agent.Basic
import PodAddressing.Settings
import PodAddressing.Settings.Options
/-!
The agent as a program: its command line, where its settings come from, and what a run up to the first polls
leaves behind.
-/

namespace PodAddressing.Agent

def configOption : String := "--config"
def optionFileOption : String := "--oslo-config-file"

def grammar : CommandLine.Grammar where
  options := [
    (configOption, .value fun _ => true),
    (optionFileOption, .value fun _ => true),
    ("--verbose", .flag)]

def defaultConfig : String := "/etc/podnet/agent.yaml"

/-- Where settings come from: a document, an option file, or nothing that could be read. -/
inductive Source
  | document (path : FilePath)
  | optionFile (path : FilePath)
  | nothing
  deriving DecidableEq, Repr

namespace Source

-- If both are named, the option file counts.
def ofArguments (arguments : CommandLine.Arguments) : Source :=
  match arguments.values.get? optionFileOption, arguments.values.get? configOption with
  | some value, _ => .optionFile (FilePath.ofText value.shown)
  | none, none => .document (FilePath.ofText defaultConfig)
  | none, some (.text path) => .document (FilePath.ofText path)
  | none, some .mark => .nothing

def path? : Source → Option FilePath
  | document path => some path
  | optionFile path => some path
  | nothing => none

def settings (readers : Settings.Readers) (files : Files) : Source → Except Fault Settings
  | document path => do Settings.ofJson (← readers.document (← Document.textOf (← files.read path)))
  | optionFile path => do Options.settings (← readers.options files path)
  | nothing => .error .noFields

end Source

def filesOf (settings : Settings) : List FilePath :=
  settings.recordsPath.toList ++ settings.watchers.map (·.path)

/-- A run up to the first polls; there is no agent if it ended before the handlers were in place. -/
structure Run where
  ending : Ending
  agent : Option Agent

def run (readers : Settings.Readers) (files : Files) (segment : Segment) (macs : MacSource)
    (args : List String) : Run :=
  match CommandLine.parse grammar args with
  | .error code => ⟨.refused code, none⟩
  | .ok arguments =>
      match (Source.ofArguments arguments).settings readers files with
      | .error fault => ⟨.failed fault, none⟩
      | .ok settings =>
          match wire settings files segment macs with
          | .error fault => ⟨.failed fault, none⟩
          | .ok agent =>
              match agent.watch settings.watchers with
              | (.ok (), agent) => ⟨.status 0, some agent⟩
              | (.error fault, agent) => ⟨.failed fault, some agent⟩

end PodAddressing.Agent
