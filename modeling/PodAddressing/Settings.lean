import PodAddressing.Activation
import PodAddressing.Files
import PodAddressing.Json.Field
import PodAddressing.Link
import PodAddressing.Network
/-!
The settings of an agent: the node it runs on, the networks and subnets it allocates from, whether addresses
are checked before use, where records are kept and which files are watched.
-/

namespace PodAddressing

/-- An interface that is not a text is kept as it was given; it fails when it is used. -/
structure ActivationSettings where
  enabled : Bool
  interface : Json
  timeout : Timeout
  deriving Repr

structure WatcherSettings where
  type : String
  kind : String
  path : FilePath
  interval : Number.Binary64
  deriving DecidableEq, Repr

structure Settings where
  node : String
  networks : List Network
  subnets : List Subnet
  activation : ActivationSettings
  recordsPath : Option FilePath
  watchers : List WatcherSettings
  deriving Repr

/-!
Networks and subnets written on one line each: `name:type` or `name:type:family+family` for a network,
`name:network:cidr` or `name:network:cidr@gateway` for a subnet, whose cidr may have colons of its own.
-/

namespace Specs

-- What follows the families is not looked at.
def network (spec : String) : Except Fault Network :=
  match Text.pieces ':' spec with
  | name :: type :: rest => do
      let families ←
        match rest with
        | [] | "" :: _ => pure [.v4]
        | given :: _ => (Text.pieces '+' given).mapM Family.ofText
      let type ← NetworkType.ofText type
      pure ⟨name, type, families⟩
  | _ => .error (.bad (.networkSpec spec))

def cidrAndGateway (cs : List Char) : String × Option String :=
  let (cidr, gateway) := Text.cutFirst '@' cs
  (String.ofList cidr, (gateway.filter (!·.isEmpty)).map String.ofList)

def subnet (spec : String) : Except Fault Subnet :=
  let (name, rest) := Text.cutFirst ':' spec.toList
  match rest.map (Text.cutFirst ':') with
  | some (network, some rest) =>
      let (cidr, gateway) := cidrAndGateway rest
      .ok { name := String.ofList name, network := String.ofList network, cidr, gateway }
  | _ => .error (.bad (.subnetSpec spec))

def networks (specs : List String) : Except Fault (List Network) := specs.mapM network

def subnets (specs : List String) : Except Fault (List Subnet) := specs.mapM subnet

end Specs

/-!
Settings from a document. The forms of the sections are looked at before their contents.
-/

namespace Settings

open Number

def listOr (fault : BadValue) : Json → Except Fault (List Json)
  | .list items => .ok items
  | _ => .error (.bad fault)

def isObject : Json → Bool
  | .object _ => true
  | _ => false

def pathOf : Json → Except Fault FilePath
  | .text s => .ok (FilePath.ofText s)
  | _ => .error .unsuitable

-- Families that hold nothing are the default ones.
def networkOf (entry : Json) : Except Fault Network := do
  let given ← Json.fieldOr "families" .null entry
  let families ← if given.holds then (← given.items).mapM Family.ofJson else pure [.v4]
  let name ← Json.textField "name" entry
  let type ← NetworkType.ofText (← Json.textField "type" entry)
  pure ⟨name, type, families⟩

def subnetOf (entry : Json) : Except Fault Subnet := do
  let excluded ← listOr .excludedForm (← Json.fieldOr "excluded" (.list []) entry)
  let name ← Json.textField "name" entry
  let network ← Json.textField "network" entry
  let cidr ← Json.textField "cidr" entry
  let gateway ← Json.textField? "gateway" entry
  let start ← Json.textField? "start" entry
  let stop ← Json.textField? "end" entry
  pure { name, network, cidr, gateway, excluded := excluded.map Json.describe, start, stop }

def activationOf (v : Json) : Except Fault ActivationSettings := do
  if !isObject v then throw (.bad .activationForm)
  let enabled := (← Json.fieldOr "enabled" (.boolean false) v).holds
  let interface ← Json.fieldOr "interface" .null v
  let timeout ←
    match ← Json.field? "timeout" v with
    | some given => Timeout.real <$> given.toReal
    | none => pure Activation.defaultTimeout
  if enabled && !interface.holds then throw (.bad .activationInterface)
  pure ⟨enabled, interface, timeout⟩

def defaultInterval : Json := .real (.ofRatio false 5 1)

def watcherOf (entry : Json) : Except Fault WatcherSettings := do
  let type ← Json.textFieldOr "type" "file" entry
  let kind ← Json.textField "kind" entry
  let path ← pathOf (← Json.fieldOr "path" (.text ".") entry)
  let polled ← Json.fieldOr "poll_interval" defaultInterval entry
  let interval ← (← Json.fieldOr "interval" polled entry).toReal
  pure ⟨type, kind, path, interval⟩

/-- Where records are kept; a path that holds nothing is none. -/
def recordsPathOf (records : Json) : Except Fault Json :=
  Json.fieldOr "path" .null (if records.holds then records else .object [])

def ofJson (v : Json) : Except Fault Settings := do
  if !isObject v then throw (.bad .settingsForm)
  let node ← Json.fieldOr "node" .null v
  if !node.holds then throw (.bad .noNode)
  let networks ← listOr .networkSections (← Json.fieldOr "networks" (.list []) v)
  let subnets ← listOr .networkSections (← Json.fieldOr "subnets" (.list []) v)
  let watchers ← listOr .watcherSection (← Json.fieldOr "watchers" (.list []) v)
  let recordsPath ← recordsPathOf (← Json.fieldOr "records" .null v)
  let networks ← networks.mapM networkOf
  let subnets ← subnets.mapM subnetOf
  let activation ← activationOf (← Json.fieldOr "activation" (.object []) v)
  let recordsPath ← if recordsPath.holds then some <$> pathOf recordsPath else pure none
  let watchers ← watchers.mapM watcherOf
  pure ⟨node.describe, networks, subnets, activation, recordsPath, watchers⟩

end Settings

end PodAddressing
