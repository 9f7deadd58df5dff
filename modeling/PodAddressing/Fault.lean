import PodAddressing.Workload.Owner
/-!
Everything that can go wrong, by cause, and the wording of each. Three causes concern the form of a value
that was read (a field is missing, a value without fields was asked for one, a value is of no use where it
stands); a bad value has the right form and the wrong content.
-/

namespace PodAddressing

inductive BadValue
  | networkType (given : String)
  | family (given : String)
  | address (literal : String)
  | block (literal : String)
  | integer (literal : String)
  | tooManyDigits (count : Nat)
  | real (literal : String)
  | wholeOfNoNumber
  | noOrdinal (podName : String)
  | noStatefulIndex (record : String)
  | emptyRange (subnet : String)
  | foreignFamily (address subnet : String)
  | notAllocatable (address subnet : String)
  | unknownNetwork (subnet network : String)
  | unsupportedFamily (network family : String)
  | subnetRegistered (subnet : String)
  | subnetInUse (subnet : String)
  | noUID (ns podName : String)
  | noFamily
  | mixedWorkloads (keys : List OrdinalKey)
  | stillBound (record podUID : String)
  | noInterface (name : String)
  | notIPv4 (role address : String)
  | settingsForm
  | noNode
  | networkSections
  | watcherSection
  | excludedForm
  | activationForm
  | activationInterface
  | noNodeOption
  | interfaceOption
  | networkSpec (spec : String)
  | subnetSpec (spec : String)
  | handlerRegistered (kind : String)
  | resourceKind (kind : String)
  | watcherType (given : String)
  | noRecordList (path : String)
  | noFileName (path : String)
  | nullInPath
  deriving DecidableEq, Repr

def BadValue.message : BadValue → String
  | networkType given => s!"Unsupported network type '{given}'"
  | family given => s!"Unsupported address family '{given}'"
  | address literal => s!"{literal} does not appear to be an IPv4 or IPv6 address"
  | block literal => s!"{literal} does not appear to be an IPv4 or IPv6 network"
  | integer literal =>
      s!"invalid literal for int() with base 10: {String.ofList (literal.toList.take 200)}"
  | tooManyDigits count =>
      "Exceeds the limit (4300 digits) for integer string conversion: value has " ++
        s!"{toString count} digits; use sys.set_int_max_str_digits() to increase the limit"
  | real literal => s!"could not convert string to float: {literal}"
  | wholeOfNoNumber => "cannot convert float NaN to integer"
  | noOrdinal podName => s!"pod name '{podName}' carries no ordinal"
  | noStatefulIndex record => s!"record {record} carries no stateful index"
  | emptyRange subnet => s!"subnet {subnet} has an empty usable range"
  | foreignFamily addr subnet =>
      s!"address {addr} does not belong to the family of subnet {subnet}"
  | notAllocatable addr subnet => s!"address {addr} is not allocatable in subnet {subnet}"
  | unknownNetwork subnet network => s!"subnet {subnet} refers to unknown network {network}"
  | unsupportedFamily network missing => s!"network {network} does not support {missing}"
  | subnetRegistered subnet => s!"subnet '{subnet}' already registered"
  | subnetInUse subnet => s!"subnet '{subnet}' still has addresses in use"
  | noUID ns podName => s!"pod {ns}/{podName} has no uid"
  | noFamily => "allocation criteria request no address family"
  | mixedWorkloads keys =>
      "records belong to different workloads: [" ++
        String.intercalate ", " (keys.map OrdinalKey.literal) ++ "]"
  | stillBound record podUID => s!"record {record} is still bound to pod {podUID}"
  | noInterface name => s!"interface '{name}' not found"
  | notIPv4 role given => s!"ARP activation needs an IPv4 {role}, got {given}"
  | settingsForm => "Agent configuration must be a mapping"
  | noNode => "Configuration missing 'node'"
  | networkSections => "'networks' and 'subnets' sections must be lists"
  | watcherSection => "'watchers' section must be a list"
  | excludedForm => "subnet 'excluded' must be a list if provided"
  | activationForm => "'activation' section must be a mapping"
  | activationInterface => "activation requires an 'interface' when enabled"
  | noNodeOption => "oslo configuration missing [ipam] node_name"
  | interfaceOption => "[ipam] arp_interface is required when arp_check_enabled"
  | networkSpec spec => s!"Invalid network spec '{spec}'"
  | subnetSpec spec => s!"Invalid subnet spec '{spec}'"
  | handlerRegistered kind => s!"handler for kind '{kind}' already registered"
  | resourceKind kind => s!"unsupported resource kind '{kind}'"
  | watcherType given => s!"unsupported watcher type '{given}'"
  | noRecordList path => s!"records file {path} missing 'records' list"
  | noFileName path => s!"PosixPath({Text.quote path}) has an empty name"
  | nullInPath => "embedded null byte"

inductive Conflict
  | notStateful (ns podName kind : String)
  | unreadableOrdinal (ns podName : String)
  | stillHeld (ns podName holder : String)
  | otherFamilies (podName : String) (kept wanted : List String)
  | otherNetworkType (podName address networkType network : String)
  | otherOwner (address kept wanted : String)
  | occupied (key : OrdinalKey) (addresses : List String)
  | reported (text : String)
  deriving DecidableEq, Repr

def Conflict.message : Conflict → String
  | notStateful ns podName kind =>
      s!"pod {ns}/{podName} is not owned by a stateful controller (owner kind {kind})"
  | unreadableOrdinal ns podName => s!"ordinal of pod {ns}/{podName} is unparsable"
  | stillHeld ns podName holder =>
      s!"ordinal of pod {ns}/{podName} is still held by pod uid {holder}"
  | otherFamilies podName kept wanted =>
      s!"pod {podName} retains {Text.quoteAll kept} but requests {Text.quoteAll wanted}"
  | otherNetworkType podName address networkType network =>
      s!"pod {podName} retains address {address} in {networkType} network {network}"
  | otherOwner address kept wanted =>
      s!"address {address} is retained for owner uid {kept}, not {wanted}"
  | occupied key addresses =>
      s!"{key.kind} {key.ns}/{key.owner} ordinal {toString key.index} already retains " ++
        Text.quoteAll addresses
  | reported text => text

/-- What stopped a frame: the sending itself, or the wait for a reply. -/
inductive Cause
  | sending (text : String)
  | silence (timeout : String)
  deriving DecidableEq, Repr

def Cause.text : Cause → String
  | sending text => text
  | silence timeout => s!"no reply within {timeout}s"

inductive FileFault
  | missing
  | directory
  | notDirectory
  | occupied
  | busy
  | nameTooLong
  deriving DecidableEq, Repr

def FileFault.text : FileFault → String
  | missing => "there is no such file or directory"
  | directory => "this is a directory"
  | notDirectory => "this is not a directory"
  | occupied => "there is something already"
  | busy => "this cannot be replaced"
  | nameTooLong => "the name is too long"

/-- The families of faults of address management; activation and allocation are part of addressing. -/
inductive FaultGroup
  | allocation
  | activation
  | addressing
  deriving DecidableEq, Repr

inductive Fault
  | missing (name : String)
  | noFields
  | unsuitable
  | overflow
  | malformed
  | tooDeep
  | undecodable
  | unencodable
  | file (fault : FileFault) (path : String)
  | noOptionFile (path : String)
  | badOptionFile
  | badOption
  | noOption (name : String)
  | noOptionGroup (name : String)
  | optionGroup (name : String)
  | outOfRange
  | bad (value : BadValue)
  | noEligibleSubnet (networkType family : String)
  | exhausted (family : String) (subnets : List String)
  | retention (conflict : Conflict) (podName : String)
  | gatewayUnreachable (interface source gateway : String) (cause : Option Cause)
  | duplicateAddress (address responder : String)
  | announceFailed (address : String) (cause : Option Cause)
  | general (group : FaultGroup) (text : String)
  deriving DecidableEq, Repr

namespace Fault

def message : Fault → String
  | missing name => Text.quote name
  | noFields => "the value has no fields"
  | unsuitable => "the value is of no use here"
  | overflow => "the number is out of range"
  | malformed => "the text is not JSON"
  | tooDeep => "values are nested too deeply, or refer to themselves"
  | undecodable => "the bytes are not UTF-8"
  | unencodable => "the text has no bytes"
  | file fault path => s!"{path}: {fault.text}"
  | noOptionFile path => s!"Failed to find some config files: {path}"
  | badOptionFile => "the option file breaks the grammar"
  | badOption => "the option has a bad value"
  | noOption name => s!"there is no option {name}"
  | noOptionGroup name => s!"there is no group of options {name}"
  | optionGroup name => s!"{name} is a group of options"
  | outOfRange => "there are not so many"
  | bad value => value.message
  | noEligibleSubnet networkType family =>
      s!"no eligible {networkType} subnet for address family {family}"
  | exhausted family subnets => s!"no free {family} address left in subnets {Text.quoteAll subnets}"
  | retention conflict _ => conflict.message
  | gatewayUnreachable interface source gateway cause =>
      s!"arp resolve from pod {source} to gateway {gateway} failed: " ++
        (cause.map Cause.text).getD "no reply" ++
        s!"; vlan network seems not working, please check the setting of {interface}'s upper " ++
        "physical switch port first"
  | duplicateAddress address responder =>
      s!"pod ip {address} duplicated, please check if ip {address} is occupied by other " ++
        s!"machines or containers, another hw addr is {responder}"
  | announceFailed address cause =>
      s!"send gratuitous arp for pod {address} failed: " ++ (cause.map Cause.text).getD "None"
  | general _ text => text

/-- The groups that a fault belongs to, the nearest first. -/
def groups : Fault → List FaultGroup
  | noEligibleSubnet .. | exhausted .. => [.allocation, .addressing]
  | retention .. => [.addressing]
  | gatewayUnreachable .. | duplicateAddress .. | announceFailed .. => [.activation, .addressing]
  | general .addressing _ => []
  | general _ _ => [.addressing]
  | _ => []

-- Readers of lists drop an entry with one of these and go on; any other fault ends the reading.
def spoilsEntryOnly : Fault → Bool
  | missing _ | unsuitable | bad _ | malformed | undecodable | unencodable => true
  | _ => false

def isActivation (f : Fault) : Bool := f.groups.contains .activation

end Fault
end PodAddressing
