import PodAddressing.Address.Basic
import PodAddressing.Json.Field
import PodAddressing.Workload.Owner
/-!
Address records: an address and who it is bound to. A record without a pod UID and a node is retained, that
is, it waits for the next pod of its ordinal.
-/

namespace PodAddressing

structure Binding where
  podUID : String
  podName : String
  nodeName : String
  owner : Owner
  index : Option Int
  deriving DecidableEq, Repr

def Binding.isRetained (b : Binding) : Bool := b.podUID == "" && b.nodeName == ""

structure Record where
  address : String
  family : Family
  mac : String
  subnet : String
  network : String
  ns : String
  binding : Binding
  deriving DecidableEq, Repr

namespace Record
variable (r : Record)

def name : String :=
  String.ofList (r.address.toList.map fun c => if c = '.' || c = ':' then '-' else c)

def isStateful : Bool := r.binding.index.isSome

def keyAt (index : Int) : OrdinalKey := ⟨r.ns, r.binding.owner.kind, r.binding.owner.name, index⟩

def key? : Option OrdinalKey := r.binding.index.map r.keyAt

def key : Except Fault OrdinalKey :=
  match r.key? with
  | some k => .ok k
  | none => .error (.bad (.noStatefulIndex r.name))

/-- Takes the record from its pod; it stays with the owner and the ordinal. -/
def unbound : Record := { r with binding := { r.binding with podUID := "", nodeName := "" } }

def boundTo (podUID podName nodeName : String) : Record :=
  { r with binding := { r.binding with podUID, podName, nodeName } }

section Persisted

def indexFields : Option Int → List (String × Json)
  | none => []
  | some index => [("stateful", .object [("index", .integer index)])]

def toJson : Json :=
  .object [
    ("address", .text r.address),
    ("family", .text r.family.name),
    ("mac", .text r.mac),
    ("subnet", .text r.subnet),
    ("network", .text r.network),
    ("namespace", .text r.ns),
    ("binding", .object ([
      ("podUID", .text r.binding.podUID),
      ("podName", .text r.binding.podName),
      ("nodeName", .text r.binding.nodeName),
      ("referredObject", .object [
        ("kind", .text r.binding.owner.kind),
        ("name", .text r.binding.owner.name),
        ("uid", .text r.binding.owner.uid)])] ++ indexFields r.binding.index))]

/-- A field of which any value that holds nothing counts as an object without fields. -/
def objectField (name : String) (v : Json) : Except Fault Json :=
  (Json.fieldOr name .null v).map fun found => if found.holds then found else .object []

def familyOf (given : Option Json) (address : String) : Except Fault Family :=
  match given.filter Json.holds with
  | some family => Family.ofJson family
  | none => (Address.ofText address).map (·.family)

def ownerOf (referred : Json) (podName : String) : Except Fault Owner := do
  let kind ← Json.textFieldOr "kind" podKind referred
  let name ← Json.textFieldOr "name" podName referred
  let uid ← Json.textFieldOr "uid" "" referred
  pure ⟨kind, name, uid⟩

def indexOf (stateful : Option Json) : Except Fault (Option Int) :=
  match stateful.filter Json.holds with
  | none => .ok none
  | some v => do
      let index ← Json.field "index" v
      some <$> Json.toInteger index

-- Left out, the family is that of the address, and the owner is the pod.
def ofJson (v : Json) : Except Fault Record := do
  let binding ← objectField "binding" v
  let referred ← objectField "referredObject" binding
  let stateful ← Json.field? "stateful" binding
  let address ← Json.textField "address" v
  let family ← familyOf (← Json.field? "family" v) address
  let mac ← Json.textField "mac" v
  let subnet ← Json.textField "subnet" v
  let network ← Json.textField "network" v
  let ns ← Json.textFieldOr "namespace" "default" v
  let podUID ← Json.textFieldOr "podUID" "" binding
  let podName ← Json.textFieldOr "podName" "" binding
  let nodeName ← Json.textFieldOr "nodeName" "" binding
  let owner ← ownerOf referred podName
  let index ← indexOf stateful
  pure ⟨address, family, mac, subnet, network, ns, ⟨podUID, podName, nodeName, owner, index⟩⟩

end Persisted
end Record
end PodAddressing
