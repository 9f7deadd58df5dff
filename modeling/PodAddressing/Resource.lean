import PodAddressing.Address.Basic
import PodAddressing.Json.Field
import PodAddressing.Network
import PodAddressing.Text.Basic
import PodAddressing.Workload.Identity
import PodAddressing.Workload.Owner
/-!
Ordered lists of addresses, given as a list or as one text with commas. Every address is kept in its
canonical spelling, and a list in another order is another list.
-/

namespace PodAddressing

namespace AddressList

def canonical (item : String) : Except Fault String :=
  (Address.ofText (Text.trimmed item)).map Address.text

def ofTexts (items : List String) : Except Fault (List String) := items.mapM canonical

-- Neither null nor the empty text lists anything.
def ofJson : Json → Except Fault (List String)
  | .null => .ok []
  | .text s => if s = "" then .ok [] else ofTexts (Text.pieces ',' s)
  | v => do ofTexts ((← v.items).map Json.describe)

def equal (a b : List String) : Bool := a.length == b.length && (a.zip b).all fun (x, y) => x == y

end AddressList

/-!
Pods and stateful sets, as far as addressing is concerned with them.
-/

structure Pod where
  ns : String
  name : String
  uid : String
  nodeName : String
  owner : Option Owner
  networkType : NetworkType
  families : List Family
  subnets : Option (List String)
  deriving DecidableEq, Repr

namespace Pod

def ownerOf (v : Json) : Except Fault (Option Owner) :=
  if v.holds then do
    let kind ← Json.textField "kind" v
    let name ← Json.textField "name" v
    let uid ← Json.textFieldOr "uid" "" v
    pure (some ⟨kind, name, uid⟩)
  else .ok none

/-- The texts in a list that counts only if it holds something. -/
def subnetsOf (v : Json) : Except Fault (Option (List String)) :=
  if v.holds then do pure (some ((← v.items).map Json.describe)) else .ok none

-- Families that hold nothing are the default ones.
def ofJson (v : Json) : Except Fault Pod := do
  let families ← Json.fieldOr "families" .null v
  let subnets ← Json.fieldOr "subnets" .null v
  let ns ← Json.textFieldOr "namespace" "default" v
  let name ← Json.textField "name" v
  let uid ← Json.textField "uid" v
  let nodeName ← Json.textFieldOr "nodeName" "" v
  let owner ← ownerOf (← Json.fieldOr "owner" .null v)
  let networkType ← NetworkType.ofText (← Json.textFieldOr "networkType" NetworkType.underlay.name v)
  let families ← if families.holds then (← families.items).mapM Family.ofJson else pure [.v4]
  let subnets ← subnetsOf subnets
  pure ⟨ns, name, uid, nodeName, owner, networkType, families, subnets⟩

variable (p : Pod)

def identity : Identity := .ofPod p.ns p.name p.uid p.nodeName p.owner

def criteria : Criteria := ⟨p.networkType, p.families⟩

def isScheduled : Bool := p.nodeName ≠ ""

end Pod

structure StatefulSet where
  ns : String
  name : String
  uid : String
  replicas : Int
  deriving DecidableEq, Repr

namespace StatefulSet

def ofJson (v : Json) : Except Fault StatefulSet := do
  let ns ← Json.textFieldOr "namespace" "default" v
  let name ← Json.textField "name" v
  let uid ← Json.textFieldOr "uid" "" v
  let replicas ← Json.toInteger (← Json.fieldOr "replicas" (.integer 0) v)
  pure ⟨ns, name, uid, replicas⟩

def reference (s : StatefulSet) : Owner := ⟨statefulSetKind, s.name, s.uid⟩

end StatefulSet

/-!
What other clusters publish: tunnel endpoints and subnets. They are written anew often; the changes that
matter to forwarding are told from those that do not.
-/

structure RemotePeer where
  name : String
  cluster : String
  node : String
  vtepIP : String
  vtepMAC : String
  nodeLocalIPs : List String
  endpointIPs : List String
  deriving DecidableEq, Repr

namespace RemotePeer

/-- The annotation that lists the addresses of a node, where the node does not list them itself. -/
def nodeLocalAnnotation : String := "networking.podnet.io/node-local-vxlan-ip-list"

def ofJson (v : Json) : Except Fault RemotePeer := do
  let annotations ← Json.fieldOr "annotations" .null v
  let annotated ←
    Json.fieldOr nodeLocalAnnotation .null (if annotations.holds then annotations else .object [])
  let nodeLocal ← Json.fieldOr "nodeLocalVxlanIPs" annotated v
  let name ← Json.textField "name" v
  let cluster ← Json.textFieldOr "cluster" "" v
  let node ← Json.textFieldOr "node" name v
  let vtepIP ← Address.ofJson (← Json.field "vtepIP" v)
  let vtepMAC ← Json.textField "vtepMAC" v
  let nodeLocalIPs ← AddressList.ofJson nodeLocal
  let endpointIPs ← AddressList.ofJson (← Json.fieldOr "endpointIPs" .null v)
  pure ⟨name, cluster, node, vtepIP.text, Text.lower vtepMAC, nodeLocalIPs, endpointIPs⟩

-- The node and the names play no part in forwarding.
def changed (old new : RemotePeer) : Bool :=
  old.vtepIP != new.vtepIP || old.vtepMAC != new.vtepMAC ||
    !AddressList.equal old.nodeLocalIPs new.nodeLocalIPs ||
    !AddressList.equal old.endpointIPs new.endpointIPs

end RemotePeer

structure RemoteSubnet where
  name : String
  cluster : String
  networkType : NetworkType
  cidr : String
  gateway : Option String
  deriving DecidableEq, Repr

namespace RemoteSubnet

def ofJson (v : Json) : Except Fault RemoteSubnet := do
  let name ← Json.textField "name" v
  let cluster ← Json.textFieldOr "cluster" "" v
  let networkType ← NetworkType.ofText (← Json.textFieldOr "networkType" NetworkType.overlay.name v)
  let block ← Block.ofJson (← Json.field "cidr" v)
  let gateway ← Json.textField? "gateway" v
  pure ⟨name, cluster, networkType, block.text, gateway⟩

def changed (old new : RemoteSubnet) : Bool :=
  old.cidr != new.cidr || old.gateway != new.gateway || old.networkType != new.networkType ||
    old.cluster != new.cluster

end RemoteSubnet

/-!
Snapshots: resources of any kind, and the keys by which they are told apart.
-/

inductive Snapshot
  | pod (p : Pod)
  | statefulSet (s : StatefulSet)
  | remotePeer (p : RemotePeer)
  | remoteSubnet (s : RemoteSubnet)
  deriving DecidableEq, Repr

namespace Snapshot

def ofJson : Kind → Json → Except Fault Snapshot
  | .pod, v => (Pod.ofJson v).map pod
  | .statefulSet, v => (StatefulSet.ofJson v).map statefulSet
  | .remotePeer, v => (RemotePeer.ofJson v).map remotePeer
  | .remoteSubnet, v => (RemoteSubnet.ofJson v).map remoteSubnet

def name : Snapshot → String
  | pod p => p.name
  | statefulSet s => s.name
  | remotePeer p => p.name
  | remoteSubnet s => s.name

/-- The namespace and the name of an entry, or the name alone. -/
def keyOf (entry : Json) : Except Fault String := do
  let ns ← Json.textField? "namespace" entry
  let name ← Json.textField "name" entry
  pure (ns.elim name fun ns => ns ++ "/" ++ name)

end Snapshot

end PodAddressing
