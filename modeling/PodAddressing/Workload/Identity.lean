import PodAddressing.Json.Field
import PodAddressing.Network
import PodAddressing.Text.Basic
import PodAddressing.Text.Quoted
import PodAddressing.Workload.Owner
/-!
What a workload asks for: a network type, and an address of each of some families.
-/

namespace PodAddressing

structure Criteria where
  networkType : NetworkType
  families : List Family
  deriving DecidableEq, Repr

namespace Criteria
variable (c : Criteria)

def isDualStack : Bool := Family.all.all c.families.contains

-- IPv4 comes before IPv6, and a family asked for twice counts once.
def orderedFamilies : List Family := Family.all.filter c.families.contains

end Criteria

/-!
Who asks for addresses. The UID and the node of a pod change whenever the pod is made anew; the ordinal at
the end of its name and its owner do not, and the key of a stateful workload is built from these only.
-/

/-- The number after the last dash of a pod name, if digits and nothing else follow it. -/
def ordinalOf (podName : String) : Except Fault (Option Int) :=
  match Text.afterLast? '-' podName.toList with
  | none => .ok none
  | some suffix =>
      if suffix.isEmpty || !suffix.all Text.isDigit then .ok none
      else (Json.integerOfText (String.ofList suffix)).map some

structure Identity where
  ns : String
  podName : String
  owner : Owner
  podUID : String := ""
  nodeName : String := ""
  statefulKinds : List String := [statefulSetKind]
  deriving DecidableEq, Repr

namespace Identity

-- A pod without a controller is its own owner.
def ofPod (ns podName podUID nodeName : String) (owner : Option Owner) : Identity where
  ns := ns
  podName := podName
  owner := owner.getD ⟨podKind, podName, podUID⟩
  podUID := podUID
  nodeName := nodeName

variable (w : Identity)

def place : String := w.ns ++ "/" ++ w.podName

/-- Whether the place can be written as bytes. A pod without them is not served. -/
def hasBytes : Bool := !Text.hasHalf w.place

def ordinal : Except Fault (Option Int) := ordinalOf w.podName

def isOwnedByStateful : Bool := w.statefulKinds.contains w.owner.kind

def index : Except Fault (Option Int) :=
  if w.isOwnedByStateful then w.ordinal else .ok none

def isStateful : Except Fault Bool := w.index.map (·.isSome)

def keyAt (ordinal : Int) : OrdinalKey := ⟨w.ns, w.owner.kind, w.owner.name, ordinal⟩

def key : Except Fault OrdinalKey := do
  match ← w.ordinal with
  | some ordinal => pure (w.keyAt ordinal)
  | none => throw (.bad (.noOrdinal w.podName))

def statefulKey? : Except Fault (Option OrdinalKey) := w.index.map (·.map w.keyAt)

end Identity
end PodAddressing
