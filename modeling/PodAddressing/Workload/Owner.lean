import PodAddressing.Text.Quoted
/-!
The object that a workload belongs to: a controller, or the pod itself.
-/

namespace PodAddressing

structure Owner where
  kind : String
  name : String
  uid : String := ""
  deriving DecidableEq, Repr

def podKind : String := "Pod"
def statefulSetKind : String := "StatefulSet"

-- Two owners differ if both UIDs are known and are not the same.
def Owner.uidsClash (a b : String) : Bool := a ≠ "" && b ≠ "" && a ≠ b

/-!
The kinds of resources that are watched.
-/

inductive Kind
  | pod
  | statefulSet
  | remotePeer
  | remoteSubnet
  deriving DecidableEq, Repr

namespace Kind

def all : List Kind := [pod, statefulSet, remotePeer, remoteSubnet]

def name : Kind → String
  | pod => podKind
  | statefulSet => statefulSetKind
  | remotePeer => "RemoteVtep"
  | remoteSubnet => "RemoteSubnet"

def named? (s : String) : Option Kind := all.find? (·.name == s)

end Kind

/-!
The name under which the addresses of one ordinal of a stateful owner are kept. It does not mention the
pod, so it outlives every pod that takes the ordinal.
-/

structure OrdinalKey where
  ns : String
  kind : String
  owner : String
  index : Int
  deriving DecidableEq, Repr

namespace OrdinalKey

def literal (k : OrdinalKey) : String :=
  "(" ++ String.intercalate ", " [Text.quote k.ns, Text.quote k.kind, Text.quote k.owner,
    toString k.index] ++ ")"

-- By namespace, then kind, then owner, then index.
def precedes (a b : OrdinalKey) : Bool :=
  if a.ns ≠ b.ns then a.ns < b.ns
  else if a.kind ≠ b.kind then a.kind < b.kind
  else if a.owner ≠ b.owner then a.owner < b.owner
  else a.index ≤ b.index

def sorted (keys : List OrdinalKey) : List OrdinalKey := keys.mergeSort precedes

end OrdinalKey
end PodAddressing
