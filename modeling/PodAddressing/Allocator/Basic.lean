import PodAddressing.Link
import PodAddressing.Pool
import PodAddressing.Retention
import PodAddressing.Workload.Identity
/-!
The allocator: networks, a pool for each subnet, the records of every pod that has addresses, the pod that
holds each stateful ordinal, and the retained records. It also remembers the replica count last seen of each
owner. An operation that fails may still have changed something, so its outcome is the answer together with
the allocator after it.
-/

namespace PodAddressing

structure OwnerName where
  ns : String
  kind : String
  name : String
  deriving DecidableEq, Repr

/-- The replica count of an owner, and the UID of the owner that it was seen for. -/
structure Limit where
  uid : String
  replicas : Int
  deriving DecidableEq, Repr

structure Allocator where
  networks : Table String Network := []
  pools : Table String Pool := []
  active : Table String (List Record) := []
  holders : Table OrdinalKey String := []
  limits : Table OwnerName Limit := []
  retention : Retention := {}
  macs : MacSource

namespace Allocator

abbrev Outcome (α : Type) := Except Fault α × Allocator

variable (a : Allocator)

section Registering

-- A network registered again under its name is replaced.
def addNetwork (network : Network) : Allocator :=
  { a with networks := a.networks.put network.name network }

def addSubnet (s : Subnet) : Except Fault Allocator := do
  match a.networks.get? s.network with
  | none => throw (.bad (.unknownNetwork s.name s.network))
  | some network =>
      let family ← s.family
      if !network.supports family then throw (.bad (.unsupportedFamily network.name family.name))
      else if a.pools.has s.name then throw (.bad (.subnetRegistered s.name))
      else
        let pool ← Pool.ofSubnet s
        pure { a with pools := a.pools.put s.name pool }

def removeSubnet (name : String) : Except Fault Allocator :=
  match a.pools.get? name with
  | none => .ok a
  | some pool =>
      if pool.used.isEmpty then .ok { a with pools := a.pools.erase name }
      else .error (.bad (.subnetInUse name))

-- A given store that holds nothing is not taken over; the allocator starts one of its own instead.
def takesOver (given : Option Retention) : Bool := given.any fun s => 0 < s.size

/-- An allocator over networks and subnets; `given` is a store of retained records to work on. -/
def create (macs : MacSource) (networks : List Network) (subnets : List Subnet)
    (given : Option Retention := none) : Except Fault Allocator :=
  let retention := (given.filter fun s => takesOver (some s)).getD {}
  subnets.foldlM addSubnet (networks.foldl addNetwork { macs, retention })

end Registering

section Queries

def subnet? (name : String) : Option Subnet := (a.pools.get? name).map (·.subnet)

def pool (name : String) : Except Fault Pool :=
  match a.pools.get? name with
  | some pool => .ok pool
  | none => .error (.missing name)

def recordsFor (w : Identity) : List Record := (a.active.get? w.podUID).getD []

/-- All records: those of the active pods in the order in which they became so, then the retained ones. -/
def records : List Record := a.active.values.flatten ++ a.retention.records

end Queries
end Allocator
end PodAddressing
