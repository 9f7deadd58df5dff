import PodAddressing.Allocator.Rebuild
import PodAddressing.Allocator.Release
import PodAddressing.Retention
/-!
The operations of the allocator as data, and runs of them. A run goes on after an operation that fails.
-/

namespace PodAddressing

namespace Allocator

inductive Op
  | addNetwork (network : Network)
  | addSubnet (subnet : Subnet)
  | removeSubnet (name : String)
  | allocate (w : Identity) (c : Criteria) (eligible : Option (List String))
  | release (w : Identity)
  | purge (w : Identity)
  | purgeOwner (ns : String) (owner : Owner) (keep : Option Int)
  | rebuild (records : List Record)
  deriving DecidableEq, Repr

variable (a : Allocator)

-- A registration that fails changes nothing.
def registered : Except Fault Allocator → Outcome (List Record)
  | .ok a => (.ok [], a)
  | .error fault => (.error fault, a)

def apply : Op → Outcome (List Record)
  | .addNetwork network => (.ok [], a.addNetwork network)
  | .addSubnet subnet => a.registered (a.addSubnet subnet)
  | .removeSubnet name => a.registered (a.removeSubnet name)
  | .allocate w c eligible => a.allocate w c eligible
  | .release w => a.release w
  | .purge w => a.purge w
  | .purgeOwner ns owner keep => a.purgeOwner ns owner keep
  | .rebuild records =>
      let (skipped, a) := a.rebuild records
      (.ok skipped, a)

def run (a : Allocator) (ops : List Op) : Allocator := ops.foldl (fun a op => (a.apply op).2) a

end Allocator

/-!
A store that is passed to an allocator, and that others go on using. Stores are referred to by number, and whoever
refers to one number sees one store. The allocator refers to the store that was passed if it has taken it over, and
to another one otherwise.
-/

structure Sharing where
  stores : Table Nat Retention
  own : Nat
  allocator : Allocator

namespace Sharing
variable (s : Sharing)

def passed : Nat := 0

def read (ref : Nat) : Retention := (s.stores.get? ref).getD {}

def write (ref : Nat) (store : Retention) : Sharing := { s with stores := s.stores.put ref store }

def current : Allocator := { s.allocator with retention := s.read s.own }

def make (macs : MacSource) (networks : List Network) (subnets : List Subnet) (given : Retention) :
    Except Fault Sharing :=
  (Allocator.create macs networks subnets (some given)).map fun a =>
    if Allocator.takesOver (some given) then ⟨[(passed, given)], passed, a⟩
    else ⟨[(passed, given), (passed + 1, a.retention)], passed + 1, a⟩

/-- What is done with the allocator, or with the store that was passed to it. -/
inductive Act
  | operate (op : Allocator.Op)
  | direct (call : Retention.Call)
  deriving DecidableEq, Repr

def act : Act → Sharing
  | .operate op =>
      let (_, a) := s.current.apply op
      { s.write s.own a.retention with allocator := a }
  | .direct call => s.write passed ((s.read passed).apply call).2

def run (s : Sharing) (acts : List Act) : Sharing := acts.foldl act s

end Sharing

end PodAddressing
