import PodAddressing.Allocator.Allocate
/-!
Giving addresses back. The addresses of a stateful pod are retained, unless its owner was deleted or has been
scaled below its ordinal; all others are free again. Retained ones become free when their ordinal or their
owner is purged.
-/

namespace PodAddressing.Allocator
variable (a : Allocator)

section Limits

def ownerName (ns : String) (owner : Owner) : OwnerName := ⟨ns, owner.kind, owner.name⟩

-- A limit seen for another owner of the same name says nothing about the record.
def isBeyondLimit (r : Record) : Bool :=
  match a.limits.get? (ownerName r.ns r.binding.owner), r.binding.index with
  | some limit, some index =>
      !Owner.uidsClash limit.uid r.binding.owner.uid && limit.replicas ≤ index
  | _, _ => false

end Limits

def forgetHolder (records : List Record) (podUID : String) : Allocator :=
  let keys := records.filterMap Record.key?
  { a with holders := a.holders.filter fun (key, holder) => !(keys.contains key && holder == podUID) }

def outlives (records : List Record) : Bool :=
  records.all Record.isStateful && !records.head?.any a.isBeyondLimit

-- If the ordinal already retains something else, the addresses are free again and the conflict is reported.
def retainAll (records : List Record) : Outcome (List Record) :=
  match a.retention.retain records with
  | .ok retention => (.ok records, { a with retention })
  | .error (.retention conflict podName) =>
      match a.freeAll records with
      | (.ok (), a) => (.error (.retention conflict podName), a)
      | (.error fault, a) => (.error fault, a)
  | .error fault => (.error fault, a)

def freed (records : List Record) : Outcome (List Record) :=
  match a.freeAll records with
  | (.ok (), a) => (.ok records, a)
  | (.error fault, a) => (.error fault, a)

def release (w : Identity) : Outcome (List Record) :=
  if !w.hasBytes then (.error .unencodable, a)
  else
    let records := a.recordsFor w
    let a := { a with active := a.active.erase w.podUID }
    if records.isEmpty then (.ok [], a)
    else
      let a := a.forgetHolder records w.podUID
      if a.outlives records then a.retainAll (records.map Record.unbound) else a.freed records

def purge (w : Identity) : Outcome (List Record) :=
  if !w.hasBytes then (.error .unencodable, a)
  else
    match a.retention.purge w with
    | .error fault => (.error fault, a)
    | .ok (records, retention) => { a with retention }.freed records

/-- Frees what is retained for an owner, and remembers how many replicas it has; none is a deleted owner. -/
def purgeOwner (ns : String) (owner : Owner) (keep : Option Int) : Outcome (List Record) :=
  let limits := a.limits.put (ownerName ns owner) ⟨owner.uid, keep.getD 0⟩
  let (records, retention) := a.retention.purgeOwner ns owner keep
  { a with limits, retention }.freed records

end PodAddressing.Allocator
