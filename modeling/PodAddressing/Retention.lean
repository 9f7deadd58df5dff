import PodAddressing.Record
import PodAddressing.Table
import PodAddressing.Workload.Identity
/-!
Retained addresses: the records of an ordinal of a stateful owner, kept while no pod has it. They are found
by namespace, owner and ordinal. The UID of the owner is compared on every access, so an owner that was made
anew under the same name does not get what was kept for the one before.
-/

namespace PodAddressing

structure Retention where
  groups : Table OrdinalKey (List Record) := []
  deriving DecidableEq, Repr

namespace Retention

/-- The key of a workload that may have retained records at all. -/
def keyOf (w : Identity) : Except Fault OrdinalKey :=
  if !w.isOwnedByStateful then
    .error (.retention (.notStateful w.ns w.podName w.owner.kind) w.podName)
  else
    match w.ordinal with
    | .error fault => .error fault
    | .ok none => .error (.retention (.unreadableOrdinal w.ns w.podName) w.podName)
    | .ok (some ordinal) => .ok (w.keyAt ordinal)

/-- The first record that is kept for another owner than the one of the workload. -/
def foreign? (w : Identity) (records : List Record) : Option Record :=
  records.find? fun r => Owner.uidsClash w.owner.uid r.binding.owner.uid

def checkOwner (w : Identity) (records : List Record) : Except Fault Unit :=
  match foreign? w records with
  | some r => .error (.retention (.otherOwner r.address r.binding.owner.uid w.owner.uid) w.podName)
  | none => .ok ()

def commonKey (records : List Record) : Except Fault (Option OrdinalKey) := do
  let keys := (← records.mapM Record.key).eraseDups
  match keys with
  | [] => pure none
  | [key] => pure (some key)
  | keys => throw (.bad (.mixedWorkloads (OrdinalKey.sorted keys)))

variable (s : Retention)

def size : Nat := s.groups.length

def records : List Record := s.groups.values.flatten

-- What an ordinal holds already is never replaced.
def retain (records : List Record) : Except Fault Retention := do
  match ← commonKey records with
  | none => pure s
  | some key =>
      match records.find? (!·.binding.isRetained) with
      | some r => throw (.bad (.stillBound r.name r.binding.podUID))
      | none =>
          match s.groups.get? key with
          | some held =>
              let podName := (records.head?.map (·.binding.podName)).getD ""
              throw (.retention (.occupied key (held.map (·.address))) podName)
          | none => pure ⟨s.groups.put key records⟩

def lookup (w : Identity) : Except Fault (Option (List Record)) := do
  let key ← keyOf w
  match s.groups.get? key with
  | none => pure none
  | some records => do
      checkOwner w records
      pure (some records)

def take (w : Identity) : Except Fault (Option (List Record) × Retention) := do
  let key ← keyOf w
  match ← s.lookup w with
  | none => pure (none, s)
  | some records => pure (some records, ⟨s.groups.erase key⟩)

def purge (w : Identity) : Except Fault (List Record × Retention) :=
  (s.take w).map fun (found, s) => (found.getD [], s)

section Owners

def storedUID (records : List Record) : String := (records.head?.map (·.binding.owner.uid)).getD ""

/-- Whether a group is purged with its owner. With `keep` the ordinals below it stay. -/
def isPurged (ns : String) (owner : Owner) (keep : Option Int)
    (group : OrdinalKey × List Record) : Bool :=
  let (key, records) := group
  key.ns == ns && key.kind == owner.kind && key.owner == owner.name &&
    keep.all (· ≤ key.index) && !Owner.uidsClash owner.uid (storedUID records)

def purgeOwner (ns : String) (owner : Owner) (keep : Option Int) : List Record × Retention :=
  (((s.groups.filter (isPurged ns owner keep)).map (·.2)).flatten,
    ⟨s.groups.filter (!isPurged ns owner keep ·)⟩)

end Owners
end Retention

/-!
The calls of a store as data, and runs of them. A run goes on after a call that is refused.
-/

namespace Retention

inductive Call
  | retain (records : List Record)
  | lookup (w : Identity)
  | take (w : Identity)
  | purge (w : Identity)
  | purgeOwner (ns : String) (owner : Owner) (keep : Option Int)
  | clear
  deriving DecidableEq, Repr

variable (s : Retention)

-- A call that is refused changes nothing.
def settled : Except Fault (Option (List Record) × Retention) →
    Except Fault (Option (List Record)) × Retention
  | .ok (found, s) => (.ok found, s)
  | .error fault => (.error fault, s)

def apply : Call → Except Fault (Option (List Record)) × Retention
  | .retain records => s.settled ((s.retain records).map (none, ·))
  | .lookup w => (s.lookup w, s)
  | .take w => s.settled (s.take w)
  | .purge w => s.settled ((s.purge w).map fun (records, s) => (some records, s))
  | .purgeOwner ns owner keep =>
      let (records, s) := s.purgeOwner ns owner keep
      (.ok (some records), s)
  | .clear => (.ok none, {})

def run (s : Retention) (calls : List Call) : Retention := calls.foldl (fun s call => (s.apply call).2) s

end Retention

end PodAddressing
