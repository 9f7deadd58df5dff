import PodAddressing.Activation
import PodAddressing.Allocator.Rebuild
import PodAddressing.Allocator.Release
import PodAddressing.RecordFile
import PodAddressing.Resource
import PodAddressing.Resync
import PodAddressing.Watch
/-!
What the agent does about changes. Pods get addresses when they are scheduled and lose them when they are
deleted; stateful sets say how many ordinals remain; changes at remote clusters are put into the resync
queue. Whatever was done before something failed stays done.
-/

namespace PodAddressing

structure Site where
  allocator : Allocator
  queue : ResyncQueue := {}
  files : Files
  segment : Segment
  sent : List Transmission := []
  notices : Nat := 0

abbrev Site.Outcome (α : Type) := Except Fault α × Site

/-- What follows a change of the records: they are saved, or the change is counted, or nothing. -/
inductive Notice
  | save (path : FilePath)
  | count
  | silent
  deriving DecidableEq, Repr

-- Records that cannot be saved are a fault of whatever changed them.
def Notice.give (n : Notice) (s : Site) : Site.Outcome Unit :=
  match n with
  | .save path =>
      let (outcome, files) := RecordFile.save s.files path s.allocator.records
      (outcome, { s with files })
  | .count => (.ok (), { s with notices := s.notices + 1 })
  | .silent => (.ok (), s)

def Notice.giveOf (n : Notice) (s : Site) (records : List Record) : Site.Outcome Unit :=
  if records.isEmpty then (.ok (), s) else n.give s

/-- How addresses of pods on a node are checked; without a node, of pods on any. -/
structure Checks where
  interface : Json
  timeout : Timeout
  nodeName : Option String
  deriving Repr

structure PodHandler where
  checks : Option Checks
  notice : Notice
  deriving Repr

inductive Handler
  | pod (h : PodHandler)
  | statefulSet (notice : Notice)
  | remotePeer
  | remoteSubnet
  deriving Repr

namespace Checks
variable (c : Checks)

def via : Activation.Via :=
  match c.interface with
  | .text name => .named name
  | _ => .none

def concerns (p : Pod) : Bool :=
  c.interface.holds && p.networkType == .underlay && c.nodeName.all (· == p.nodeName)

/-- The gateway of the subnet of an IPv4 record; others are not checked. -/
def gateway? (a : Allocator) (r : Record) : Option String :=
  if r.family = .v4 then ((a.subnet? r.subnet).bind (·.gateway)).filter (· ≠ "") else none

def activate (c : Checks) (s : Site) : List Record → Site.Outcome Unit
  | [] => (.ok (), s)
  | r :: rest =>
      match gateway? s.allocator r with
      | none => activate c s rest
      | some gateway =>
          let (outcome, sent) := Activation.activate s.segment c.via r.address gateway c.timeout
          let s := { s with sent := s.sent ++ sent }
          match outcome with
          | .ok () => activate c s rest
          | .error fault => (.error fault, s)

end Checks

def Site.withAllocator {α : Type} (s : Site) (op : Allocator → Allocator.Outcome α) : Site.Outcome α :=
  let (outcome, allocator) := op s.allocator
  (outcome, { s with allocator })

namespace PodHandler
variable (h : PodHandler) (s : Site)

def activate (p : Pod) (records : List Record) : Site.Outcome Unit :=
  match h.checks.filter (·.concerns p) with
  | none => (.ok (), s)
  | some checks => checks.activate s records

def ensure (p : Pod) : Site.Outcome (List Record) :=
  if !p.isScheduled then (.ok [], s)
  else
    match s.withAllocator (·.allocate p.identity p.criteria p.subnets) with
    | (.error fault, s) => (.error fault, s)
    | (.ok records, s) =>
        match h.notice.give s with
        | (.error fault, s) => (.error fault, s)
        | (.ok (), s) =>
            let (outcome, s) := h.activate s p records
            (outcome.map fun () => records, s)

def ensured (p : Pod) : Site.Outcome Unit :=
  let (outcome, s) := h.ensure s p
  (outcome.map fun _ => (), s)

def deleted (p : Pod) : Site.Outcome Unit :=
  match s.withAllocator (·.release p.identity) with
  | (.error fault, s) => (.error fault, s)
  | (.ok released, s) => h.notice.giveOf s released

-- A pod with another UID is another pod under the same name.
def updated (old new : Pod) : Site.Outcome Unit :=
  let isNew := old.uid ≠ new.uid
  match if isNew then h.deleted s old else (.ok (), s) with
  | (.error fault, s) => (.error fault, s)
  | (.ok (), s) =>
      if new.isScheduled && (!old.isScheduled || isNew) then h.ensured s new else (.ok (), s)

end PodHandler

namespace StatefulSet
variable (notice : Notice) (s : Site)

def purged (set : StatefulSet) (keep : Option Int) : Site.Outcome Unit :=
  match s.withAllocator (·.purgeOwner set.ns set.reference keep) with
  | (.error fault, s) => (.error fault, s)
  | (.ok records, s) => notice.giveOf s records

def created (set : StatefulSet) : Site.Outcome Unit := purged notice s set (some set.replicas)

def updated (old new : StatefulSet) : Site.Outcome Unit :=
  if new.replicas = old.replicas ∧ new.uid = old.uid then (.ok (), s) else created notice s new

def deleted (set : StatefulSet) : Site.Outcome Unit := purged notice s set none

end StatefulSet

def Site.request (s : Site) (key : String) (needed : Bool) : Site.Outcome Unit :=
  (.ok (), if needed then { s with queue := s.queue.add key } else s)

-- A handler that is given a resource of another kind does not find the fields it needs.
def Handler.handle (s : Site) : Handler → Change Snapshot → Site.Outcome Unit
  | pod h, .created (.pod p) => h.ensured s p
  | pod h, .updated (.pod old) (.pod new) => h.updated s old new
  | pod h, .deleted (.pod p) => h.deleted s p
  | statefulSet notice, .created (.statefulSet set) => set.created notice s
  | statefulSet notice, .updated (.statefulSet old) (.statefulSet new) => old.updated notice s new
  | statefulSet notice, .deleted (.statefulSet set) => set.deleted notice s
  | remotePeer, .updated (.remotePeer old) (.remotePeer new) => s.request reconcileNode (old.changed new)
  | remotePeer, .created _ | remotePeer, .deleted _ => s.request reconcileNode true
  | remoteSubnet, .updated (.remoteSubnet old) (.remoteSubnet new) =>
      s.request reconcileSubnet (old.changed new)
  | remoteSubnet, .created _ | remoteSubnet, .deleted _ => s.request reconcileSubnet true
  | _, _ => (.error .noFields, s)

end PodAddressing
