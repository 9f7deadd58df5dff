import PodAddressing.Allocator.Basic
/-!
Allocating. A pod that has addresses keeps them. A stateful pod gets back what its ordinal retained, all of
it or, if that does not fit the request, nothing. Every other pod gets a fresh address of each family, from
the first eligible subnet that has a free one.
-/

namespace PodAddressing.Allocator

section Fresh
variable (a : Allocator)

def isEligible (networkType : NetworkType) (family : Family) (eligible : Option (List String))
    (entry : String × Pool) : Bool :=
  let (name, pool) := entry
  eligible.all (·.contains name) &&
    (a.networks.get? pool.subnet.network).any (fun network =>
      network.type == networkType && network.supports family) &&
    pool.family == family

-- Pools are tried by the names of their networks, then by their own.
def triedBefore (p q : Pool) : Bool :=
  if p.subnet.network ≠ q.subnet.network then p.subnet.network < q.subnet.network
  else p.subnet.name ≤ q.subnet.name

def eligiblePools (networkType : NetworkType) (family : Family) (eligible : Option (List String)) :
    List Pool :=
  ((a.pools.filter (a.isEligible networkType family eligible)).map (·.2)).mergeSort triedBefore

def acquireFrom? : List Pool → Option (Address × Pool)
  | [] => none
  | pool :: rest =>
      match pool.acquire with
      | .ok found => some found
      | .error _ => acquireFrom? rest

def acquire (networkType : NetworkType) (family : Family) (eligible : Option (List String)) :
    Except Fault (Address × Pool) :=
  let pools := a.eligiblePools networkType family eligible
  if pools.isEmpty then .error (.noEligibleSubnet networkType.name family.name)
  else
    match acquireFrom? pools with
    | some found => .ok found
    | none => .error (.exhausted family.name (pools.map (·.subnet.name)))

def setPool (pool : Pool) : Allocator := { a with pools := a.pools.put pool.subnet.name pool }

def free (r : Record) : Except Fault Allocator :=
  match a.pools.get? r.subnet with
  | none => .ok a
  | some pool => (pool.release r.address).map fun (_, pool) => a.setPool pool

/-- Gives addresses back until one is refused. -/
def freeAll (a : Allocator) : List Record → Outcome Unit
  | [] => (.ok (), a)
  | r :: rest =>
      match a.free r with
      | .error fault => (.error fault, a)
      | .ok a => freeAll a rest

def freshRecord (w : Identity) (index : Option Int) (mac : String) (family : Family) (address : Address)
    (subnet : Subnet) : Record where
  address := address.text
  family := family
  mac := mac
  subnet := subnet.name
  network := subnet.network
  ns := w.ns
  binding := ⟨w.podUID, w.podName, w.nodeName, w.owner, index⟩

/-- One fresh address for each family. If one cannot be had, those before it are given back. -/
def acquireAll (a : Allocator) (w : Identity) (index : Option Int) (mac : String)
    (networkType : NetworkType) (eligible : Option (List String)) (taken : List Record) :
    List Family → Outcome (List Record)
  | [] => (.ok taken, a)
  | family :: rest =>
      match a.acquire networkType family eligible with
      | .error fault => (.error fault, (a.freeAll taken).2)
      | .ok (address, pool) =>
          let record := freshRecord w index mac family address pool.subnet
          acquireAll (a.setPool pool) w index mac networkType eligible (taken ++ [record]) rest

-- The hardware address is drawn first, and is gone even if no address can be had.
def allocateFresh (w : Identity) (index : Option Int) (c : Criteria) (eligible : Option (List String)) :
    Outcome (List Record) :=
  let (mac, macs) := a.macs.draw
  acquireAll { a with macs } w index mac c.networkType eligible [] c.orderedFamilies

end Fresh

section Rebinding
variable (a : Allocator)

def familiesOf (records : List Record) : List Family :=
  Family.all.filter fun f => records.any (·.family == f)

def misfit? (w : Identity) (c : Criteria) (records : List Record) : Option Conflict :=
  let kept := familiesOf records
  if kept ≠ c.orderedFamilies then
    some (.otherFamilies w.podName (kept.map Family.name) (c.orderedFamilies.map Family.name))
  else
    records.findSome? fun r =>
      match a.networks.get? r.network with
      | some network =>
          if network.type = c.networkType then none
          else some (.otherNetworkType w.podName r.address network.type.name network.name)
      | none => none

/-- The retained records, bound to the pod; none if nothing is retained. -/
def rebind (w : Identity) (c : Criteria) : Except Fault (Option (List Record) × Allocator) := do
  match ← a.retention.lookup w with
  | none => pure (none, a)
  | some kept =>
      match a.misfit? w c kept with
      | some conflict => throw (.retention conflict w.podName)
      | none =>
          let (_, retention) ← a.retention.take w
          pure (some (kept.map (·.boundTo w.podUID w.podName w.nodeName)), { a with retention })

end Rebinding

variable (a : Allocator)

def bind (w : Identity) (key : Option OrdinalKey) (records : List Record) : Allocator :=
  { a with
    active := a.active.put w.podUID records
    holders := key.elim a.holders fun key => a.holders.put key w.podUID }

def supply (w : Identity) (key : Option OrdinalKey) (c : Criteria) (eligible : Option (List String)) :
    Outcome (List Record) :=
  match key with
  | none => a.allocateFresh w none c eligible
  | some key =>
      match a.rebind w c with
      | .error fault => (.error fault, a)
      | .ok (some records, a) => (.ok records, a)
      | .ok (none, a) => a.allocateFresh w (some key.index) c eligible

def allocate (w : Identity) (c : Criteria) (eligible : Option (List String) := none) :
    Outcome (List Record) :=
  if w.podUID = "" then (.error (.bad (.noUID w.ns w.podName)), a)
  else if c.orderedFamilies = [] then (.error (.bad .noFamily), a)
  else if !w.hasBytes then (.error .unencodable, a)
  else
    match w.statefulKey? with
    | .error fault => (.error fault, a)
    | .ok key =>
        match a.recordsFor w, key.bind a.holders.get? with
        | r :: rest, _ => (.ok (r :: rest), a)
        -- The pod that had the ordinal before has not been released yet.
        | [], some holder =>
            (.error (.retention (.stillHeld w.ns w.podName holder) w.podName), a)
        | [], none =>
            match a.supply w key c eligible with
            | (.ok records, a) => (.ok records, a.bind w key records)
            | failed => failed

end PodAddressing.Allocator
