import PodAddressing.Allocator.Basic
/-!
Rebuilding the allocator from records that were kept elsewhere. Records are taken over in order; one that
does not fit is skipped, and its address stays free unless a record before it has it. Retained records of an
ordinal that a pod holds are skipped at the end, wherever they stood.
-/

namespace PodAddressing

structure Rebuilding where
  pools : Table String Pool
  active : Table String (List Record) := []
  holders : Table OrdinalKey String := []
  retained : Table OrdinalKey (List Record) := []
  skipped : List Record := []

namespace Rebuilding
variable (s : Rebuilding)

def skip (r : Record) : Rebuilding := { s with skipped := s.skipped ++ [r] }

def setPool (r : Record) (pool : Pool) : Rebuilding := { s with pools := s.pools.put r.subnet pool }

def drop (r : Record) : Rebuilding :=
  match s.pools.get? r.subnet with
  | none => s.skip r
  | some pool =>
      match pool.release r.address with
      | .ok (_, pool) => (s.setPool r pool).skip r
      | .error _ => s.skip r

/-- Reserves the address of a record; none if it cannot be or is reserved already. -/
def reserve? (r : Record) : Option Rebuilding :=
  match s.pools.get? r.subnet with
  | none => none
  | some pool =>
      match pool.reserve r.address with
      | .ok (true, pool) => some (s.setPool r pool)
      | _ => none

def addActive (r : Record) : Rebuilding :=
  { s with active := s.active.gather r.binding.podUID r }

def file (r : Record) : Rebuilding :=
  if r.binding.podUID = "" then
    match r.binding.isRetained, r.key? with
    | true, some key => { s with retained := s.retained.gather key r }
    | _, _ => s.drop r
  else
    match r.key? with
    | none => s.addActive r
    | some key =>
        match s.holders.get? key with
        | none => { s with holders := s.holders.put key r.binding.podUID }.addActive r
        | some holder => if holder = r.binding.podUID then s.addActive r else s.drop r

def adopt (r : Record) : Rebuilding :=
  match s.reserve? r with
  | some s => s.file r
  | none => s.skip r

def settle : Rebuilding :=
  let lost := s.retained.filter fun (key, _) => s.holders.has key
  let kept := s.retained.filter fun (key, _) => !s.holders.has key
  ((lost.map (·.2)).flatten).foldl drop { s with retained := kept }

end Rebuilding

namespace Allocator

/-- Replaces all records; the answer is those that were not taken over. -/
def rebuild (a : Allocator) (records : List Record) : List Record × Allocator :=
  let empty : Rebuilding := { pools := a.pools.map fun (name, pool) => (name, pool.clear) }
  let s := (records.foldl Rebuilding.adopt empty).settle
  (s.skipped, { a with
    pools := s.pools
    active := s.active
    holders := s.holders
    retention := ⟨s.retained⟩ })

end Allocator
end PodAddressing
