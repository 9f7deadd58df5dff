import PodAddressing.Network
/-!
Pools: the free and the used addresses of one subnet, by value. The next address to hand out is looked for
from where the last one was found and round the range, so an address that was given back is handed out again
only after the others.
-/

namespace PodAddressing

structure Pool where
  subnet : Subnet
  family : Family
  first : Nat
  last : Nat
  blocked : List Nat
  used : List Nat
  cursor : Nat
  deriving DecidableEq, Repr

namespace Pool

def valueIn (f : Family) (subnet : String) (address : String) : Except Fault Nat := do
  let a ← Address.ofText address
  if a.family = f then pure a.value else throw (.bad (.foreignFamily address subnet))

/-- The addresses of a block that are never handed out: its own, and the broadcast address of IPv4. -/
def reservedBy (b : Block) : List Nat :=
  if b.size ≤ 2 then []
  else
    match b.base.family with
    | .v4 => [b.first, b.last]
    | .v6 => [b.first]

-- An empty text stands for no address.
def given? (address : Option String) : Option String := address.filter (· ≠ "")

def bound (f : Family) (s : Subnet) (address : Option String) (default : Nat) : Except Fault Nat :=
  match given? address with
  | none => .ok default
  | some a => valueIn f s.name a

def ofSubnet (s : Subnet) : Except Fault Pool := do
  let block ← s.block
  let family := block.base.family
  let gateway ← (given? s.gateway).toList.mapM (valueIn family s.name)
  let excluded ← s.excluded.mapM (valueIn family s.name)
  let start ← bound family s s.start block.first
  let stop ← bound family s s.stop block.last
  let first := max block.first start
  let last := min block.last stop
  if last < first then throw (.bad (.emptyRange s.name))
  let blocked := (reservedBy block ++ gateway ++ excluded).filter fun n => first ≤ n && n ≤ last
  pure ⟨s, family, first, last, blocked.eraseDups, [], first⟩

variable (p : Pool)

def capacity : Nat := p.last + 1 - p.first - p.blocked.length

def available : Int := (p.capacity : Int) - p.used.length

def hasFree : Bool := p.used.length < p.capacity

def valueOf (address : String) : Except Fault Nat := valueIn p.family p.subnet.name address

def isUsable (n : Nat) : Bool := p.first ≤ n && n ≤ p.last && !p.blocked.contains n

def isFree (n : Nat) : Bool := p.isUsable n && !p.used.contains n

section Acquiring

def after (n : Nat) : Nat := if n < p.last then n + 1 else p.first

/-- The first free value from `n` on, round the range; at most `steps` values are passed over. -/
def seek : Nat → Nat → Nat
  | 0, n => n
  | steps + 1, n => if p.isFree n then n else seek steps (p.after n)

def acquire : Except Fault (Address × Pool) :=
  if p.hasFree then
    -- A value that is passed over is blocked or used, and none is passed over twice.
    let n := p.seek (p.blocked.length + p.used.length) p.cursor
    .ok (⟨p.family, n, none⟩, { p with used := n :: p.used, cursor := p.after n })
  else .error (.exhausted p.family.name [p.subnet.name])

end Acquiring

-- The answer says whether the address was free before.
def reserve (address : String) : Except Fault (Bool × Pool) := do
  let n ← p.valueOf address
  if !p.isUsable n then throw (.bad (.notAllocatable address p.subnet.name))
  else if p.used.contains n then pure (false, p)
  else pure (true, { p with used := n :: p.used })

-- The answer says whether the address was used before.
def release (address : String) : Except Fault (Bool × Pool) := do
  let n ← p.valueOf address
  if p.used.contains n then pure (true, { p with used := p.used.erase n }) else pure (false, p)

def clear : Pool := { p with used := [], cursor := p.first }

def isUsed (address : String) : Except Fault Bool := (p.valueOf address).map p.used.contains

/-- Whether an address can be handed out at all; a text that is no address cannot. -/
def contains (address : String) : Bool :=
  match p.valueOf address with
  | .ok n => p.isUsable n
  | .error _ => false

end Pool

/-!
The calls of a pool as data, and runs of them. A run goes on after a call that is refused.
-/

namespace Pool

inductive Call
  | acquire
  | reserve (address : String)
  | release (address : String)
  | clear
  deriving DecidableEq, Repr

variable (p : Pool)

-- A call that is refused changes nothing.
def settled {α : Type} : Except Fault (α × Pool) → Pool
  | .ok (_, p) => p
  | .error _ => p

def apply : Call → Pool
  | .acquire => p.settled p.acquire
  | .reserve address => p.settled (p.reserve address)
  | .release address => p.settled (p.release address)
  | .clear => p.clear

def run (p : Pool) (calls : List Call) : Pool := calls.foldl apply p

end Pool

end PodAddressing
