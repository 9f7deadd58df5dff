import PodAddressing.Address.Basic
/-!
Blocks of addresses that share their first bits. A block is written as an address and the number of shared
bits; for IPv4 this may also be a mask with the shared bits set, or one with the others set. Without it a
block is a single address.
-/

namespace PodAddressing

structure Block where
  base : Address
  length : Nat
  deriving DecidableEq, Repr

namespace Block

open Text

def span (f : Family) (length : Nat) : Nat := 1 <<< (f.width - length)

-- The base loses the bits that are not shared, and its scope with them if there were any.
def of (a : Address) (length : Nat) : Block :=
  let own := a.value % span a.family length
  if own = 0 then ⟨a, length⟩ else ⟨⟨a.family, a.value - own, none⟩, length⟩

def single (a : Address) : Block := ⟨a, a.family.width⟩

def size (b : Block) : Nat := span b.base.family b.length
def first (b : Block) : Nat := b.base.value
def last (b : Block) : Nat := b.first + b.size - 1

section Reading

def lengthOf? (f : Family) (cs : List Char) : Option Nat :=
  if cs.isEmpty || !cs.all Char.isDigit || Number.digitLimit < cs.length then none
  else
    let n := Number.ofDigits (cs.map (·.toNat - '0'.toNat))
    if n ≤ f.width then some n else none

def mask (length : Nat) : Nat := span .v4 0 - span .v4 length

-- The masks of no bits and of all bits are read as the shared bits.
def ofMask? (n : Nat) : Option Nat :=
  let lengths := List.range 33
  match lengths.find? fun length => mask length == n with
  | some length => some length
  | none => lengths.find? fun length => mask length == span .v4 0 - 1 - n

def v4Length? (cs : List Char) : Option Nat :=
  match lengthOf? .v4 cs with
  | some length => some length
  | none => (Address.quad? cs).bind ofMask?

def parse? (s : String) : Option Block :=
  match cut '/' s.toList with
  | [base] => (Address.parse? (String.ofList base)).map single
  | [base, bits] =>
      match Address.v4? base with
      | some a => (v4Length? bits).map (of a)
      | none => do
          let a ← Address.v6? base
          (lengthOf? .v6 bits).map (of a)
  | _ => none

def ofText (s : String) : Except Fault Block :=
  match parse? s with
  | some b => .ok b
  | none => .error (.bad (.block (quote s)))

def ofJson (v : Json) : Except Fault Block :=
  let found :=
    match v with
    | .text s => parse? s
    | .integer n => (Address.ofValue? n).map single
    | .boolean b => (Address.ofValue? (if b then 1 else 0)).map single
    | _ => none
  match found with
  | some b => .ok b
  | none => .error (.bad (.block v.literal))

end Reading

def text (b : Block) : String := b.base.text ++ "/" ++ toString b.length

end Block
end PodAddressing
