import PodAddressing.Fault
import PodAddressing.Json.Basic
import PodAddressing.Number.Reading
import PodAddressing.Text.Basic
import PodAddressing.Text.Lower
/-!
The two families of addresses, in the order in which a workload gets its addresses.
-/

namespace PodAddressing

inductive Family
  | v4
  | v6
  deriving DecidableEq, Repr

namespace Family

def all : List Family := [v4, v6]

def name : Family → String
  | v4 => "IPv4"
  | v6 => "IPv6"

def width : Family → Nat
  | v4 => 32
  | v6 => 128

-- Names are read in any case.
def named? (s : String) : Option Family :=
  all.find? fun f => Text.lower f.name == Text.lower s

def ofText (s : String) : Except Fault Family :=
  match named? s with
  | some f => .ok f
  | none => .error (.bad (.family s))

def ofJson (v : Json) : Except Fault Family := ofText v.describe

end Family

/-!
Addresses and their texts. An IPv4 address is written as four decimal octets. An IPv6 address is written as
eight groups of hex digits, its longest run of zero groups left out; it is also read with an IPv4 address
in place of the last two groups, and may have a scope, which takes no part in its value. The last two groups are
written as groups always, also where the address stands for an IPv4 one (`::ffff:0:0/96`), which other conventions
write with points at the end.
-/

structure Address where
  family : Family
  value : Nat
  scope : Option String
  deriving DecidableEq, Repr

namespace Address

open Text

section Octets

def octet? (cs : List Char) : Option Nat :=
  if cs.isEmpty || 3 < cs.length || !cs.all Char.isDigit then none
  else if 1 < cs.length && cs.head? == some '0' then none
  else
    let n := Number.ofDigits (cs.map (·.toNat - '0'.toNat))
    if n ≤ 255 then some n else none

def quad? (cs : List Char) : Option Nat :=
  match cut '.' cs with
  | [a, b, c, d] => do
      let a ← octet? a
      let b ← octet? b
      let c ← octet? c
      let d ← octet? d
      pure (((a * 256 + b) * 256 + c) * 256 + d)
  | _ => none

def octets (n : Nat) : List Nat := [n >>> 24 % 256, n >>> 16 % 256, n >>> 8 % 256, n % 256]

def quadText (n : Nat) : List Char := List.intercalate ['.'] ((octets n).map (Nat.toDigits 10))

end Octets

section Groups

def group? (cs : List Char) : Option Nat :=
  if cs.isEmpty || 4 < cs.length then none else hexNumber? cs

/-- The parts between colons; a last part with points in it is an IPv4 address and counts as two. -/
def groupParts? (cs : List Char) : Option (List (List Char)) :=
  let parts := cut ':' cs
  match parts.getLast? with
  | some tail =>
      if '.' ∈ tail then
        (quad? tail).map fun n =>
          parts.dropLast ++ [Nat.toDigits 16 (n >>> 16), Nat.toDigits 16 (n % 0x10000)]
      else some parts
  | none => some parts

-- The left-out run shows as an empty part that is neither the first nor the last.
def splitGap? : List (List Char) → Option (List (List Char) × List (List Char))
  | [] => none
  | head :: rest =>
      match rest.takeWhile (!·.isEmpty), rest.dropWhile (!·.isEmpty) with
      | before, _ :: next :: after => some (head :: before, next :: after)
      | _, _ => none

/-- The groups on one side of the gap, where a side without groups is one empty part. -/
def side? (parts : List (List Char)) : Option (List Nat) :=
  if parts = [[]] then some [] else parts.mapM group?

def ofGroups (gs : List Nat) : Nat := gs.foldl (fun n g => n <<< 16 + g) 0

def groupsValue? (cs : List Char) : Option Nat := do
  let parts ← groupParts? cs
  match splitGap? parts with
  | some (before, after) =>
      let high ← side? before
      let low ← side? after
      let given := high.length + low.length
      if given ≤ 7 then pure (ofGroups (high ++ List.replicate (8 - given) 0 ++ low)) else none
  | none =>
      let gs ← parts.mapM group?
      if gs.length = 8 then pure (ofGroups gs) else none

def groups (n : Nat) : List Nat :=
  (List.range 8).map fun i => n >>> (16 * (7 - i)) % 0x10000

def zeroRun (gs : List Nat) (i : Nat) : Nat := ((gs.drop i).takeWhile (· == 0)).length

/-- Where the longest run of zero groups starts, the first of them if there are several. -/
def gapStart (gs : List Nat) : Nat :=
  (List.range gs.length).foldl (fun best i => if zeroRun gs best < zeroRun gs i then i else best) 0

def joinGroups (gs : List Nat) : List Char := List.intercalate [':'] (gs.map (Nat.toDigits 16))

-- A single zero group is written out.
def groupsText (n : Nat) : List Char :=
  let gs := groups n
  let start := gapStart gs
  let run := zeroRun gs start
  if run < 2 then joinGroups gs
  else joinGroups (gs.take start) ++ [':', ':'] ++ joinGroups (gs.drop (start + run))

end Groups

def v4? (cs : List Char) : Option Address := (quad? cs).map fun n => ⟨.v4, n, none⟩

def v6? (cs : List Char) : Option Address :=
  if '/' ∈ cs then none
  else
    match cutFirst '%' cs with
    | (digits, none) => (groupsValue? digits).map fun n => ⟨.v6, n, none⟩
    | (digits, some scope) =>
        if scope.isEmpty || '%' ∈ scope then none
        else (groupsValue? digits).map fun n => ⟨.v6, n, some (String.ofList scope)⟩

def parse? (s : String) : Option Address :=
  match v4? s.toList with
  | some a => some a
  | none => v6? s.toList

def ofText (s : String) : Except Fault Address :=
  match parse? s with
  | some a => .ok a
  | none => .error (.bad (.address (quote s)))

/-- The address with a value; those beyond the IPv4 range are IPv6 addresses. -/
def ofValue? (n : Int) : Option Address :=
  if n < 0 then none
  else if n.toNat < 1 <<< 32 then some ⟨.v4, n.toNat, none⟩
  else if n.toNat < 1 <<< 128 then some ⟨.v6, n.toNat, none⟩
  else none

def ofJson (v : Json) : Except Fault Address :=
  let found :=
    match v with
    | .text s => parse? s
    | .integer n => ofValue? n
    | .boolean b => ofValue? (if b then 1 else 0)
    | _ => none
  match found with
  | some a => .ok a
  | none => .error (.bad (.address v.literal))

def digits (a : Address) : List Char :=
  match a.family with
  | .v4 => quadText a.value
  | .v6 =>
      match a.scope with
      | none => groupsText a.value
      | some scope => groupsText a.value ++ '%' :: scope.toList

def text (a : Address) : String := String.ofList a.digits

end Address
end PodAddressing
