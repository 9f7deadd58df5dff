import PodAddressing.Address.Block
/-!
Networks and the subnets in them. A network is of one type and serves some families; a subnet is a block of
addresses of a network, of which some are set aside and which may be narrowed at both ends.
-/

namespace PodAddressing

inductive NetworkType
  | underlay
  | overlay
  deriving DecidableEq, Repr

namespace NetworkType

def all : List NetworkType := [underlay, overlay]

def name : NetworkType → String
  | underlay => "Underlay"
  | overlay => "Overlay"

-- Names are read in any case.
def named? (s : String) : Option NetworkType :=
  all.find? fun t => Text.lower t.name == Text.lower s

def ofText (s : String) : Except Fault NetworkType :=
  match named? s with
  | some t => .ok t
  | none => .error (.bad (.networkType s))

def ofJson (v : Json) : Except Fault NetworkType := ofText v.describe

end NetworkType

structure Network where
  name : String
  type : NetworkType
  families : List Family
  deriving DecidableEq, Repr

def Network.supports (n : Network) (f : Family) : Bool := n.families.contains f

-- The texts are kept as they were given; what they mean is found out when a pool is made of the subnet.
structure Subnet where
  name : String
  network : String
  cidr : String
  gateway : Option String := none
  excluded : List String := []
  start : Option String := none
  stop : Option String := none
  deriving DecidableEq, Repr

namespace Subnet

def block (s : Subnet) : Except Fault Block := Block.ofText s.cidr

def family (s : Subnet) : Except Fault Family := s.block.map (·.base.family)

end Subnet
end PodAddressing
