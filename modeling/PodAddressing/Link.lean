import PodAddressing.Fault
import PodAddressing.Number.Binary64
import PodAddressing.Table
import PodAddressing.Text.Basic
/-!
The link layer: hardware addresses, requests for the one behind an address, and segments on which they are sent.
-/

namespace PodAddressing

namespace Mac

def octetText (n : Nat) : List Char :=
  if n < 16 then '0' :: Nat.toDigits 16 n else Nat.toDigits 16 n

def text (octets : List Nat) : String :=
  String.ofList (List.intercalate [':'] (octets.map octetText))

def zero : String := "00:00:00:00:00:00"
def broadcast : String := "ff:ff:ff:ff:ff:ff"

-- Of the first octet the lowest bit marks multicast and the next one local administration.
def unicastLocal : List Nat → List Nat
  | [] => []
  | first :: rest => (first &&& 0xfc ||| 0x02) :: rest

/-- The address for a pod that is made of six arbitrary octets. -/
def ofOctets (octets : List Nat) : String := text (unicastLocal octets)

end Mac

structure MacSource where
  nth : Nat → String
  drawn : Nat := 0

def MacSource.draw (s : MacSource) : String × MacSource :=
  (s.nth s.drawn, { s with drawn := s.drawn + 1 })

inductive Timeout
  | whole (seconds : Int)
  | real (seconds : Number.Binary64)
  | unlimited
  /-- Something that is no number, as text and as a literal. -/
  | other (text literal : String)
  deriving DecidableEq, Repr

namespace Timeout

def text : Timeout → String
  | whole n => toString n
  | real x => x.text
  | unlimited => "None"
  | other text _ => text

def literal : Timeout → String
  | other _ literal => literal
  | t => t.text

end Timeout

/-- A link to send from. It need not have a hardware address. -/
structure Interface where
  name : String
  index : Int
  hardware : Option String
  deriving DecidableEq, Repr

/-! Requests for the hardware address behind an address. One that asks for the sender's own address announces it. -/

namespace Arp

/-- A request in an Ethernet frame, by the texts that it is made of. -/
structure Packet where
  source : Option String
  destination : String
  senderHardware : Option String
  sender : String
  targetHardware : String
  target : String
  deriving DecidableEq, Repr

def unspecified : String := "0.0.0.0"

variable (i : Interface)

def resolve (sender target : String) : Packet :=
  ⟨i.hardware, Mac.broadcast, i.hardware, sender, Mac.zero, target⟩

def announcement (address : String) : Packet :=
  ⟨i.hardware, Mac.broadcast, i.hardware, address, Mac.broadcast, address⟩

/-- What comes back for a request: the hardware address in it, if it is a reply to one at all. -/
structure Reply where
  responder : Option String
  deriving DecidableEq, Repr

end Arp

inductive Transmission
  | request (interface : String) (timeout : Timeout) (packet : Arp.Packet)
  | announcement (interface : String) (packet : Arp.Packet)
  deriving DecidableEq, Repr

/-! A segment is what the links of a host do. Nothing is said of them here but what they are asked for. -/

structure Segment where
  /-- The indices of the links with a name. -/
  indices : String → List Int
  /-- The hardware addresses of the links that are listed for an index. -/
  listed : Int → List (Option String)
  /-- Sends a packet from an interface and waits for something to come back; says why it cannot be sent. -/
  exchange : String → Timeout → Arp.Packet → Except String (Option Arp.Reply)
  send : String → Arp.Packet → Except String Unit

namespace Segment
variable (s : Segment)

def interface (name : String) : Except Fault Interface :=
  match s.indices name with
  | [] => .error (.bad (.noInterface name))
  | index :: _ =>
      match s.listed index with
      | [] => .error .outOfRange
      | hardware :: _ => .ok ⟨name, index, hardware⟩

-- What is sent is noted even if the sending fails.
def request (i : Interface) (sender target : String) (timeout : Timeout) :
    Except String (Option String) × Transmission :=
  let packet := Arp.resolve i sender target
  ((s.exchange i.name timeout packet).map fun reply => reply.bind (·.responder),
    .request i.name timeout packet)

def announce (i : Interface) (address : String) : Except String Unit × Transmission :=
  let packet := Arp.announcement i address
  (s.send i.name packet, .announcement i.name packet)

def isolated : Segment where
  indices _ := []
  listed _ := []
  exchange _ _ _ := .ok none
  send _ _ := .ok ()

/-- A segment with one link, where some addresses are answered for. -/
def ofNeighbours (neighbours : Table String String)
    (i : Interface := ⟨"eth0", 2, some "02:00:00:00:00:01"⟩) : Segment where
  indices name := if name = i.name then [i.index] else []
  listed _ := [i.hardware]
  exchange _ _ packet := .ok ((neighbours.get? packet.target).map fun hardware => ⟨some hardware⟩)
  send _ _ := .ok ()

end Segment
end PodAddressing
