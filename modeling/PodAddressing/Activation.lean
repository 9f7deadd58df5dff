import PodAddressing.Address.Basic
import PodAddressing.Link
/-!
Checking an address on its link before it goes into service. The gateway is asked for from the address, then
the address itself is asked for, and last it is announced. The first step that fails is the last one taken;
only a second step that cannot be sent counts as passed.
-/

namespace PodAddressing.Activation

def defaultTimeout : Timeout := .real (.ofRatio false 3 1)

/-- The interface to send from: by name, by what is known of it, or something that is no interface. -/
inductive Via
  | named (name : String)
  | known (interface : Interface)
  | none
  deriving DecidableEq, Repr

variable (s : Segment)

def checkFamily (role address : String) : Except Fault Unit := do
  let a ← Address.ofText address
  if a.family = .v4 then pure () else throw (.bad (.notIPv4 role address))

def interfaceAt : Via → Except Fault Interface
  | .named name => s.interface name
  | .known interface => .ok interface
  | .none => .error .noFields

section Steps
variable (i : Interface) (source : String)

def askGateway (gateway : String) (timeout : Timeout) : Except Fault Unit × Transmission :=
  let (reply, sent) := s.request i source gateway timeout
  let fault (cause : Cause) := Fault.gatewayUnreachable i.name source gateway (some cause)
  match reply with
  | .error text => (.error (fault (.sending text)), sent)
  | .ok none => (.error (fault (.silence timeout.text)), sent)
  | .ok (some _) => (.ok (), sent)

def askDuplicate (timeout : Timeout) : Except Fault Unit × Transmission :=
  let (reply, sent) := s.request i Arp.unspecified source timeout
  match reply with
  | .ok (some responder) => (.error (.duplicateAddress source responder), sent)
  | _ => (.ok (), sent)

def announce : Except Fault Unit × Transmission :=
  let (reply, sent) := s.announce i source
  match reply with
  | .error text => (.error (.announceFailed source (some (.sending text))), sent)
  | .ok () => (.ok (), sent)

def follow : List (Except Fault Unit × Transmission) → Except Fault Unit × List Transmission
  | [] => (.ok (), [])
  | (.error fault, sent) :: _ => (.error fault, [sent])
  | (.ok (), sent) :: rest =>
      let (outcome, later) := follow rest
      (outcome, sent :: later)

end Steps

def prepare (via : Via) (source gateway : String) : Except Fault Interface := do
  checkFamily "source" source
  checkFamily "gateway" gateway
  interfaceAt s via

/-- The segment as each of the three steps finds it. The interface is looked up before the first of them. -/
structure Course where
  asked : Segment
  probed : Segment
  announced : Segment

def Course.steady : Course := ⟨s, s, s⟩

def activateOver (c : Course) (via : Via) (source gateway : String) (timeout : Timeout) :
    Except Fault Unit × List Transmission :=
  match prepare c.asked via source gateway with
  | .error fault => (.error fault, [])
  | .ok i => follow [askGateway c.asked i source gateway timeout, askDuplicate c.probed i source timeout,
      announce c.announced i source]

def activate (via : Via) (source gateway : String) (timeout : Timeout) :
    Except Fault Unit × List Transmission :=
  activateOver (.steady s) via source gateway timeout

end PodAddressing.Activation
