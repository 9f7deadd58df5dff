import PodAddressing.Activation
import PodAddressing.CommandLine
import PodAddressing.Number.Reading
/-!
The program that checks one address from one interface. It ends with status 0 if the address may be used,
with 2 if another host has it and with 1 if the check fails otherwise.
-/

namespace PodAddressing

/-- How a program ends: by itself, at its command line, or by a fault. -/
inductive Ending
  | status (code : Nat)
  | refused (code : Nat)
  | failed (fault : Fault)
  deriving DecidableEq, Repr

namespace AddressCheck

def grammar : CommandLine.Grammar where
  options := [
    ("--timeout", .value fun s => (Number.readReal? s.toList).isSome),
    ("--verbose", .flag)]
  positionals := 3

-- Of the texts only numbers are accepted, so that what is none is the mark.
def timeoutOf (arguments : CommandLine.Arguments) : Timeout :=
  match arguments.values.get? "--timeout" with
  | none => Activation.defaultTimeout
  | some given =>
      let seconds :=
        match given with
        | .text s => Number.readReal? s.toList
        | .mark => none
      (seconds.map .real).getD (.other given.shown given.shown)

def endingOf : Except Fault Unit → Ending
  | .ok () => .status 0
  | .error (.duplicateAddress ..) => .status 2
  | .error fault => if fault.isActivation then .status 1 else .failed fault

def interfaceOf (s : Segment) : CommandLine.Value → Except Fault Interface
  | .text name => s.interface name
  | .mark => .error .unsuitable

def addressOf : CommandLine.Value → Except Fault String
  | .text s => .ok s
  | .mark => .error (.bad (.address CommandLine.Value.mark.shown))

-- A gateway that was not given counts only if there is nothing wrong with the address.
def addressesOf (address gateway : CommandLine.Value) : Except Fault (String × String) := do
  let source ← addressOf address
  Activation.checkFamily "source" source
  pure (source, ← addressOf gateway)

def runOver (c : Activation.Course) (args : List String) : Ending × List Transmission :=
  match CommandLine.parse grammar args with
  | .error code => (.refused code, [])
  | .ok arguments =>
      match arguments.positionals with
      | [name, address, gateway] =>
          match interfaceOf c.asked name, addressesOf address gateway with
          | .error fault, _ => (.failed fault, [])
          | .ok _, .error fault => (.failed fault, [])
          | .ok i, .ok (source, gateway) =>
              let (outcome, sent) := Activation.activateOver c (.known i) source gateway (timeoutOf arguments)
              (endingOf outcome, sent)
      | _ => (.refused CommandLine.usageStatus, [])

def run (s : Segment) (args : List String) : Ending × List Transmission := runOver (.steady s) args

end AddressCheck
end PodAddressing
