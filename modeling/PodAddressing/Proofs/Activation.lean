import PodAddressing.AddressCheck
import PodAddressing.CommandLine
import PodAddressing.Link
import PodAddressing.Proofs.Basic
/-!
A command line that is accepted has just as many positional arguments as its grammar asks for.
-/

namespace PodAddressing

namespace CommandLine
variable {grammar : Grammar} {r r' : Reading} {tokens : List Token} {name given : String} {isFit : String → Bool}

/-- No more positional arguments were taken than there are places for. -/
def Reading.Fits (grammar : Grammar) (r : Reading) : Prop := r.arguments.positionals.length ≤ grammar.positionals

namespace Reading

theorem Fits.plain (fits : r.Fits grammar) (s : String) : (r.plain grammar s).Fits grammar := by
  unfold Reading.plain
  split
  case isTrue room =>
    have short : r.arguments.positionals.length < grammar.positionals := of_decide_eq_true room
    rw [Fits, List.length_append]
    exact short
  case isFalse => exact fits

theorem Fits.mark (fits : r.Fits grammar) (later : List Token) : (r.mark grammar later).Fits grammar := by
  unfold Reading.mark
  split
  · exact fits
  · split <;> exact fits

theorem Fits.value (fits : r.Fits grammar) (read : r.value name isFit given = .ok r') : r'.Fits grammar := by
  unfold Reading.value at read
  dsimp only at read
  split at read
  · cases read
    exact fits
  · cases read

end Reading

end CommandLine

/-!
The course of an activation. Nothing is sent for addresses that are not IPv4 or from an interface that does not exist.
Otherwise the gateway is asked for first, and what is sent and how it ends follows from what comes back at each step,
whatever the segment does in between. Something that comes back and is no reply counts as silence.
-/

namespace Arp

def IsIPv4 (address : String) : Prop := ∃ a, Address.parse? address = some a ∧ a.family = .v4

abbrev Outcome := Except String (Option Reply)

namespace Outcome
variable {outcome : Outcome} {hardware text : String}

def Answers (outcome : Outcome) (hardware : String) : Prop := outcome = .ok (some ⟨some hardware⟩)

/-- Nothing comes back, or something that is no reply. -/
def Silent (outcome : Outcome) : Prop := outcome = .ok none ∨ outcome = .ok (some ⟨none⟩)

def Fails (outcome : Outcome) (text : String) : Prop := outcome = .error text

/-- No host answers, or none can be asked. -/
def Unclaimed (outcome : Outcome) : Prop := outcome.Silent ∨ ∃ text, outcome.Fails text

theorem reads (outcome : Outcome) :
    (∃ text, outcome.Fails text ∧ (outcome.map fun reply => reply.bind (·.responder)) = .error text) ∨
    (∃ hardware, outcome.Answers hardware ∧
      (outcome.map fun reply => reply.bind (·.responder)) = .ok (some hardware)) ∨
    outcome.Silent ∧ (outcome.map fun reply => reply.bind (·.responder)) = .ok none := by
  rcases outcome with text | none | ⟨none | hardware⟩
  · exact .inl ⟨text, rfl, rfl⟩
  · exact .inr (.inr ⟨.inl rfl, rfl⟩)
  · exact .inr (.inr ⟨.inr rfl, rfl⟩)
  · exact .inr (.inl ⟨hardware, rfl, rfl⟩)

theorem Fails.not_answers (fails : outcome.Fails text) : ¬ outcome.Answers hardware :=
  fun answers => by cases fails.symm.trans answers

theorem Fails.unique {other : String} (fails : outcome.Fails text) (fails' : outcome.Fails other) : text = other :=
  Except.error.inj (fails.symm.trans fails')

theorem Silent.not_answers (silent : outcome.Silent) : ¬ outcome.Answers hardware := by
  intro answers
  rcases silent with silent | silent <;> cases silent.symm.trans answers

theorem Answers.unique {other : String} (answers : outcome.Answers hardware) (answers' : outcome.Answers other) :
    hardware = other := by
  cases answers.symm.trans answers'
  rfl

theorem Unclaimed.not_answers (unclaimed : outcome.Unclaimed) : ¬ outcome.Answers hardware := by
  rcases unclaimed with silent | ⟨text, fails⟩
  · exact silent.not_answers
  · exact fails.not_answers

end Outcome
end Arp

namespace Activation
open Arp

variable {c : Course} {s : Segment} {via : Via} {i : Interface} {role address source gateway : String}
  {timeout : Timeout}

section Preparation

def Refuses (s : Segment) (via : Via) (source gateway : String) : Prop :=
  ¬ IsIPv4 source ∨ ¬ IsIPv4 gateway ∨ ∃ name, via = .named name ∧ s.indices name = []

end Preparation

section Steps

def notice (i : Interface) (address : String) : Transmission := .announcement i.name (announcement i address)

/-- What comes back when the gateway is asked for. -/
def Course.upstream (c : Course) (i : Interface) (source gateway : String) (timeout : Timeout) : Outcome :=
  c.asked.exchange i.name timeout (resolve i source gateway)

/-- What comes of the announcement. -/
def Course.told (c : Course) (i : Interface) (source : String) : Except String Unit :=
  c.announced.send i.name (announcement i source)

end Steps

section Classification

def Course.Reached (c : Course) (i : Interface) (source gateway : String) (timeout : Timeout) : Prop :=
  ∃ hardware, (c.upstream i source gateway timeout).Answers hardware

theorem Course.Reached.sole (reached : c.Reached i source gateway timeout) :
    (∀ text, ¬ (c.upstream i source gateway timeout).Fails text) ∧
      ¬ (c.upstream i source gateway timeout).Silent := by
  obtain ⟨_, answers⟩ := reached
  exact ⟨fun _ fails => fails.not_answers answers, fun silent => silent.not_answers answers⟩

end Classification

end Activation

namespace AddressCheck
open Activation Arp

variable {c : Course} {i : Interface} {source gateway : String} {timeout : Timeout} {args : List String}
  {arguments : CommandLine.Arguments}

variable {name : String}

end AddressCheck

end PodAddressing
