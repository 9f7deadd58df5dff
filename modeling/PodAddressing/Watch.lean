import PodAddressing.Document
import PodAddressing.Fault
import PodAddressing.Resource
import PodAddressing.Table
/-!
Events and the registry that says who handles them: one handler for each kind of resource, chosen when it is
registered.
-/

namespace PodAddressing

inductive Change (α : Type)
  | created (obj : α)
  | updated (old new : α)
  | deleted (obj : α)
  deriving DecidableEq, Repr

/-- A change of a resource of some kind; none is a change of no known type. -/
structure Event (α : Type) where
  kind : String
  change : Option (Change α)
  deriving DecidableEq, Repr

abbrev Registry (H : Type) := Table String H

namespace Registry
variable {H α : Type}

def register (r : Registry H) (kind : String) (handler : H) : Except Fault (Registry H) :=
  if Table.has r kind then .error (.bad (.handlerRegistered kind)) else .ok (Table.put r kind handler)

def unregister (r : Registry H) (kind : String) : Registry H := Table.erase r kind

def kinds (r : Registry H) : List String := (Table.keys r).mergeSort (· ≤ ·)

-- Nobody is asked about the type of a change of a kind without a handler.
/-- The handler of an event and the change that it handles; none if the event is dropped. -/
def route (r : Registry H) (e : Event α) : Except Fault (Option (H × Change α)) :=
  match Table.get? r e.kind, e.change with
  | none, _ => .ok none
  | some handler, some change => .ok (some (handler, change))
  | some _, none => .error .unsuitable

end Registry

/-!
Watching a file that lists resources of one kind. Each poll is compared with what is known from the polls
before it. A change is known only once its handler has succeeded, so a change whose handler fails is found
again by the next poll.
-/

namespace Listing

-- An entry that is missing something or has a bad value is left out; other faults end the poll.
def add (kind : Kind) (desired : Table String Snapshot) (entry : Json) :
    Except Fault (Table String Snapshot) :=
  let found : Except Fault (String × Snapshot) := do
    let obj ← Snapshot.ofJson kind entry
    let key ← Snapshot.keyOf entry
    pure (key, obj)
  match found with
  | .ok (key, obj) => .ok (desired.put key obj)
  | .error fault => if fault.spoilsEntryOnly then .ok desired else .error fault

def ofItems (kind : Kind) (items : List Json) : Except Fault (Table String Snapshot) :=
  items.foldlM (add kind) []

def items? : Json → Option (List Json)
  | .object fields =>
      match Json.lookup? "items" fields with
      | some (.list items) => some items
      | _ => none
  | _ => none

/-- What a file lists; none if there is no file or it is not a list of items. -/
def ofFile (kind : Kind) (file : Option ByteArray) : Except Fault (Option (Table String Snapshot)) :=
  match file with
  | none => .ok none
  | some bytes =>
      match Document.ofBytes bytes with
      | .error .malformed => .ok none
      | .error fault => .error fault
      | .ok document =>
          match items? document with
          | none => .ok none
          | some items => (ofItems kind items).map some

end Listing

namespace Watcher

/-- What handles a change: whether it succeeds, and the state after it. -/
abbrev Dispatch (σ : Type) := Change Snapshot → σ → Bool × σ

variable {σ : Type} (dispatch : Dispatch σ)

abbrev Known := Table String Snapshot

def changeTo (known : Known) (key : String) (obj : Snapshot) : Option (Change Snapshot) :=
  match known.get? key with
  | none => some (.created obj)
  | some old => if old = obj then none else some (.updated old obj)

def deliver (known : Known) (state : σ) (entry : String × Snapshot) : Known × σ :=
  let (key, obj) := entry
  match changeTo known key obj with
  | none => (known, state)
  | some change =>
      let (succeeded, state) := dispatch change state
      (if succeeded then known.put key obj else known, state)

def withdraw (known : Known) (state : σ) (entry : String × Snapshot) : Known × σ :=
  let (key, obj) := entry
  let (succeeded, state) := dispatch (.deleted obj) state
  (if succeeded then known.erase key else known, state)

def gone (desired known : Known) : Known := known.filter fun entry => !desired.has entry.1

section Looking
variable (order : Known → Known)

/-- Delivers the differences between what is known and what is listed. What is gone comes last, in some order. -/
def compareIn (desired known : Known) (state : σ) : Known × σ :=
  let r := desired.foldl (fun r entry => deliver dispatch r.1 r.2 entry) (known, state)
  (order (gone desired r.1)).foldl (fun r entry => withdraw dispatch r.1 r.2 entry) r

/-- One look at the file. A file that cannot be read as a list leaves everything as it is. -/
def pollIn (kind : Kind) (file : Option ByteArray) (known : Known) (state : σ) : Except Fault (Known × σ) :=
  (Listing.ofFile kind file).map fun listed =>
    match listed with
    | none => (known, state)
    | some desired => compareIn dispatch order desired known state

end Looking

-- The order of withdrawals is anyone's; here it is the one in which things became known.
def compare (desired known : Known) (state : σ) : Known × σ := compareIn dispatch id desired known state

def poll (kind : Kind) (file : Option ByteArray) (known : Known) (state : σ) : Except Fault (Known × σ) :=
  pollIn dispatch id kind file known state

/-- Looks at the file a number of times; a poll that fails is as good as none. -/
def polls (kind : Kind) (file : Option ByteArray) : Nat → Known → σ → Known × σ
  | 0, known, state => (known, state)
  | n + 1, known, state =>
      match poll dispatch kind file known state with
      | .ok (known, state) => polls kind file n known state
      | .error _ => polls kind file n known state

end Watcher
end PodAddressing
