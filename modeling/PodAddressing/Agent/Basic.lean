import PodAddressing.Agent.Handler
import PodAddressing.Settings
import PodAddressing.Watch
/-!
The agent: a site with an allocator that was rebuilt from the record file, a handler for each kind of
resource, and the watchers with what they know.
-/

namespace PodAddressing

structure WatchedFile where
  kind : Kind
  path : FilePath
  /-- Seconds between two polls. -/
  interval : Number.Binary64
  known : Table String Snapshot := []

structure Agent where
  handlers : Registry Handler
  watched : List WatchedFile := []
  site : Site

namespace Agent

section Wiring
variable (settings : Settings)

def notice : Notice := settings.recordsPath.elim .silent .save

def checks : Option Checks :=
  let activation := settings.activation
  if activation.enabled then
    some ⟨activation.interface, activation.timeout, some settings.node⟩
  else none

def podHandler : PodHandler := ⟨checks settings, notice settings⟩

/-- A handler for each kind; `pods` handles the pods. -/
def handlersWith (pods : PodHandler) : Registry Handler := [
  (Kind.pod.name, .pod pods),
  (Kind.statefulSet.name, .statefulSet (notice settings)),
  (Kind.remotePeer.name, .remotePeer),
  (Kind.remoteSubnet.name, .remoteSubnet)]

def watchedFile (w : WatcherSettings) : Except Fault WatchedFile :=
  match Kind.named? w.kind with
  | some kind => .ok { kind, path := w.path, interval := w.interval }
  | none => .error (.bad (.resourceKind w.kind))

/-- The watcher that settings ask for. Only files are watched. -/
def watcher (w : WatcherSettings) : Except Fault WatchedFile :=
  if w.type = "file" then watchedFile w else .error (.bad (.watcherType w.type))

end Wiring

variable (a : Agent)

def handle (e : Event Snapshot) : Except Fault Unit × Agent :=
  match a.handlers.route e with
  | .error fault => (.error fault, a)
  | .ok none => (.ok (), a)
  | .ok (some (handler, change)) =>
      let (outcome, site) := handler.handle a.site change
      (outcome, { a with site })

def dispatch (handlers : Registry Handler) (kind : Kind) : Watcher.Dispatch Site := fun change s =>
  match handlers.route ⟨kind.name, some change⟩ with
  | .ok (some (handler, change)) =>
      match handler.handle s change with
      | (.ok (), s) => (true, s)
      | (.error _, s) => (false, s)
  | .ok none => (true, s)
  | .error _ => (false, s)

def pollFile (w : WatchedFile) : Except Fault (WatchedFile × Site) := do
  let content ← a.site.files.content? w.path
  let (known, site) ← Watcher.poll (dispatch a.handlers w.kind) w.kind content w.known a.site
  pure ({ w with known }, site)

def poll (index : Nat) : Except Fault Unit × Agent :=
  match a.watched[index]? with
  | none => (.error .outOfRange, a)
  | some w =>
      match a.pollFile w with
      | .error fault => (.error fault, a)
      | .ok (w, site) => (.ok (), { a with watched := a.watched.set index w, site })

end Agent

/-!
Starting the agent. Once the handlers are in place the files are polled for the first time, each as soon as
its watcher is made; a first poll that fails does not keep the agent from starting, but a watcher that
cannot be made does.
-/

namespace Agent

section Wiring
variable (settings : Settings)

def fresh (pods : PodHandler) (files : Files) (segment : Segment) (macs : MacSource) :
    Except Fault Agent := do
  let allocator ← Allocator.create macs settings.networks settings.subnets
  pure { handlers := handlersWith settings pods, site := { allocator, files, segment } }

/-- The agent with the records of the record file, and those that it did not take. -/
def restored (a : Agent) : Except Fault (List Record × Agent) :=
  match settings.recordsPath with
  | none => .ok ([], a)
  | some path =>
      (RecordFile.load a.site.files path).map fun records =>
        let (skipped, allocator) := a.site.allocator.rebuild records
        (skipped, { a with site := { a.site with allocator } })

/-- The agent before its first polls. -/
def wire (files : Files) (segment : Segment) (macs : MacSource) : Except Fault Agent := do
  let (_, a) ← restored settings (← fresh settings (podHandler settings) files segment macs)
  pure a

end Wiring

def watch (a : Agent) : List WatcherSettings → Except Fault Unit × Agent
  | [] => (.ok (), a)
  | w :: rest =>
      match watcher w with
      | .error fault => (.error fault, a)
      | .ok w =>
          match a.pollFile w with
          | .ok (w, site) => watch { a with watched := a.watched ++ [w], site } rest
          | .error _ => watch { a with watched := a.watched ++ [w] } rest

end Agent

end PodAddressing
