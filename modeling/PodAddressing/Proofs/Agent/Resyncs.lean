import PodAddressing.Proofs.Agent.Serving
import PodAddressing.Proofs.Resync.Loop
import PodAddressing.Proofs.Watch.Deliveries
/-!
When a resync is requested. Changes of remote resources that do not matter to forwarding are handled without a request
and known nevertheless, so a request depends on what two files in a row list, and on nothing between them.
-/

namespace PodAddressing

section Forwarding

/-- What of a remote resource matters to forwarding. -/
inductive Forwarding
  | peer (vtepIP vtepMAC : String) (nodeLocalIPs endpointIPs : List String)
  | subnet (cidr : String) (gateway : Option String) (networkType : NetworkType) (cluster : String)
  deriving DecidableEq, Repr

namespace Snapshot

def forwarding? : Snapshot → Option Forwarding
  | .remotePeer p => some (.peer p.vtepIP p.vtepMAC p.nodeLocalIPs p.endpointIPs)
  | .remoteSubnet s => some (.subnet s.cidr s.gateway s.networkType s.cluster)
  | _ => none

def kind : Snapshot → Kind
  | .pod _ => .pod
  | .statefulSet _ => .statefulSet
  | .remotePeer _ => .remotePeer
  | .remoteSubnet _ => .remoteSubnet

theorem kind_ofJson {kind : Kind} {entry : Json} {obj : Snapshot} (read : ofJson kind entry = .ok obj) :
    obj.kind = kind := by
  cases kind <;>
    · obtain ⟨_, _, rfl⟩ := ok_of_map read
      rfl

end Snapshot

theorem AddressList.equal_iff {a b : List String} : equal a b = true ↔ a = b := by
  induction a generalizing b with
  | nil => cases b <;> simp [equal]
  | cons x rest ih =>
      cases b with
      | nil => simp [equal]
      | cons y others =>
          have step : equal (x :: rest) (y :: others) = (x == y && equal rest others) := by
            simp [equal, Bool.and_left_comm]
          rw [step, Bool.and_eq_true, beq_iff_eq, ih, List.cons.injEq]

theorem RemotePeer.changed_iff {old new : RemotePeer} :
    old.changed new = true ↔ (Snapshot.remotePeer old).forwarding? ≠ (Snapshot.remotePeer new).forwarding? := by
  have lists (a b : List String) : AddressList.equal a b = false ↔ a ≠ b := by
    rw [← Bool.not_eq_true, AddressList.equal_iff]
  simp only [changed, Bool.or_eq_true, bne_iff_ne, Bool.not_eq_true', lists, Snapshot.forwarding?, ne_eq,
    Option.some.injEq, Forwarding.peer.injEq, not_and_or]
  simp only [or_assoc]

theorem RemoteSubnet.changed_iff {old new : RemoteSubnet} : old.changed new = true ↔
    (Snapshot.remoteSubnet old).forwarding? ≠ (Snapshot.remoteSubnet new).forwarding? := by
  simp only [changed, Bool.or_eq_true, bne_iff_ne, Snapshot.forwarding?, ne_eq, Option.some.injEq,
    Forwarding.subnet.injEq, not_and_or]
  simp only [or_assoc]

def Change.matters (change : Change Snapshot) : Bool :=
  change.before?.bind Snapshot.forwarding? != change.after?.bind Snapshot.forwarding?

def Change.IsOf (kind : Kind) (change : Change Snapshot) : Prop :=
  (∀ obj ∈ change.before?, obj.kind = kind) ∧ ∀ obj ∈ change.after?, obj.kind = kind

/-- The kinds whose changes lead to requests, with the handler of each and the key that it requests. -/
inductive Requests : Kind → Handler → String → Prop
  | peers : Requests .remotePeer .remotePeer reconcileNode
  | subnets : Requests .remoteSubnet .remoteSubnet reconcileSubnet

theorem Snapshot.exists_remotePeer {obj : Snapshot} (own : obj.kind = .remotePeer) : ∃ p, obj = .remotePeer p := by
  cases obj with
  | remotePeer p => exact ⟨p, rfl⟩
  | _ => cases own

theorem Snapshot.exists_remoteSubnet {obj : Snapshot} (own : obj.kind = .remoteSubnet) :
    ∃ s, obj = .remoteSubnet s := by
  cases obj with
  | remoteSubnet s => exact ⟨s, rfl⟩
  | _ => cases own

theorem Requests.handle {kind : Kind} {handler : Handler} {key : String} (requests : Requests kind handler key)
    {change : Change Snapshot} (own : change.IsOf kind) (s : Site) :
    handler.handle s change = s.request key change.matters := by
  obtain ⟨old_kind, new_kind⟩ := own
  cases requests with
  | peers =>
      cases change with
      | created obj =>
          obtain ⟨p, rfl⟩ := Snapshot.exists_remotePeer (new_kind _ rfl)
          rfl
      | deleted obj =>
          obtain ⟨p, rfl⟩ := Snapshot.exists_remotePeer (old_kind _ rfl)
          rfl
      | updated old new =>
          obtain ⟨old, rfl⟩ := Snapshot.exists_remotePeer (old_kind _ rfl)
          obtain ⟨new, rfl⟩ := Snapshot.exists_remotePeer (new_kind _ rfl)
          have same : old.changed new = (Change.updated (.remotePeer old) (.remotePeer new)).matters := by
            rw [Bool.eq_iff_iff, RemotePeer.changed_iff, Change.matters, bne_iff_ne]
            rfl
          exact congrArg (s.request reconcileNode) same
  | subnets =>
      cases change with
      | created obj =>
          obtain ⟨p, rfl⟩ := Snapshot.exists_remoteSubnet (new_kind _ rfl)
          rfl
      | deleted obj =>
          obtain ⟨p, rfl⟩ := Snapshot.exists_remoteSubnet (old_kind _ rfl)
          rfl
      | updated old new =>
          obtain ⟨old, rfl⟩ := Snapshot.exists_remoteSubnet (old_kind _ rfl)
          obtain ⟨new, rfl⟩ := Snapshot.exists_remoteSubnet (new_kind _ rfl)
          have same : old.changed new = (Change.updated (.remoteSubnet old) (.remoteSubnet new)).matters := by
            rw [Bool.eq_iff_iff, RemoteSubnet.changed_iff, Change.matters, bne_iff_ne]
            rfl
          exact congrArg (s.request reconcileSubnet) same

end Forwarding

section Relieving
open Resync ResyncQueue
variable {q : ResyncQueue}

def Resync.quick : Work Unit := fun _ state => (⟨[], false⟩, state)

/-- The queue after all that waits in it has been taken and done. -/
def ResyncQueue.relieved (q : ResyncQueue) : ResyncQueue := (rounds quick q.size q ()).1

theorem ResyncQueue.relieved_eq (sound : Sound q) (idle : q.working = []) : q.relieved = {} := by
  unfold relieved size
  generalize size : q.waiting.length = n
  induction n generalizing q with
  | zero =>
      have empty := List.length_eq_zero_iff.mp size
      obtain ⟨waiting, marked, working, closed⟩ := q
      have unmarked := sound.nothing_marked empty idle
      have opened := sound.opened
      simp only at empty idle unmarked opened
      rw [empty, idle, unmarked, opened]
      rfl
  | succ n ih =>
      obtain ⟨key, rest, waits⟩ := List.exists_cons_of_length_eq_add_one size
      have taken : q.get.1 = some key := get_eq_some_iff.mpr ⟨rest, waits⟩
      have next : round quick q () = (q.get.2.done key, ()) := round_of_waiting waits
      have after := (sound.get taken).done (mem_working_get taken)
      have idle' : (q.get.2.done key).working = [] := by
        rw [working_done, sound.taken waits, idle]
        exact List.erase_cons_head key []
      have fewer : (q.get.2.done key).waiting.length = n := by
        have unmarked : key ∉ q.marked.erase key := fun again =>
          (sound.marked_once.mem_erase_iff.mp again).1 rfl
        rw [waiting_done, sound.taken waits, if_neg unmarked]
        rw [waits] at size
        exact Nat.succ.inj size
      rw [rounds, next]
      exact ih after idle' fewer

/-- A queue in which nothing waited, once a key may have been asked for. -/
def ResyncQueue.asked (key : String) (needed : Bool) : ResyncQueue :=
  if needed then ({} : ResyncQueue).add key else {}

theorem ResyncQueue.add_asked (key : String) (already : Bool) : (asked key already).add key = asked key true := by
  cases already with
  | false => rfl
  | true => simp [asked, add]

theorem ResyncQueue.waiting_asked (key : String) (needed : Bool) :
    (asked key needed).waiting = if needed then [key] else [] := by
  cases needed <;> rfl

theorem ResyncQueue.sound_asked (key : String) (needed : Bool) : Sound (asked key needed) := by
  cases needed with
  | false => exact sound_empty
  | true => exact sound_empty.add key

theorem ResyncQueue.working_asked (key : String) (needed : Bool) : (asked key needed).working = [] := by
  cases needed <;> rfl

end Relieving

section Requesting
open Watcher
variable {kind : Kind} {handler : Handler} {key : String} {handlers : Registry Handler}

def Site.queueing (s : Site) (queue : ResyncQueue) : Site := { s with queue }

theorem Site.request_asked (s : Site) (key : String) (already needed : Bool) :
    (s.queueing (.asked key already)).request key needed =
      (.ok (), s.queueing (.asked key (already || needed))) := by
  cases needed with
  | false =>
      rw [Bool.or_false]
      rfl
  | true =>
      rw [Bool.or_true, ← ResyncQueue.add_asked key already]
      rfl

theorem Requests.dispatch (requests : Requests kind handler key)
    (wired : Table.get? handlers kind.name = some handler) {change : Change Snapshot} (own : change.IsOf kind)
    (s : Site) (already : Bool) :
    Agent.dispatch handlers kind change (s.queueing (.asked key already)) =
      (true, s.queueing (.asked key (already || change.matters))) := by
  have handled := requests.handle own (s.queueing (.asked key already))
  rw [s.request_asked] at handled
  have routed : handlers.route ⟨kind.name, some change⟩ = .ok (some (handler, change)) := by
    simp only [Registry.route, wired]
  simp only [Agent.dispatch, routed, handled]

/-- Every change of a resource that requests are about is handled, and the key waits if any of them matters. -/
theorem Requests.deliveries (requests : Requests kind handler key)
    (wired : Table.get? handlers kind.name = some handler) {changes : List (String × Change Snapshot)}
    (own : ∀ entry ∈ changes, entry.2.IsOf kind) (s : Site) (already : Bool) :
    let made := deliveries (Agent.dispatch handlers kind) changes (s.queueing (.asked key already))
    (∀ d ∈ made.1, d.succeeded = true) ∧
      made.2 = s.queueing (.asked key (already || changes.any fun entry => entry.2.matters)) := by
  induction changes generalizing already with
  | nil => exact ⟨fun _ none => absurd none List.not_mem_nil, by rw [List.any_nil, Bool.or_false]; rfl⟩
  | cons entry rest ih =>
      obtain ⟨place, change⟩ := entry
      obtain ⟨first, others⟩ := List.forall_mem_cons.mp own
      have now := requests.dispatch wired first s already
      obtain ⟨succeeded, ended⟩ := ih others (already || change.matters)
      rw [deliveries_cons, now, List.any_cons, ← Bool.or_assoc]
      exact ⟨List.forall_mem_cons.mpr ⟨rfl, succeeded⟩, ended⟩

end Requesting

section Differing
open Watcher
variable {kind : Kind} {known desired : Known}

def Watcher.OfKind (kind : Kind) (known : Known) : Prop := ∀ key obj, known.get? key = some obj → obj.kind = kind

def Watcher.forwarding (known : Known) (key : String) : Option Forwarding :=
  (known.get? key).bind Snapshot.forwarding?

theorem Listing.ofKind {file : Option ByteArray} (listed : ofFile kind file = .ok (some desired)) :
    OfKind kind desired := by
  obtain ⟨items, _, _, rfl⟩ := ofFile_eq_some_iff.mp listed
  intro key obj found
  rw [Table.get?_ofEntries] at found
  obtain ⟨entry, _, said⟩ := mem_entries.mp (List.mem_reverse.mp (Table.mem_of_get? found))
  obtain ⟨read, said, rest⟩ := ok_of_bind said
  obtain ⟨_, _, same⟩ := ok_of_bind rest
  cases same
  exact Snapshot.kind_ofJson said

theorem Watcher.isOf_of_due (unique : known.Unique) (once : desired.Unique) (own : OfKind kind known)
    (own' : OfKind kind desired) : ∀ entry ∈ due desired known, entry.2.IsOf kind := by
  rintro ⟨key, change⟩ member
  obtain ⟨had, listed, _⟩ := (mem_due unique once).mp member
  exact ⟨fun obj before => own key obj (had.trans before), fun obj after => own' key obj (listed.trans after)⟩

/-- Some change of a look matters just if what matters is another for some key. -/
theorem Watcher.any_due_matters_iff (unique : known.Unique) (once : desired.Unique) :
    ((due desired known).any fun entry => entry.2.matters) = true ↔ forwarding desired ≠ forwarding known := by
  rw [List.any_eq_true, ne_eq, funext_iff, not_forall]
  constructor
  · rintro ⟨⟨key, change⟩, member, matters⟩
    obtain ⟨had, listed, _⟩ := (mem_due unique once).mp member
    refine ⟨key, fun same => ?_⟩
    rw [forwarding, forwarding, had, listed] at same
    exact bne_iff_ne.mp matters same.symm
  · rintro ⟨key, differs⟩
    have leads (change : Change Snapshot) (before : known.get? key = change.before?)
        (after : desired.get? key = change.after?) :
        ∃ entry ∈ due desired known, entry.2.matters = true := by
      have matters : change.before?.bind Snapshot.forwarding? ≠ change.after?.bind Snapshot.forwarding? := by
        rw [← before, ← after]
        exact Ne.symm differs
      refine ⟨(key, change), (mem_due unique once).mpr ⟨before, after, ?_⟩, bne_iff_ne.mpr matters⟩
      exact fun same => matters (congrArg (Option.bind · Snapshot.forwarding?) same)
    cases before : known.get? key with
    | none =>
        cases after : desired.get? key with
        | none =>
            rw [forwarding, forwarding, before, after] at differs
            exact absurd rfl differs
        | some obj => exact leads (.created obj) before after
    | some old =>
        cases after : desired.get? key with
        | none => exact leads (.deleted old) before after
        | some new => exact leads (.updated old new) before after

end Differing

namespace Agent
open Watcher Resync
variable {kind : Kind} {handler : Handler} {key : String} {a : Agent} {index : Nat} {w : WatchedFile} {known : Known}

def relieved (a : Agent) : Agent := { a with site := a.site.queueing a.site.queue.relieved }

/-- The agent after it has looked at a file in one scene after another, relieved before each look. -/
def afterRelieved (a : Agent) (index : Nat) (scenes : List Scene) : Agent :=
  scenes.foldl (fun a scene => ((a.relieved.facing scene).poll index).2) a

end Agent

section Forwarded
open Watcher

/-- What matters to forwarding after one more look: what the file lists, or what mattered before if it lists nothing. -/
def WatchedFile.forwardedNext (w : WatchedFile) (before : String → Option Forwarding) (scene : Scene) :
    String → Option Forwarding :=
  (w.listed? scene.files).elim before forwarding

/-- What matters to forwarding of what the last file lists that lists anything. -/
def WatchedFile.forwarded (w : WatchedFile) (scenes : List Scene) : String → Option Forwarding :=
  scenes.foldl w.forwardedNext fun _ => none

end Forwarded

namespace Agent
open Watcher Resync
variable {kind : Kind} {handler : Handler} {key : String} {a : Agent} {index : Nat} {w : WatchedFile} {known : Known}
variable {view : String → Option Forwarding}

/-- What holds of an agent that looks at a file of a kind that requests are about. -/
structure Relays (kind : Kind) (handler : Handler) (index : Nat) (w : WatchedFile)
    (view : String → Option Forwarding) (a : Agent) (known : Known) : Prop where
  wired : Table.get? a.handlers kind.name = some handler
  watches : a.watched[index]? = some { w with known }
  unique : known.Unique
  own : OfKind kind known
  sees : forwarding known = view
  sound : ResyncQueue.Sound a.site.queue
  idle : a.site.queue.working = []

theorem Relays.relieved (relays : Relays kind handler index w view a known) (key : String) :
    a.relieved.site = a.site.queueing (.asked key false) :=
  congrArg a.site.queueing (ResyncQueue.relieved_eq relays.sound relays.idle)

theorem Relays.poll_listed (requests : Requests kind handler key) (watching : w.kind = kind)
    (relays : Relays kind handler index w view a known) {scene : Scene} {desired : Known}
    (listed : w.listing scene.files = .ok (some desired)) :
    let a' := ((a.relieved.facing scene).poll index).2
    (∃ known', Relays kind handler index w (forwarding desired) a' known') ∧
      a'.site.queue = .asked key ((due desired known).any fun entry => entry.2.matters) := by
  intro a'
  subst watching
  have once := WatchedFile.unique_listing listed
  have own' : OfKind w.kind desired := by
    obtain ⟨_, _, read⟩ := ok_of_bind listed
    exact Listing.ofKind read
  have queue : (a.relieved.facing scene).site = (a.relieved.facing scene).site.queueing (.asked key false) := by
    rw [facing, relays.relieved key]
    rfl
  obtain ⟨succeeded, ended⟩ := requests.deliveries relays.wired
    (isOf_of_due relays.unique once relays.own own') (a.relieved.facing scene).site false
  rw [← queue] at succeeded ended
  set site := (a.relieved.facing scene).site
  have known_now := known_of_succeeded relays.unique once
    (.of_eq (deliveries_exact (dispatch a.handlers w.kind) (due desired known) site)) succeeded
  have polled : a' = { a.relieved.facing scene with
      watched := a.watched.set index { w with
        known := (compare (dispatch a.handlers w.kind) desired known site).1 }
      site := (compare (dispatch a.handlers w.kind) desired known site).2 } :=
    poll_of_listed (a := a.relieved.facing scene) relays.watches listed
  rw [compare_eq once] at polled
  have asks : a'.site.queue = .asked key ((due desired known).any fun entry => entry.2.matters) :=
    (congrArg (·.site.queue) polled).trans (congrArg Site.queue ended)
  refine ⟨⟨replay known (deliveries (dispatch a.handlers w.kind) (due desired known) site).1, ?_⟩, asks⟩
  constructor
  case wired => exact (congrArg (Table.get? · w.kind.name) (poll_handlers _ index)).trans relays.wired
  case watches =>
    have within : index < a.watched.length := (List.getElem?_eq_some_iff.mp relays.watches).1
    exact (congrArg (·.watched[index]?) polled).trans (List.getElem?_set_self within)
  case unique => exact unique_replay relays.unique _
  case own => exact fun place obj found => own' place obj ((known_now place).symm.trans found)
  case sees => exact funext fun place => congrArg (·.bind Snapshot.forwarding?) (known_now place)
  case sound => exact asks ▸ ResyncQueue.sound_asked key _
  case idle => exact asks ▸ ResyncQueue.working_asked key _

theorem Relays.poll_unlisted (relays : Relays kind handler index w view a known) (key : String) {scene : Scene}
    (unlisted : ∀ desired, w.listing scene.files ≠ .ok (some desired)) :
    let a' := ((a.relieved.facing scene).poll index).2
    Relays kind handler index w view a' known ∧ a'.site.queue = .asked key false := by
  have same : ((a.relieved.facing scene).poll index).2 = a.relieved.facing scene :=
    poll_of_unlisted (a := a.relieved.facing scene) relays.watches unlisted
  have queue : (a.relieved.facing scene).site.queue = .asked key false :=
    congrArg Site.queue (relays.relieved key)
  intro a'
  have asks : a'.site.queue = .asked key false := (congrArg (·.site.queue) same).trans queue
  refine ⟨?_, asks⟩
  constructor
  case wired => exact (congrArg (Table.get? ·.handlers kind.name) same).trans relays.wired
  case watches => exact (congrArg (·.watched[index]?) same).trans relays.watches
  case unique => exact relays.unique
  case own => exact relays.own
  case sees => exact relays.sees
  case sound => exact asks ▸ ResyncQueue.sound_asked key _
  case idle => exact asks ▸ ResyncQueue.working_asked key _

/-- After a look the key waits just if what matters to forwarding has become something else. -/
theorem Relays.poll (requests : Requests kind handler key) (watching : w.kind = kind)
    (relays : Relays kind handler index w view a known) (scene : Scene) :
    let a' := ((a.relieved.facing scene).poll index).2
    (∃ known', Relays kind handler index w (w.forwardedNext view scene) a' known') ∧
      ∃ needed, a'.site.queue = .asked key needed ∧ (needed = true ↔ w.forwardedNext view scene ≠ view) := by
  by_cases lists : ∃ desired, w.listing scene.files = .ok (some desired)
  · obtain ⟨desired, listed⟩ := lists
    have next : w.forwardedNext view scene = forwarding desired := by
      rw [WatchedFile.forwardedNext, WatchedFile.listed?_eq_some_iff.mpr listed, Option.elim_some]
    obtain ⟨still, asks⟩ := relays.poll_listed requests watching listed
    rw [next]
    refine ⟨still, _, asks, ?_⟩
    rw [any_due_matters_iff relays.unique (WatchedFile.unique_listing listed), relays.sees]
  · rw [not_exists] at lists
    have next : w.forwardedNext view scene = view := by
      rw [WatchedFile.forwardedNext, WatchedFile.listed?_of_unlisted lists, Option.elim_none]
    obtain ⟨still, asks⟩ := relays.poll_unlisted key lists
    rw [next]
    exact ⟨⟨known, still⟩, false, asks, by simp⟩

theorem Relays.afterRelieved (requests : Requests kind handler key) (watching : w.kind = kind)
    (relays : Relays kind handler index w view a known) (scenes : List Scene) :
    ∃ known', Relays kind handler index w (scenes.foldl w.forwardedNext view) (a.afterRelieved index scenes)
      known' := by
  induction scenes generalizing a known view with
  | nil => exact ⟨known, relays⟩
  | cons scene rest ih =>
      obtain ⟨⟨known', polled⟩, _⟩ := relays.poll requests watching scene
      exact ih polled

/-- After every look the key waits, once, just if what matters to forwarding is not what it was after the look before,
and otherwise nothing waits. -/
theorem resync_requested_iff (requests : Requests kind handler key)
    (wired : Table.get? a.handlers kind.name = some handler) (watches : a.watched[index]? = some w)
    (watching : w.kind = kind) (unseen : w.known = []) (sound : ResyncQueue.Sound a.site.queue)
    (idle : a.site.queue.working = []) (scenes : List Scene) (last : Scene) :
    let now := a.afterRelieved index (scenes ++ [last])
    (w.forwarded (scenes ++ [last]) ≠ w.forwarded scenes → now.site.queue.waiting = [key]) ∧
      (w.forwarded (scenes ++ [last]) = w.forwarded scenes → now.site.queue.waiting = []) := by
  have start : Relays kind handler index w (fun _ => none) a [] := by
    constructor
    case wired => exact wired
    case watches => rw [watches, ← unseen]
    case unique => exact List.nodup_nil
    case own =>
      intro _ _ found
      cases found
    case sees => rfl
    case sound => exact sound
    case idle => exact idle
  obtain ⟨known, relays⟩ := start.afterRelieved requests watching scenes
  obtain ⟨_, needed, asks, needed_iff⟩ := relays.poll requests watching last
  have ended : a.afterRelieved index (scenes ++ [last]) =
      (((a.afterRelieved index scenes).relieved.facing last).poll index).2 := by
    simp [Agent.afterRelieved]
  have next : w.forwarded (scenes ++ [last]) = w.forwardedNext (w.forwarded scenes) last := by
    simp [WatchedFile.forwarded]
  intro now
  have waiting : now.site.queue.waiting = if needed then [key] else [] := by
    rw [← ResyncQueue.waiting_asked, ← asks]
    exact congrArg (·.site.queue.waiting) ended
  rw [waiting, next]
  constructor
  · intro differs
    rw [if_pos (needed_iff.mpr differs)]
  · intro same
    rw [if_neg (fun asked => needed_iff.mp asked same)]

section Sample

def peersWatcher : WatchedFile where
  kind := .remotePeer
  path := ⟨0, ["peers.json"]⟩
  interval := .ofRatio false 1 1

def peersAgent : Agent where
  handlers := handlersWith checkedSettings (podHandler checkedSettings)
  watched := [peersWatcher]
  site := { allocator := gated, files := {}, segment := .isolated }

def peerScene (node endpoints : String) : Scene where
  files := { nodes := [(["peers.json"], .file ("\x7b\"items\": [\x7b\"name\": \"east\", \"node\": \"" ++ node ++
    "\", \"vtepIP\": \"::7\", \"vtepMAC\": \"02:00:00:00:00:07\", \"endpointIPs\": [" ++ endpoints ++
    "]\x7d]\x7d").toUTF8)] }
  segment := .isolated

def eastPeer (node : String) (endpoints : List String) : Known :=
  [("east", .remotePeer ⟨"east", "", node, "::7", "02:00:00:00:00:07", [], endpoints⟩)]

def firstSeen : Scene := peerScene "n8" "\"::1\", \"::2\""

def movedNode : Scene := peerScene "n9" "\"::1\", \"::2\""

def otherOrder : Scene := peerScene "n9" "\"::2\", \"::1\""

/-- Another node is no reason for a resync, another order of the endpoints is. -/
theorem other_order_requested :
    (peersAgent.afterRelieved 0 [firstSeen, movedNode]).site.queue.waiting = [] ∧
      (peersAgent.afterRelieved 0 [firstSeen, movedNode, otherOrder]).site.queue.waiting = [reconcileNode] := by
  have first : peersWatcher.listed? firstSeen.files = some (eastPeer "n8" ["::1", "::2"]) := by decide +kernel
  have moved : peersWatcher.listed? movedNode.files = some (eastPeer "n9" ["::1", "::2"]) := by decide +kernel
  have other : peersWatcher.listed? otherOrder.files = some (eastPeer "n9" ["::2", "::1"]) := by decide +kernel
  have same : peersWatcher.forwarded [firstSeen, movedNode] = peersWatcher.forwarded [firstSeen] := by
    simp only [WatchedFile.forwarded, WatchedFile.forwardedNext, List.foldl_cons, List.foldl_nil, first, moved,
      Option.elim_some]
    funext key
    simp only [forwarding, eastPeer, Table.get?_cons]
    split <;> rfl
  have differs : peersWatcher.forwarded [firstSeen, movedNode, otherOrder] ≠
      peersWatcher.forwarded [firstSeen, movedNode] := by
    simp only [WatchedFile.forwarded, WatchedFile.forwardedNext, List.foldl_cons, List.foldl_nil, moved, other,
      Option.elim_some]
    intro same
    exact absurd (congrFun same "east") (by decide)
  have wired : Table.get? peersAgent.handlers Kind.remotePeer.name = some .remotePeer := rfl
  have watches : peersAgent.watched[0]? = some peersWatcher := rfl
  have sound : ResyncQueue.Sound peersAgent.site.queue := ResyncQueue.sound_empty
  obtain ⟨_, nothing⟩ := resync_requested_iff .peers wired watches rfl rfl sound rfl [firstSeen] movedNode
  obtain ⟨requested, _⟩ :=
    resync_requested_iff .peers wired watches rfl rfl sound rfl [firstSeen, movedNode] otherOrder
  simp only [List.cons_append, List.nil_append] at nothing requested
  exact ⟨nothing same, requested differs⟩

end Sample

end Agent
end PodAddressing
