import PodAddressing.Proofs.Agent.Mirror
/-!
What the checking of addresses has an influence on. Handlers finish with the records before the first frame is sent,
so whatever is checked and whatever the network answers, all that is not sent is as without checks.
-/

namespace PodAddressing
variable {s : Site}

/-- A site without the network: what goes over it is left out. -/
def Site.offline (s : Site) : Site := { s with segment := .isolated, sent := [] }

def Handler.unchecked : Handler → Handler
  | .pod h => .pod { h with checks := none }
  | handler => handler

def Site.Outcome.offline {α : Type} (outcome : Site.Outcome α) : Site.Outcome α := outcome.map id Site.offline

section Sites

theorem Notice.give_offline (n : Notice) (s : Site) : n.give s.offline = (n.give s).offline := by
  cases n <;> rfl

theorem Notice.giveOf_offline (n : Notice) (s : Site) (records : List Record) :
    n.giveOf s.offline records = (n.giveOf s records).offline := by
  unfold giveOf
  split
  · rfl
  · exact n.give_offline s

theorem Site.withAllocator_offline {α : Type} (s : Site) (op : Allocator → Allocator.Outcome α) :
    s.offline.withAllocator op = (s.withAllocator op).offline := rfl

theorem Notice.answered_offline (n : Notice) (s : Site) (op : Allocator → Allocator.Outcome (List Record)) :
    (match s.offline.withAllocator op with
      | (.error fault, s) => ((.error fault, s) : Site.Outcome Unit)
      | (.ok records, s) => n.giveOf s records) =
    Site.Outcome.offline (match s.withAllocator op with
      | (.error fault, s) => ((.error fault, s) : Site.Outcome Unit)
      | (.ok records, s) => n.giveOf s records) := by
  rw [s.withAllocator_offline]
  rcases s.withAllocator op with ⟨outcome, s'⟩
  cases outcome with
  | error fault => rfl
  | ok records => exact n.giveOf_offline s' records

theorem StatefulSet.purged_offline (notice : Notice) (s : Site) (set : StatefulSet) (keep : Option Int) :
    set.purged notice s.offline keep = (set.purged notice s keep).offline :=
  notice.answered_offline s (·.purgeOwner set.ns set.reference keep)

theorem Site.request_offline (s : Site) (key : String) (needed : Bool) :
    s.offline.request key needed = (s.request key needed).offline := by
  cases needed <;> rfl

end Sites

namespace PodHandler
variable (h : PodHandler) (s : Site) (p : Pod)

theorem deleted_offline : ({ h with checks := none } : PodHandler).deleted s.offline p = (h.deleted s p).offline :=
  h.notice.answered_offline s (·.release p.identity)

theorem ensured_offline :
    (({ h with checks := none } : PodHandler).ensured s.offline p).2 = (h.ensured s p).2.offline := by
  change (({ h with checks := none } : PodHandler).ensure s.offline p).2 = (h.ensure s p).2.offline
  unfold ensure
  split
  · rfl
  · rw [s.withAllocator_offline]
    rcases s.withAllocator (·.allocate p.identity p.criteria p.subnets) with ⟨outcome, s'⟩
    cases outcome with
    | error fault => rfl
    | ok records =>
        dsimp only [Site.Outcome.offline, Prod.map, id]
        rcases given : h.notice.give s' with ⟨outcome, s''⟩
        have given' : h.notice.give s'.offline = (outcome, s''.offline) := by
          rw [h.notice.give_offline, given]
          rfl
        rw [given']
        cases outcome with
        | error fault => rfl
        | ok done =>
            obtain ⟨sent, same⟩ := h.activate_frame s'' p records
            dsimp only
            rw [same]
            rfl

theorem updated_offline (old new : Pod) :
    (({ h with checks := none } : PodHandler).updated s.offline old new).2 = (h.updated s old new).2.offline := by
  unfold updated
  dsimp only
  by_cases renewed : old.uid ≠ new.uid
  · simp only [renewed, decide_true, ↓reduceIte, ne_eq, not_false_eq_true]
    rw [h.deleted_offline]
    rcases h.deleted s old with ⟨outcome, s'⟩
    cases outcome with
    | error fault => rfl
    | ok done =>
        dsimp only [Site.Outcome.offline, Prod.map, id]
        split
        · exact h.ensured_offline s' new
        · rfl
  · simp only [renewed, decide_false, ↓reduceIte]
    split
    · exact h.ensured_offline s new
    · rfl

end PodHandler

namespace Handler
variable (s : Site) (change : Change Snapshot)

theorem pod_offline (h : PodHandler) :
    ((pod { h with checks := none }).handle s.offline change).2 = ((pod h).handle s change).2.offline := by
  cases change with
  | created obj =>
      cases obj with
      | pod p => exact h.ensured_offline s p
      | _ => rfl
  | updated old new =>
      cases old with
      | pod old =>
          cases new with
          | pod new => exact h.updated_offline s old new
          | _ => rfl
      | _ => cases new <;> rfl
  | deleted obj =>
      cases obj with
      | pod p => exact congrArg Prod.snd (h.deleted_offline s p)
      | _ => rfl

theorem statefulSet_offline (notice : Notice) :
    ((statefulSet notice).handle s.offline change).2 = ((statefulSet notice).handle s change).2.offline := by
  have purged (set : StatefulSet) (keep : Option Int) := congrArg Prod.snd (set.purged_offline notice s keep)
  cases change with
  | created obj | deleted obj =>
      cases obj with
      | statefulSet set => exact purged set _
      | _ => rfl
  | updated old new =>
      cases old with
      | statefulSet old =>
          cases new with
          | statefulSet new =>
              change (old.updated notice s.offline new).2 = (old.updated notice s new).2.offline
              unfold StatefulSet.updated
              split
              · rfl
              · exact purged new _
          | _ => rfl
      | _ => cases new <;> rfl

theorem remote_offline (handler : Handler) (remote : handler = remotePeer ∨ handler = remoteSubnet) :
    (handler.handle s.offline change).2 = (handler.handle s change).2.offline := by
  have requested (key : String) (needed : Bool) := congrArg Prod.snd (s.request_offline key needed)
  rcases remote with rfl | rfl
  all_goals
    cases change with
    | created obj | deleted obj => exact requested _ _
    | updated old new => cases old <;> cases new <;> first | exact requested _ _ | rfl

/-- A handler does to a site what it does without checks and without a network, sending apart. -/
theorem handle_offline (handler : Handler) :
    (handler.unchecked.handle s.offline change).2 = (handler.handle s change).2.offline := by
  cases handler with
  | pod h => exact pod_offline s change h
  | statefulSet notice => exact statefulSet_offline s change notice
  | remotePeer => exact remote_offline s change _ (.inl rfl)
  | remoteSubnet => exact remote_offline s change _ (.inr rfl)

end Handler

namespace Agent

def wiredAt (settings : Settings) (s : Site) : Agent where
  handlers := handlersWith settings (podHandler settings)
  site := s

/-- The agent with handlers that check nothing, at a site without the network. -/
def offline (a : Agent) : Agent :=
  { a with handlers := a.handlers.map fun (kind, handler) => (kind, handler.unchecked), site := a.site.offline }

theorem handle_offline (a : Agent) (segment : Segment) (e : Event Snapshot) :
    ((a.onSegment segment).handle e).2.offline = (a.offline.handle e).2 := by
  have known := Table.get?_map a.handlers Handler.unchecked e.kind
  obtain ⟨kind, change⟩ := e
  unfold handle Registry.route
  dsimp only [offline, onSegment] at known ⊢
  rw [known]
  cases Table.get? a.handlers kind with
  | none => rfl
  | some handler =>
      cases change with
      | none => rfl
      | some change =>
          have handled := Handler.handle_offline { a.site with segment } change handler
          dsimp only [Option.map_some]
          rw [← handled]
          rfl

/-- An agent with checks goes the way of the agent without them, event by event. -/
theorem handleAll_offline (a : Agent) (events : List (Segment × Event Snapshot)) :
    (a.handleAll events).offline = a.offline.handleAll (events.map fun e => (.isolated, e.2)) := by
  induction events generalizing a with
  | nil => rfl
  | cons e rest ih =>
      have first : ((a.onSegment e.1).handle e.2).2.offline = ((a.offline.onSegment .isolated).handle e.2).2 :=
        a.handle_offline e.1 e.2
      rw [List.map_cons, handleAll, handleAll, List.foldl_cons, List.foldl_cons, ← first]
      exact ih _

/-- Two agents that differ in what they check and in their networks have the same records, in memory and in the
record file, after the same events. -/
theorem activation_leaves_records (settings : Settings) (activation : ActivationSettings) (s : Site)
    (segment : Segment) (sent : List Transmission) (events : List (Segment × Segment × Event Snapshot)) :
    let first := (wiredAt settings s).handleAll (events.map fun e => (e.1, e.2.2))
    let second := (wiredAt { settings with activation } { s with segment, sent }).handleAll
      (events.map fun e => (e.2.1, e.2.2))
    first.site.allocator = second.site.allocator ∧ first.site.files = second.site.files ∧
      first.site.queue = second.site.queue := by
  intro first second
  have alike : first.offline = second.offline := by
    rw [handleAll_offline, handleAll_offline, List.map_map, List.map_map]
    rfl
  have site : first.site.offline = second.site.offline := congrArg Agent.site alike
  obtain ⟨allocator, queue, files, _⟩ := Site.mk.inj site
  exact ⟨allocator, files, queue⟩

-- The gateway does not answer: the creation fails with checks and succeeds without.
example :
    let creation : Event Snapshot := ⟨"Pod", some (.created (.pod listedPod))⟩
    let unchecked := { savingSettings with activation := ⟨false, .null, .unlimited⟩ }
    ((wiredAt savingSettings savingAgent.site).handle creation).1.isOk = false ∧
      ((wiredAt unchecked savingAgent.site).handle creation).1.isOk = true := by
  decide +kernel

end Agent

end PodAddressing
