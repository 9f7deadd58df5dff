import PodAddressing.Agent.Basic
import PodAddressing.Proofs.Agent.Handlers
import PodAddressing.Proofs.Watch.Watcher
/-!
What a watcher knows of a pod, and what the pod has. The records of a pod are allocated before the handler of its
creation has succeeded, and a pod is known only if it did; as long as a pod stands under one key, the last change
that brought it says which of the two it is.
-/

namespace PodAddressing
variable {uid : String}

def Snapshot.isPod (uid : String) : Snapshot → Bool
  | .pod p => p.uid = uid
  | _ => false

@[simp] theorem Snapshot.isPod_pod (uid : String) (p : Pod) :
    (Snapshot.pod p).isPod uid = decide (p.uid = uid) := rfl

section Handling
variable {s : Site} {h : PodHandler} {p : Pod}

theorem PodHandler.active_ensured_ne (other : p.uid ≠ uid) :
    (h.ensured s p).2.allocator.active.get? uid = s.allocator.active.get? uid := by
  rw [h.ensured_allocator]
  split
  · exact Allocator.active_allocate_ne other _ _
  · rfl

theorem PodHandler.active_deleted_ne (other : p.uid ≠ uid) :
    (h.deleted s p).2.allocator.active.get? uid = s.allocator.active.get? uid := by
  rw [h.deleted_allocator]
  exact Allocator.active_release_ne other

theorem PodHandler.active_deleted (h : PodHandler) (s : Site) (p : Pod) :
    (h.deleted s p).2.allocator.active.get? p.uid = none ∨
      (h.deleted s p).1 ≠ .ok () ∧
        (h.deleted s p).2.allocator.active.get? p.uid = s.allocator.active.get? p.uid := by
  rw [h.deleted_allocator]
  rcases Allocator.active_release s.allocator p.identity p.uid with released | ⟨fault, refused⟩
  · exact .inl (released.trans (if_pos rfl))
  · right
    rw [refused]
    refine ⟨fun done => ?_, rfl⟩
    obtain ⟨records, answered⟩ := h.released_of_deleted s p done
    rw [refused] at answered
    cases answered

variable {change : Change Snapshot}

def Change.had (uid : String) (change : Change Snapshot) : Bool :=
  change.before?.any (·.isPod uid)

def Change.has (uid : String) (change : Change Snapshot) : Bool :=
  change.after?.any (·.isPod uid)

theorem Change.had_iff :
    change.had uid = true ↔ ∃ obj, change.before? = some obj ∧ obj.isPod uid = true :=
  Option.any_eq_true _ _

theorem Change.has_iff :
    change.has uid = true ↔ ∃ obj, change.after? = some obj ∧ obj.isPod uid = true :=
  Option.any_eq_true _ _

theorem Handler.active_of_absent (h : PodHandler) (s : Site) (old : change.had uid = false)
    (new : change.has uid = false) :
    ((Handler.pod h).handle s change).2.allocator.active.get? uid = s.allocator.active.get? uid := by
  have outcome := handle_pod_cases h s change
  generalize (Handler.pod h).handle s change = result at outcome
  cases outcome with
  | created p => exact PodHandler.active_ensured_ne (by simpa [Change.has, Change.after?] using new)
  | deleted p => exact PodHandler.active_deleted_ne (by simpa [Change.had, Change.before?] using old)
  | refused => rfl
  | updated before after =>
      have other : before.uid ≠ uid := by simpa [Change.had, Change.before?] using old
      have other' : after.uid ≠ uid := by simpa [Change.has, Change.after?] using new
      have outcome := h.updated_cases s before after
      generalize h.updated s before after = result at outcome
      cases outcome with
      | kept same => rfl
      | scheduled same => exact PodHandler.active_ensured_ne other'
      | left different => exact PodHandler.active_deleted_ne other
      | renewed different done =>
          exact (PodHandler.active_ensured_ne other').trans (PodHandler.active_deleted_ne other)

/-- A pod that goes loses its records, unless its release is refused. -/
theorem Handler.active_of_gone (h : PodHandler) (s : Site) (old : change.had uid = true)
    (new : change.has uid = false) :
    ((Handler.pod h).handle s change).2.allocator.active.get? uid = none ∨
      ((Handler.pod h).handle s change).1 ≠ .ok () ∧
        ((Handler.pod h).handle s change).2.allocator.active.get? uid =
          s.allocator.active.get? uid := by
  have outcome := handle_pod_cases h s change
  generalize (Handler.pod h).handle s change = result at outcome
  cases outcome with
  | created p => simp [Change.had, Change.before?] at old
  | deleted p =>
      have own : p.uid = uid := by simpa [Change.had, Change.before?] using old
      subst own
      exact h.active_deleted s p
  | refused => exact .inr ⟨by simp, rfl⟩
  | updated before after =>
      have own : before.uid = uid := by simpa [Change.had, Change.before?] using old
      subst own
      have other : after.uid ≠ before.uid := by simpa [Change.has, Change.after?] using new
      have outcome := h.updated_cases s before after
      generalize h.updated s before after = result at outcome
      cases outcome with
      | kept same => exact absurd same.symm other
      | scheduled same => exact absurd same.symm other
      | left different => exact h.active_deleted s before
      | renewed different done =>
          rcases h.active_deleted s before with released | ⟨failed, _⟩
          · exact .inl ((PodHandler.active_ensured_ne other).trans released)
          · exact absurd done failed

end Handling

section Tracking
open Watcher

/-- A change that a pod comes with, under a name that was free or that another pod had. -/
def Change.brings (uid : String) (change : Change Snapshot) : Bool := change.has uid && !change.had uid

def Watcher.Log.brought (uid : String) (log : Log) : Bool :=
  ((log.filter (·.1.brings uid)).getLast?).any (·.2)

theorem Watcher.Log.brought_snoc (uid : String) (log : Log) (change : Change Snapshot) (succeeded : Bool) :
    Log.brought uid (log ++ [(change, succeeded)]) =
      if change.brings uid then succeeded else log.brought uid := by
  unfold brought
  rw [List.filter_append]
  by_cases brings : change.brings uid = true
  · simp [brings]
  · simp [brings]

/-- A pod is known if a resource with its UID is, under whatever key. -/
def Watcher.Knows (known : Known) (uid : String) : Prop :=
  ∃ key obj, known.get? key = some obj ∧ obj.isPod uid = true

variable {place : String} {desired known next : Known} {key : String} {change : Change Snapshot}

def Watcher.Sole (place uid : String) (known : Known) : Prop :=
  ∀ entry ∈ known, entry.2.isPod uid = true → entry.1 = place

def Watcher.Absent (uid : String) (known : Known) : Prop := ∀ entry ∈ known, entry.2.isPod uid = false

namespace Watcher.Found

theorem knows_of_had (found : Found desired known key change next) (had : change.had uid = true) :
    Knows known uid := by
  obtain ⟨obj, before, own⟩ := Change.had_iff.mp had
  exact ⟨key, obj, found.before.trans before, own⟩

theorem sole (found : Found desired known key change next) (alone : Sole place uid known)
    (listed : Sole place uid desired) : Sole place uid next := by
  have put {obj : Snapshot} (lists : (key, obj) ∈ desired) : Sole place uid (known.put key obj) := by
    intro entry member own
    rcases Table.mem_put member with rfl | before
    · exact listed _ lists own
    · exact alone entry before own
  cases found with
  | created absent lists => exact put lists
  | updated had lists differs => exact put lists
  | deleted had unlisted => exact fun entry member => alone entry (List.mem_filter.mp member).1

theorem not_knows_of_brings (found : Found desired known key change next) (alone : Sole place uid known)
    (listed : Sole place uid desired)
    (brings : change.brings uid = true) : ¬ Knows known uid := by
  rintro ⟨key', obj, present, own⟩
  obtain ⟨has, had⟩ := Bool.and_eq_true_iff.mp brings
  obtain ⟨new, after, new_own⟩ := Change.has_iff.mp has
  have same : key' = key :=
    (alone _ (Table.mem_of_get? present) own).trans (listed _ (found.listed after) new_own).symm
  rw [same, found.before] at present
  simp [Change.had, present, own] at had

theorem knows_iff (found : Found desired known key change next) (alone : Sole place uid known) :
    Knows next uid ↔ change.has uid = true ∨ change.had uid = false ∧ Knows known uid := by
  constructor
  · rintro ⟨key', obj, present, own⟩
    rw [found.after] at present
    by_cases here : key = key'
    · rw [if_pos here] at present
      exact .inl (Change.has_iff.mpr ⟨obj, present, own⟩)
    · rw [if_neg here] at present
      refine .inr ⟨?_, key', obj, present, own⟩
      by_contra had
      obtain ⟨old, before, old_own⟩ := Change.had_iff.mp (by simpa using had)
      have same : key = place := alone _ (Table.mem_of_get? (found.before.trans before)) old_own
      exact here (same.trans (alone _ (Table.mem_of_get? present) own).symm)
  · rintro (has | ⟨had, key', obj, present, own⟩)
    · obtain ⟨obj, after, own⟩ := Change.has_iff.mp has
      exact ⟨key, obj, by rw [found.after, if_pos rfl, after], own⟩
    · have other : key ≠ key' := by
        rintro rfl
        rw [found.before] at present
        simp [Change.had, present, own] at had
      exact ⟨key', obj, by rw [found.after, if_neg other, present], own⟩

end Watcher.Found

/-- While a pod has records it is known if the last change that brought it succeeded, and not known otherwise. -/
structure Tracked (place uid : String) (known : Known) (a : Allocator) (log : Log) : Prop where
  valid : a.Consistent
  alone : Sole place uid known
  brought : Knows known uid → log.brought uid = true
  held : a.active.get? uid ≠ none → log.brought uid = true → Knows known uid

namespace Tracked
variable {s : Site} {log : Log}

/-- What is known after a change, by whether the pod was there before it and is there after it. -/
theorem knows_iff (tracked : Tracked place uid known s.allocator log)
    (found : Found desired known key change next)
    (listed : Sole place uid desired) (succeeded : Bool) :
    Knows (if succeeded = true then next else known) uid ↔
      match change.had uid, change.has uid with
      | true, true => True
      | true, false => succeeded = false
      | false, true => succeeded = true
      | false, false => Knows known uid := by
  have same_iff := found.knows_iff tracked.alone
  have had (old : change.had uid = true) := found.knows_of_had old
  have brings := found.not_knows_of_brings tracked.alone listed
  cases succeeded <;> cases old : change.had uid <;> cases new : change.has uid <;>
    simp_all [Change.brings]

theorem step (tracked : Tracked place uid known s.allocator log)
    (found : Found desired known key change next)
    (listed : Sole place uid desired) (h : PodHandler) :
    let (outcome, s') := (Handler.pod h).handle s change
    Tracked place uid (if outcome.isOk = true then next else known) s'.allocator
      (log ++ [(change, outcome.isOk)]) := by
  have left (old : change.had uid = false) (new : change.has uid = false) :=
    Handler.active_of_absent h s old new
  have gone (old : change.had uid = true) (new : change.has uid = false) :=
    Handler.active_of_gone h s old new
  obtain ⟨ops, ran⟩ := Handler.handle_allocator (.pod h) s change
  generalize (Handler.pod h).handle s change = result at left gone ran ⊢
  obtain ⟨outcome, s'⟩ := result
  have knows := tracked.knows_iff found listed outcome.isOk
  have brought := Log.brought_snoc uid log change outcome.isOk
  have before (old : change.had uid = true) := found.knows_of_had old
  refine ⟨ran ▸ tracked.valid.run ops, ?_, ?_, ?_⟩
  · split
    · exact found.sole tracked.alone listed
    · exact tracked.alone
  · rw [knows, brought]
    cases old : change.had uid <;> cases new : change.has uid
    case false.false => simpa [Change.brings, old, new] using tracked.brought
    case false.true => simp [Change.brings, old, new]
    case true.false => simpa [Change.brings, old, new] using fun _ => tracked.brought (before old)
    case true.true => simpa [Change.brings, old, new] using tracked.brought (before old)
  · rw [knows, brought]
    cases old : change.had uid <;> cases new : change.has uid
    case false.false => simpa [Change.brings, old, new, left old new] using tracked.held
    case false.true => simp [Change.brings, old, new]
    case true.false =>
      intro present _
      rcases gone old new with released | ⟨failed, _⟩
      · exact absurd released present
      · cases outcome with
        | ok _ => exact absurd rfl failed
        | error fault => rfl
    case true.true => simp

end Tracked

def Agent.handlerOf (settings : Settings) (h : PodHandler) : Kind → Handler
  | .pod => .pod h
  | .statefulSet => .statefulSet (notice settings)
  | .remotePeer => .remotePeer
  | .remoteSubnet => .remoteSubnet

theorem Agent.dispatch_eq (settings : Settings) (h : PodHandler) (kind : Kind) (change : Change Snapshot)
    (s : Site) : dispatch (handlersWith settings h) kind change s =
      (((handlerOf settings h kind).handle s change).1.isOk, ((handlerOf settings h kind).handle s change).2) := by
  have routed : Registry.route (handlersWith settings h) ⟨kind.name, some change⟩ =
      .ok (some (handlerOf settings h kind, change)) := by
    cases kind <;> rfl
  unfold dispatch
  rw [routed]
  dsimp only
  rcases (handlerOf settings h kind).handle s change with ⟨_ | _, _⟩ <;> rfl

theorem Agent.dispatch_pods (settings : Settings) (h : PodHandler) (change : Change Snapshot) (s : Site) :
    dispatch (handlersWith settings h) .pod change s =
      (((Handler.pod h).handle s change).1.isOk, ((Handler.pod h).handle s change).2) :=
  dispatch_eq settings h .pod change s

theorem Tracked.compare (settings : Settings) (h : PodHandler) {s : Site} {log : Log}
    (tracked : Tracked place uid known s.allocator log) (unique : known.Unique)
    (listed : Sole place uid desired) :
    let r := Watcher.compare (recorded (Agent.dispatch (Agent.handlersWith settings h) .pod)) desired
      known (s, log)
    r.1.Unique ∧ Tracked place uid r.1 r.2.1.allocator r.2.2 := by
  have keeps : Keeps (recorded (Agent.dispatch (Agent.handlersWith settings h) .pod)) desired
      fun known state => Tracked place uid known state.1.allocator state.2 := by
    intro known next key change state _ found tracked
    have after := tracked.step found listed h
    unfold handled recorded
    rw [Agent.dispatch_pods]
    exact after
  exact compare_keeps keeps unique tracked

section Unlisted

theorem Watcher.Found.absent (found : Found desired known key change next)
    (unlisted : Absent uid desired) : change.has uid = false := by
  by_contra has
  obtain ⟨obj, after, own⟩ := Change.has_iff.mp (by simpa using has)
  have absent := unlisted _ (found.listed after)
  rw [own] at absent
  cases absent

theorem active_of_unlisted (settings : Settings) (h : PodHandler) (unique : known.Unique)
    (unlisted : Absent uid desired) (s : Site)
    (present : (compare (Agent.dispatch (Agent.handlersWith settings h) .pod) desired known
      s).2.allocator.active.get? uid ≠ none) : s.allocator.active.get? uid ≠ none := by
  have keeps : Keeps (Agent.dispatch (Agent.handlersWith settings h) .pod) desired fun _ s' =>
      s'.allocator.active.get? uid ≠ none → s.allocator.active.get? uid ≠ none := by
    intro known next key change s' _ found before
    unfold handled
    rw [Agent.dispatch_pods]
    intro now
    apply before
    cases old : change.had uid with
    | false => rwa [Handler.active_of_absent h s' old (found.absent unlisted)] at now
    | true =>
        rcases Handler.active_of_gone h s' old (found.absent unlisted) with released | ⟨_, same⟩
        · exact absurd released now
        · rwa [same] at now
  exact (compare_keeps keeps unique id).2 present

theorem active_of_unknown (settings : Settings) (h : PodHandler) (unique : known.Unique)
    (unlisted : Absent uid desired) (unknown : ¬ Knows known uid) (s : Site) :
    (compare (Agent.dispatch (Agent.handlersWith settings h) .pod) desired known
      s).2.allocator.active.get? uid = s.allocator.active.get? uid := by
  have keeps : Keeps (Agent.dispatch (Agent.handlersWith settings h) .pod) desired fun known s' =>
      ¬ Knows known uid ∧ s'.allocator.active.get? uid = s.allocator.active.get? uid := by
    intro known next key change s' unique found before
    have new := found.absent unlisted
    have old : change.had uid = false := by
      by_contra had
      exact before.1 (found.knows_of_had (by simpa using had))
    have alone : Sole key uid known := fun entry member own =>
      absurd ⟨entry.1, entry.2, Table.get?_of_mem unique member, own⟩ before.1
    have still : ¬ Knows next uid := by
      rw [found.knows_iff alone, new]
      simpa using fun _ => before.1
    unfold handled
    rw [Agent.dispatch_pods]
    refine ⟨?_, (Handler.active_of_absent h s' old new).trans before.2⟩
    split
    · exact still
    · exact before.1
  exact (compare_keeps keeps unique ⟨unknown, rfl⟩).2.2

theorem brought_of_unlisted (dispatch : Dispatch Site) (unique : known.Unique)
    (unlisted : Absent uid desired) (s : Site) (log : Log) :
    (compare (recorded dispatch) desired known (s, log)).2.2.brought uid = log.brought uid := by
  have keeps : Keeps (recorded dispatch) desired fun _ state =>
      state.2.brought uid = log.brought uid := by
    intro known next key change state _ found before
    have kept : change.brings uid = false := by simp [Change.brings, found.absent unlisted]
    refine (Log.brought_snoc uid state.2 change _).trans ?_
    rw [kept]
    exact before
  exact (compare_keeps keeps unique rfl).2

end Unlisted

end Tracking

end PodAddressing
