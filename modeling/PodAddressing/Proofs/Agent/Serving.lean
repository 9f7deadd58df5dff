import PodAddressing.Proofs.Agent.Lifetime
import PodAddressing.Proofs.Allocator.Ownership
import PodAddressing.Proofs.Watch.Deliveries
/-!
Whether all pods are served. Pods and stateful sets are polled in any order. As long as no handler fails, the pods
that are known and have a node are those that have records: each change of a pod does to its records what it does to
what is known of it, and stateful sets never touch the records of a pod.
-/

namespace PodAddressing
open Watcher

/-- A poll of one of the watched files, in some scene. -/
structure Turn where
  index : Nat
  scene : Scene

namespace Agent
variable {a : Agent} {index : Nat} {settings : Settings} {h : PodHandler}

def take (a : Agent) (turn : Turn) : Agent := ((a.facing turn.scene).poll turn.index).2

def takeAll (a : Agent) (turns : List Turn) : Agent := turns.foldl take a

def noted (a : Agent) : List Turn → Log
  | [] => []
  | turn :: rest => (a.facing turn.scene).dispatched turn.index ++ (a.take turn).noted rest

theorem takeAll_append (a : Agent) (before after : List Turn) :
    a.takeAll (before ++ after) = (a.takeAll before).takeAll after :=
  List.foldl_append

theorem noted_append (a : Agent) (before after : List Turn) :
    a.noted (before ++ after) = a.noted before ++ (a.takeAll before).noted after := by
  induction before generalizing a with
  | nil => rfl
  | cons turn rest ih =>
      rw [List.cons_append, noted, noted, ih, List.append_assoc]
      rfl

theorem poll_cases (a : Agent) (index : Nat) :
    (a.poll index).2 = a ∨ ∃ w desired, a.watched[index]? = some w ∧
      w.listing a.site.files = .ok (some desired) ∧
      (a.poll index).2 = { a with
        watched := a.watched.set index { w with
          known := (compare (dispatch a.handlers w.kind) desired w.known a.site).1 }
        site := (compare (dispatch a.handlers w.kind) desired w.known a.site).2 } := by
  cases watches : a.watched[index]? with
  | none =>
      left
      simp only [poll, watches]
  | some w =>
      by_cases lists : ∃ desired, w.listing a.site.files = .ok (some desired)
      · obtain ⟨desired, listed⟩ := lists
        exact .inr ⟨w, desired, rfl, listed, poll_of_listed watches listed⟩
      · rw [not_exists] at lists
        exact .inl (poll_of_unlisted watches lists)

theorem poll_handlers (a : Agent) (index : Nat) : (a.poll index).2.handlers = a.handlers := by
  rcases poll_cases a index with same | ⟨_, _, _, _, polled⟩
  · rw [same]
  · rw [polled]

theorem kind_poll {index' : Nat} {v : WatchedFile} (watches : (a.poll index).2.watched[index']? = some v) :
    ∃ w, a.watched[index']? = some w ∧ w.kind = v.kind := by
  rcases poll_cases a index with same | ⟨w, _, watched, _, polled⟩
  · rw [same] at watches
    exact ⟨v, watches, rfl⟩
  · rw [polled] at watches
    by_cases here : index = index'
    · subst here
      rw [List.getElem?_set_self (List.getElem?_eq_some_iff.mp watched).1] at watches
      cases watches
      exact ⟨w, watched, rfl⟩
    · rw [List.getElem?_set_ne here] at watches
      exact ⟨v, watches, rfl⟩

theorem watched_poll_ne {index' : Nat} (other : index ≠ index') :
    (a.poll index).2.watched[index']? = a.watched[index']? := by
  rcases poll_cases a index with same | ⟨_, _, _, _, polled⟩
  · rw [same]
  · rw [polled]
    exact List.getElem?_set_ne other

theorem poll_keeps (Inv : Site → Prop)
    (keeps : ∀ w, a.watched[index]? = some w → ∀ change s, Inv s → Inv (dispatch a.handlers w.kind change s).2)
    (start : Inv a.site) : Inv (a.poll index).2.site := by
  rcases poll_cases a index with same | ⟨w, desired, watches, listed, polled⟩
  · rwa [same]
  · rw [polled, compare_eq (WatchedFile.unique_listing listed)]
    exact deliveries_keep (keeps w watches) _ start

theorem own_of_dispatch (handlers : Registry Handler) (kind : Kind) (change : Change Snapshot) (s : Site) :
    ∃ ops, (∀ op ∈ ops, ∀ b, Allocator.FromOwn b op) ∧
      (dispatch handlers kind change s).2.allocator = s.allocator.run ops := by
  unfold dispatch
  split
  case h_1 handler change' _ =>
    obtain ⟨ops, own, ran⟩ := handler.handle_own s change'
    refine ⟨ops, own, ?_⟩
    rw [← ran]
    split
    case h_1 answered => rw [answered]
    case h_2 answered => rw [answered]
  case h_2 => exact ⟨[], List.forall_mem_nil _, rfl⟩
  case h_3 => exact ⟨[], List.forall_mem_nil _, rfl⟩

theorem run_of_dispatch (handlers : Registry Handler) (kind : Kind) (change : Change Snapshot) (s : Site) :
    ∃ ops, (dispatch handlers kind change s).2.allocator = s.allocator.run ops := by
  obtain ⟨ops, _, ran⟩ := own_of_dispatch handlers kind change s
  exact ⟨ops, ran⟩

theorem run_of_take (a : Agent) (turn : Turn) :
    ∃ ops, (a.take turn).site.allocator = a.site.allocator.run ops := by
  refine poll_keeps (fun s => ∃ ops, s.allocator = a.site.allocator.run ops) ?_ ⟨[], rfl⟩
  rintro w _ change s ⟨before, reached⟩
  obtain ⟨ops, ran⟩ := run_of_dispatch a.handlers w.kind change s
  exact ⟨before ++ ops, by rw [Allocator.run_append, ← reached]; exact ran⟩

theorem run_of_takeAll (a : Agent) (turns : List Turn) :
    ∃ ops, (a.takeAll turns).site.allocator = a.site.allocator.run ops := by
  induction turns generalizing a with
  | nil => exact ⟨[], rfl⟩
  | cons turn rest ih =>
      obtain ⟨first, taken⟩ := a.run_of_take turn
      obtain ⟨others, ran⟩ := ih (a.take turn)
      exact ⟨first ++ others, by rw [Allocator.run_append, ← taken]; exact ran⟩

end Agent

section Handling
variable {s : Site} {change : Change Snapshot}

theorem Handler.active_of_other {handler : Handler} (other : ∀ h, handler ≠ .pod h) (s : Site)
    (change : Change Snapshot) :
    (handler.handle s change).2.allocator.active = s.allocator.active := by
  have purged (notice : Notice) (set : StatefulSet) (keep : Option Int) :
      (set.purged notice s keep).2.allocator.active = s.allocator.active := by
    rw [set.purged_allocator]
    exact Allocator.active_purgeOwner _ _ _ _
  unfold handle
  split
  case h_1 h p => exact absurd rfl (other h)
  case h_2 h old new => exact absurd rfl (other h)
  case h_3 h p => exact absurd rfl (other h)
  case h_4 notice set => exact purged notice set _
  case h_5 notice old new =>
      unfold StatefulSet.updated
      split
      · rfl
      · exact purged notice new _
  case h_6 notice set => exact purged notice set _
  case h_13 => rfl
  all_goals exact congrArg Allocator.active (s.request_allocator _ _)

theorem Agent.handlerOf_other {kind : Kind} (other : kind ≠ .pod) (settings : Settings) (h h' : PodHandler) :
    handlerOf settings h kind ≠ .pod h' := by
  cases kind with
  | pod => exact absurd rfl other
  | _ => exact Handler.noConfusion

/-- A pod that is there with a node after a change has records, if it had some whenever it was there with a node
before. -/
theorem Handler.active_of_scheduled (h : PodHandler) {p : Pod} (valid : s.allocator.Consistent)
    (done : ((Handler.pod h).handle s change).1 = .ok ()) (now : change.after? = some (.pod p))
    (scheduled : p.isScheduled = true)
    (served : ∀ q, change.before? = some (.pod q) → q.uid = p.uid → q.isScheduled = true →
      s.allocator.active.get? p.uid ≠ none) :
    ((Handler.pod h).handle s change).2.allocator.active.get? p.uid ≠ none := by
  cases change with
  | created obj =>
      cases now
      exact h.active_ensured s p valid scheduled done
  | deleted obj => cases now
  | updated old new =>
      cases now
      cases old with
      | pod q =>
          change (h.updated s q p).1 = .ok () at done
          change (h.updated s q p).2.allocator.active.get? p.uid ≠ none
          unfold PodHandler.updated at done ⊢
          by_cases same : q.uid = p.uid
          · simp only [same, ne_eq, not_true_eq_false, decide_false, ↓reduceIte, scheduled, Bool.true_and,
              Bool.or_false, Bool.not_eq_true'] at done ⊢
            split at done
            case isTrue unscheduled =>
              rw [if_pos unscheduled]
              exact h.active_ensured s p valid scheduled done
            case isFalse had =>
              rw [if_neg had]
              exact served q rfl same (by simpa using had)
          · simp only [same, ne_eq, not_false_eq_true, decide_true, ↓reduceIte, scheduled, Bool.true_and,
              Bool.or_true] at done ⊢
            have left : (h.deleted s q).2.allocator.Consistent := by
              rw [h.deleted_allocator]
              exact Allocator.consistent_release valid q.identity
            generalize h.deleted s q = result at left done ⊢
            obtain ⟨outcome, s'⟩ := result
            cases outcome with
            | error fault => cases done
            | ok _ => exact h.active_ensured s' p left scheduled done
      | _ => cases done

end Handling

theorem Allocator.active_of_started {a : Allocator} (start : Started a) : a.active = [] := by
  obtain ⟨_, _, _, made⟩ := start
  obtain ⟨_, _, rfl, _, frame⟩ := create_eq_ok made
  exact frame.active

/-- The pods that are known and have a node have records, and only pods that are known do. -/
structure InStep (place : String → String) (known : Known) (a : Allocator) : Prop where
  valid : a.Consistent
  alone : ∀ uid, Sole (place uid) uid known
  served : ∀ key p, known.get? key = some (.pod p) → p.isScheduled = true → a.active.get? p.uid ≠ none
  held : ∀ uid, a.active.get? uid ≠ none → Knows known uid

namespace InStep
variable {s : Site} {desired known next : Known} {key : String} {change : Change Snapshot}
variable {place : String → String}

theorem apart_from (inStep : InStep place known s.allocator) (found : Found desired known key change next)
    (listed : ∀ uid, Sole (place uid) uid desired) {key' : String} {p : Pod} (other : key ≠ key')
    (had : known.get? key' = some (.pod p)) : change.had p.uid = false ∧ change.has p.uid = false := by
  have there : key' = place p.uid := inStep.alone p.uid _ (Table.mem_of_get? had) (by simp)
  constructor
  · by_contra had_there
    obtain ⟨obj, before, own⟩ := Change.had_iff.mp (by simpa using had_there)
    exact other ((inStep.alone p.uid _ (Table.mem_of_get? (found.before.trans before)) own).trans there.symm)
  · by_contra has_there
    obtain ⟨obj, after, own⟩ := Change.has_iff.mp (by simpa using has_there)
    exact other ((listed p.uid _ (found.listed after) own).trans there.symm)

theorem step (inStep : InStep place known s.allocator) (found : Found desired known key change next)
    (listed : ∀ uid, Sole (place uid) uid desired) (h : PodHandler)
    (done : ((Handler.pod h).handle s change).1 = .ok ()) :
    InStep place next ((Handler.pod h).handle s change).2.allocator where
  valid := by
    obtain ⟨ops, ran⟩ := Handler.handle_allocator (.pod h) s change
    exact ran ▸ inStep.valid.run ops
  alone uid := found.sole (inStep.alone uid) (listed uid)
  served := by
    intro key' p now scheduled
    rw [found.after] at now
    by_cases here : key = key'
    · rw [if_pos here] at now
      refine Handler.active_of_scheduled h inStep.valid done now scheduled ?_
      intro q before same had
      exact same ▸ inStep.served key q (found.before.trans before) had
    · rw [if_neg here] at now
      obtain ⟨old, new⟩ := inStep.apart_from found listed here now
      rw [Handler.active_of_absent h s old new]
      exact inStep.served key' p now scheduled
  held := by
    intro uid present
    rw [found.knows_iff (inStep.alone uid)]
    cases new : change.has uid with
    | true => exact .inl rfl
    | false =>
        cases old : change.had uid with
        | true =>
            rcases Handler.active_of_gone h s old new with released | ⟨failed, _⟩
            · exact absurd released present
            · exact absurd done failed
        | false =>
            rw [Handler.active_of_absent h s old new] at present
            exact .inr ⟨rfl, inStep.held uid present⟩

theorem compare (settings : Settings) (h : PodHandler) (inStep : InStep place known s.allocator)
    (unique : known.Unique) (listed : ∀ uid, Sole (place uid) uid desired)
    (faultless : Log.Faultless
      (Watcher.compare (recorded (Agent.dispatch (Agent.handlersWith settings h) .pod)) desired known
        (s, [])).2.2) :
    let r := Watcher.compare (Agent.dispatch (Agent.handlersWith settings h) .pod) desired known s
    r.1.Unique ∧ InStep place r.1 r.2.allocator := by
  have keeps : Keeps (recorded (Agent.dispatch (Agent.handlersWith settings h) .pod)) desired
      fun known state => state.2.Faultless → InStep place known state.1.allocator := by
    intro known next key change state _ found before faultless
    obtain ⟨earlier, now⟩ := handled_faultless faultless
    rw [now]
    have succeeded : (Agent.dispatch (Agent.handlersWith settings h) .pod change state.1).1 = true :=
      faultless _ (List.mem_append_right _ (List.mem_singleton_self _))
    unfold handled recorded
    rw [Agent.dispatch_pods] at succeeded ⊢
    exact (before earlier).step found listed h (eq_ok_of_isOk succeeded ())
  have start : Log.Faultless (s, ([] : Log)).2 → InStep place known (s, ([] : Log)).1.allocator := fun _ => inStep
  obtain ⟨unique', after⟩ := compare_keeps keeps unique start
  have inStep' := after faultless
  rw [compare_recorded_eq] at unique' inStep'
  exact ⟨unique', inStep'⟩

end InStep

namespace Agent
variable {settings : Settings} {h : PodHandler} {a : Agent} {index : Nat} {w : WatchedFile} {known : Known}
variable {place : String → String}

/-- What holds of an agent whose only file of pods is in step with what the pods have. -/
structure Attends (settings : Settings) (h : PodHandler) (index : Nat) (w : WatchedFile)
    (place : String → String) (a : Agent) (known : Known) : Prop where
  wired : a.handlers = handlersWith settings h
  watches : a.watched[index]? = some { w with known }
  lone : ∀ index' v, a.watched[index']? = some v → v.kind = .pod → index' = index
  unique : known.Unique
  inStep : InStep place known a.site.allocator

namespace Attends

theorem lone_poll (attends : Attends settings h index w place a known) (index' i : Nat) (v : WatchedFile)
    (watches : (a.poll index').2.watched[i]? = some v) (kind : v.kind = .pod) : i = index := by
  obtain ⟨v', before, same⟩ := kind_poll watches
  exact attends.lone i v' before (same.trans kind)

theorem poll_other (attends : Attends settings h index w place a known) {index' : Nat}
    (other : index' ≠ index) : Attends settings h index w place (a.poll index').2 known where
  wired := (poll_handlers a index').trans attends.wired
  watches := (watched_poll_ne other).trans attends.watches
  lone := attends.lone_poll index'
  unique := attends.unique
  inStep := by
    have keeps : ∀ v, a.watched[index']? = some v → ∀ change s, InStep place known s.allocator →
        InStep place known (dispatch a.handlers v.kind change s).2.allocator := by
      intro v watches change s inStep
      have kind : v.kind ≠ .pod := fun kind => other (attends.lone index' v watches kind)
      rw [attends.wired, dispatch_eq]
      have active := Handler.active_of_other (handlerOf_other kind settings h) s change
      obtain ⟨ops, ran⟩ := Handler.handle_allocator (handlerOf settings h v.kind) s change
      exact {
        valid := ran ▸ inStep.valid.run ops
        alone := inStep.alone
        served := by rw [active]; exact inStep.served
        held := by rw [active]; exact inStep.held }
    exact poll_keeps (fun s => InStep place known s.allocator) keeps attends.inStep

theorem poll_pods_of_listed (attends : Attends settings h index w place a known) (kind : w.kind = .pod)
    {desired : Known} (listed : w.listing a.site.files = .ok (some desired))
    (one_key : ∀ uid, ListsAt (place uid) uid w a.site.files) (faultless : (a.dispatched index).Faultless) :
    ∃ known', Attends settings h index w place (a.poll index).2 known' ∧
      ∀ key, known'.get? key = desired.get? key := by
  have pods : dispatch a.handlers w.kind = dispatch (handlersWith settings h) .pod := by
    rw [attends.wired, kind]
  have polled := Agent.poll_of_listed attends.watches listed
  rw [dispatched_of_listed attends.watches listed] at faultless
  dsimp only at polled faultless
  rw [pods] at polled faultless
  obtain ⟨unique, inStep⟩ := attends.inStep.compare settings h attends.unique
    (fun uid => one_key uid desired listed) faultless
  refine ⟨_, ?_, known_of_faultless attends.unique (WatchedFile.unique_listing listed) faultless⟩
  constructor
  case wired => exact (poll_handlers a index).trans attends.wired
  case watches =>
    rw [polled]
    exact List.getElem?_set_self (List.getElem?_eq_some_iff.mp attends.watches).1
  case lone => exact attends.lone_poll index
  case unique => exact unique
  case inStep =>
    rw [polled]
    exact inStep

theorem poll_pods (attends : Attends settings h index w place a known) (kind : w.kind = .pod)
    (one_key : ∀ uid, ListsAt (place uid) uid w a.site.files) (faultless : (a.dispatched index).Faultless) :
    ∃ known', Attends settings h index w place (a.poll index).2 known' := by
  by_cases lists : ∃ desired, w.listing a.site.files = .ok (some desired)
  · obtain ⟨desired, listed⟩ := lists
    obtain ⟨known', polled, _⟩ := attends.poll_pods_of_listed kind listed one_key faultless
    exact ⟨known', polled⟩
  · rw [not_exists] at lists
    rw [poll_of_unlisted attends.watches lists]
    exact ⟨known, attends⟩

theorem facing (attends : Attends settings h index w place a known) (scene : Scene) :
    Attends settings h index w place (a.facing scene) known :=
  ⟨attends.wired, attends.watches, attends.lone, attends.unique, attends.inStep⟩

theorem takeAll (attends : Attends settings h index w place a known) (kind : w.kind = .pod)
    {turns : List Turn}
    (one_key : ∀ turn ∈ turns, turn.index = index → ∀ uid, ListsAt (place uid) uid w turn.scene.files)
    (faultless : (a.noted turns).Faultless) :
    ∃ known', Attends settings h index w place (a.takeAll turns) known' := by
  induction turns generalizing a known with
  | nil => exact ⟨known, attends⟩
  | cons turn rest ih =>
      obtain ⟨first, others⟩ := List.forall_mem_cons.mp one_key
      obtain ⟨now, later⟩ := List.forall_mem_append.mp faultless
      have taken : ∃ known', Attends settings h index w place (a.take turn) known' := by
        by_cases own : turn.index = index
        · subst own
          exact (attends.facing turn.scene).poll_pods kind (first rfl) now
        · exact ⟨known, (attends.facing turn.scene).poll_other own⟩
      obtain ⟨known', attends'⟩ := taken
      exact ih attends' others later

theorem begin (start : Allocator.Started a.site.allocator) (place : String → String)
    (wired : a.handlers = handlersWith settings h) (watches : a.watched[index]? = some w) (unseen : w.known = [])
    (lone : ∀ index' v, a.watched[index']? = some v → v.kind = .pod → index' = index) :
    Attends settings h index w place a [] where
  wired := wired
  watches := by rw [watches, ← unseen]
  lone := lone
  unique := List.nodup_nil
  inStep := {
    valid := Allocator.consistent_of_run start []
    alone := by simp [Sole]
    served := by
      intro key p had
      cases had
    held := by
      intro uid present
      rw [Allocator.active_of_started start] at present
      exact absurd rfl present }

end Attends

/-- Every pod of a list that has a node is served, and nothing is held for others. -/
structure Serves (desired : Known) (a : Allocator) : Prop where
  served : ∀ key p, (key, .pod p) ∈ desired → p.isScheduled = true → a.Binds p.uid
  held : ∀ uid, a.Binds uid → ∃ key p, (key, .pod p) ∈ desired ∧ p.uid = uid

/-- No two pods have a record for one address of a subnet. -/
def Apart (a : Allocator) : Prop :=
  ∀ r ∈ a.active.values.flatten, ∀ s ∈ a.active.values.flatten, r.binding.podUID ≠ s.binding.podUID →
    ¬(r.subnet = s.subnet ∧ r.address = s.address)

theorem apart_of_accounts {b : Allocator} {stray : List Spot} (accounts : b.Accounts stray) : Apart b := by
  rintro r left s right other ⟨subnet, address⟩
  have different : r ≠ s := fun same => other (congrArg (·.binding.podUID) same)
  refine accounts.apart (List.mem_append_left _ left) (List.mem_append_left _ right) different ⟨subnet, ?_⟩
  rw [Record.value?, address, Record.value?]

theorem Attends.serves {desired : Known} (attends : Attends settings h index w place a known)
    (once : desired.Unique) (same : ∀ key, known.get? key = desired.get? key) :
    Serves desired a.site.allocator := by
  have valid := attends.inStep.valid
  constructor
  case served =>
    intro key p listed scheduled
    have had : known.get? key = some (.pod p) := (same key).trans (Table.get?_of_mem once listed)
    exact (Allocator.binds_iff valid).mpr (attends.inStep.served key p had scheduled)
  case held =>
    intro uid binds
    obtain ⟨key, obj, had, own⟩ := attends.inStep.held uid ((Allocator.binds_iff valid).mp binds)
    have listed := Table.mem_of_get? ((same key).symm.trans had)
    cases obj with
    | pod p => exact ⟨key, p, listed, by simpa using own⟩
    | _ => cases own

/-- After every poll of a file of pods its pods are served, whatever else was polled in between, if no dispatch has
failed. No two pods share an address at any time. -/
theorem scheduled_pods_served (place : String → String) (start : Allocator.Started a.site.allocator)
    (wired : a.handlers = handlersWith settings h) (watches : a.watched[index]? = some w)
    (kind : w.kind = .pod) (unseen : w.known = [])
    (lone : ∀ index' v, a.watched[index']? = some v → v.kind = .pod → index' = index)
    {turns : List Turn} {last : Scene}
    (one_key : ∀ turn ∈ turns ++ [⟨index, last⟩], turn.index = index →
      ∀ uid, ListsAt (place uid) uid w turn.scene.files)
    {desired : Known} (listed : w.listing last.files = .ok (some desired))
    (faultless : (a.noted (turns ++ [⟨index, last⟩])).Faultless) :
    Serves desired (a.takeAll (turns ++ [⟨index, last⟩])).site.allocator ∧
      ∀ passed, passed <+: turns ++ [⟨index, last⟩] → Apart (a.takeAll passed).site.allocator := by
  constructor
  · rw [noted_append] at faultless
    obtain ⟨earlier, now⟩ := List.forall_mem_append.mp faultless
    have before : ∀ turn ∈ turns, turn.index = index → ∀ uid, ListsAt (place uid) uid w turn.scene.files :=
      fun turn member => one_key turn (List.mem_append_left _ member)
    have at_last := one_key ⟨index, last⟩ (List.mem_append_right _ (List.mem_singleton_self _)) rfl
    obtain ⟨known, attends⟩ := (Attends.begin start place wired watches unseen lone).takeAll kind before earlier
    have last_faultless : (((a.takeAll turns).facing last).dispatched index).Faultless := by
      rwa [noted, noted, List.append_nil] at now
    obtain ⟨known', attends', same⟩ :=
      (attends.facing last).poll_pods_of_listed kind listed at_last last_faultless
    rw [takeAll_append]
    exact attends'.serves (WatchedFile.unique_listing listed) same
  · intro passed _
    obtain ⟨ops, ran⟩ := a.run_of_takeAll passed
    obtain ⟨_, stray, accounts⟩ := Allocator.accounts_of_run start ops
    rw [ran]
    exact apart_of_accounts accounts

section Sample

def setsWatcher : WatchedFile :=
  { kind := .statefulSet, path := ⟨0, ["sets.json"]⟩, interval := .ofRatio false 1 1 }

def pairedAgent : Agent := { podsAgent with watched := [podsWatcher, setsWatcher] }

def setItem : String := "\x7b\"namespace\": \"shop\", \"name\": \"web\", \"replicas\": 1\x7d"

def setListed : Scene where
  files := { nodes := [(["sets.json"], .file ("\x7b\"items\": [" ++ setItem ++ "]\x7d").toUTF8)] }
  segment := .isolated

/-- A pod is served after a stateful set was created. -/
theorem answered_served :
    ¬ (pairedAgent.takeAll [⟨1, setListed⟩]).site.allocator.Binds "u1" ∧
      Serves [("shop/web", .pod listedPod)]
        (pairedAgent.takeAll ([⟨1, setListed⟩] ++ [⟨0, answered⟩])).site.allocator := by
  have one_key : ∀ turn ∈ [⟨1, setListed⟩] ++ [(⟨0, answered⟩ : Turn)], turn.index = 0 →
      ∀ uid, ListsAt "shop/web" uid podsWatcher turn.scene.files := by
    intro turn member own uid desired listed entry among _
    simp only [List.cons_append, List.nil_append, List.mem_cons, List.not_mem_nil, or_false] at member
    rcases member with rfl | rfl
    · cases own
    · rw [answered, webItem_listed] at listed
      cases listed
      rw [List.mem_singleton.mp among]
  have lone : ∀ index' v, pairedAgent.watched[index']? = some v → v.kind = .pod → index' = 0 := by
    intro index' v watches kind
    cases index' with
    | zero => rfl
    | succ rest =>
        cases rest with
        | zero =>
            cases watches
            cases kind
        | succ rest => cases watches
  refine ⟨by decide +kernel, ?_⟩
  exact (scheduled_pods_served (fun _ => "shop/web") gated_started rfl rfl rfl rfl lone one_key
    (webItem_listed _) (by decide +kernel)).1

end Sample

end Agent

end PodAddressing
