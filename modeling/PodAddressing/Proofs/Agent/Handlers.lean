import PodAddressing.Agent.Handler
import PodAddressing.Proofs.Allocator.Churn
/-!
What handlers do to the allocator. Whatever notice they give, and whatever they send to check addresses, is none
of its business: stateful sets purge, and pods allocate and release.
-/

namespace PodAddressing
variable {s : Site}

section Notices

theorem Notice.give_allocator (n : Notice) (s : Site) : (n.give s).2.allocator = s.allocator := by
  cases n <;> rfl

theorem Notice.giveOf_allocator (n : Notice) (s : Site) (records : List Record) :
    (n.giveOf s records).2.allocator = s.allocator := by
  unfold giveOf
  split
  · rfl
  · exact n.give_allocator s

theorem Notice.answered_allocator (n : Notice) (s : Site)
    (op : Allocator → Allocator.Outcome (List Record)) :
    (match s.withAllocator op with
      | (.error fault, s) => ((.error fault, s) : Site.Outcome Unit)
      | (.ok records, s) => n.giveOf s records).2.allocator = (op s.allocator).2 := by
  have after : (s.withAllocator op).2.allocator = (op s.allocator).2 := rfl
  split
  case h_1 answered =>
    rw [answered] at after
    exact after
  case h_2 answered =>
    rw [answered] at after
    rw [Notice.giveOf_allocator]
    exact after

end Notices

namespace StatefulSet

theorem purged_allocator (notice : Notice) (s : Site) (set : StatefulSet) (keep : Option Int) :
    (set.purged notice s keep).2.allocator =
      (s.allocator.purgeOwner set.ns set.reference keep).2 :=
  notice.answered_allocator s (·.purgeOwner set.ns set.reference keep)

end StatefulSet

section Checking

theorem Checks.activate_frame (c : Checks) (s : Site) (records : List Record) :
    ∃ sent, (c.activate s records).2 = { s with sent := sent } := by
  induction records generalizing s with
  | nil => exact ⟨s.sent, rfl⟩
  | cons r rest ih =>
      unfold activate
      split
      · exact ih s
      · dsimp only
        split
        · exact ih _
        · exact ⟨_, rfl⟩

theorem PodHandler.activate_frame (h : PodHandler) (s : Site) (p : Pod) (records : List Record) :
    ∃ sent, (h.activate s p records).2 = { s with sent := sent } := by
  unfold activate
  split
  · exact ⟨s.sent, rfl⟩
  · exact Checks.activate_frame _ s records

theorem PodHandler.activate_allocator (h : PodHandler) (s : Site) (p : Pod) (records : List Record) :
    (h.activate s p records).2.allocator = s.allocator := by
  obtain ⟨sent, same⟩ := h.activate_frame s p records
  rw [same]

end Checking

namespace PodHandler
variable (h : PodHandler) (s : Site) (p : Pod)

/-- Addresses are allocated for a pod with a node, and stay so whatever fails after that. -/
theorem ensured_allocator :
    (h.ensured s p).2.allocator =
      if p.isScheduled then (s.allocator.allocate p.identity p.criteria p.subnets).2
      else s.allocator := by
  change (h.ensure s p).2.allocator = _
  unfold ensure
  cases scheduled : p.isScheduled with
  | false => rfl
  | true =>
      have after : (s.withAllocator (·.allocate p.identity p.criteria p.subnets)).2.allocator =
          (s.allocator.allocate p.identity p.criteria p.subnets).2 := rfl
      rw [if_neg (by simp), if_pos rfl, ← after]
      split
      case h_1 answered => rw [answered]
      case h_2 records s' answered =>
        rw [answered]
        have noticed := h.notice.give_allocator s'
        split
        case h_1 failed =>
          rw [failed] at noticed
          exact noticed
        case h_2 given =>
          rw [given] at noticed
          exact (h.activate_allocator _ p records).trans noticed

theorem deleted_allocator :
    (h.deleted s p).2.allocator = (s.allocator.release p.identity).2 :=
  h.notice.answered_allocator s (·.release p.identity)

theorem released_of_deleted (done : (h.deleted s p).1 = .ok ()) :
    ∃ records, (s.allocator.release p.identity).1 = .ok records := by
  unfold deleted at done
  split at done
  case h_1 => cases done
  case h_2 records s' answered => exact ⟨records, congrArg Prod.fst answered⟩

theorem given_of_ensured (scheduled : p.isScheduled = true) (done : (h.ensured s p).1 = .ok ()) :
    ∃ records, (s.allocator.allocate p.identity p.criteria p.subnets).1 = .ok records := by
  have mapped : (h.ensure s p).1.map (fun _ => ()) = .ok () := done
  obtain ⟨records, ensured, _⟩ := ok_of_map mapped
  rw [ensure, scheduled, if_neg (by simp)] at ensured
  split at ensured
  case h_1 => cases ensured
  case h_2 records' s' answered => exact ⟨records', congrArg Prod.fst answered⟩

theorem active_ensured (valid : s.allocator.Consistent) (scheduled : p.isScheduled = true)
    (done : (h.ensured s p).1 = .ok ()) : (h.ensured s p).2.allocator.active.get? p.uid ≠ none := by
  obtain ⟨records, given⟩ := h.given_of_ensured s p scheduled done
  have bound := Allocator.active_allocate valid given
  rw [h.ensured_allocator, if_pos scheduled]
  exact bound ▸ Option.some_ne_none records

/-- How an update of a pod can end. -/
inductive Updated (h : PodHandler) (s : Site) (old new : Pod) : Site.Outcome Unit → Prop
  | kept (same : old.uid = new.uid) : Updated h s old new (.ok (), s)
  | scheduled (same : old.uid = new.uid) : Updated h s old new (h.ensured s new)
  | left (other : old.uid ≠ new.uid) : Updated h s old new (h.deleted s old)
  | renewed (other : old.uid ≠ new.uid) (done : (h.deleted s old).1 = .ok ()) :
      Updated h s old new (h.ensured (h.deleted s old).2 new)

theorem updated_cases (old new : Pod) : Updated h s old new (h.updated s old new) := by
  unfold updated
  by_cases same : old.uid = new.uid
  · simp only [same, ne_eq, not_true_eq_false, decide_false, ↓reduceIte]
    split
    · exact .scheduled same
    · exact .kept same
  · simp only [same, ne_eq, not_false_eq_true, decide_true, ↓reduceIte]
    have left := Updated.left (h := h) (s := s) same
    have renewed := Updated.renewed (h := h) (s := s) same
    rcases answered : h.deleted s old with ⟨outcome, s'⟩
    rw [answered] at left renewed
    cases outcome with
    | error fault => exact left
    | ok done =>
        dsimp only
        split
        · exact renewed rfl
        · exact left

end PodHandler

namespace Handler

/-- What the handler of pods does about a change. -/
inductive Handled (h : PodHandler) (s : Site) : Change Snapshot → Site.Outcome Unit → Prop
  | created (p : Pod) : Handled h s (.created (.pod p)) (h.ensured s p)
  | updated (old new : Pod) : Handled h s (.updated (.pod old) (.pod new)) (h.updated s old new)
  | deleted (p : Pod) : Handled h s (.deleted (.pod p)) (h.deleted s p)
  | refused (change : Change Snapshot) : Handled h s change (.error .noFields, s)

theorem handle_pod_cases (h : PodHandler) (s : Site) (change : Change Snapshot) :
    Handled h s change ((pod h).handle s change) := by
  cases change with
  | created obj =>
      cases obj with
      | pod p => exact .created p
      | _ => exact .refused _
  | updated old new =>
      cases old with
      | pod old =>
          cases new with
          | pod new => exact .updated old new
          | _ => exact .refused _
      | _ => cases new <;> exact .refused _
  | deleted obj =>
      cases obj with
      | pod p => exact .deleted p
      | _ => exact .refused _

end Handler

theorem Site.request_allocator (s : Site) (key : String) (needed : Bool) :
    (s.request key needed).2.allocator = s.allocator := by
  cases needed <;> rfl

/-- Whatever a handler does to the allocator is a run of its operations, none of which brings in foreign records. -/
theorem Handler.handle_own (handler : Handler) (s : Site) (change : Change Snapshot) :
    ∃ ops, (∀ op ∈ ops, ∀ b, Allocator.FromOwn b op) ∧
      (handler.handle s change).2.allocator = s.allocator.run ops := by
  have nothing : ∀ op ∈ ([] : List Allocator.Op), ∀ b, Allocator.FromOwn b op := List.forall_mem_nil _
  have purged (notice : Notice) (set : StatefulSet) (keep : Option Int) :
      ∃ ops, (∀ op ∈ ops, ∀ b, Allocator.FromOwn b op) ∧
        (set.purged notice s keep).2.allocator = s.allocator.run ops :=
    ⟨[.purgeOwner set.ns set.reference keep], by simp [Allocator.FromOwn], set.purged_allocator notice s keep⟩
  have ensured (h : PodHandler) (s : Site) (p : Pod) :
      ∃ ops, (∀ op ∈ ops, ∀ b, Allocator.FromOwn b op) ∧ (h.ensured s p).2.allocator = s.allocator.run ops := by
    rw [h.ensured_allocator]
    split
    · exact ⟨[.allocate p.identity p.criteria p.subnets], by simp [Allocator.FromOwn], rfl⟩
    · exact ⟨[], nothing, rfl⟩
  have deleted (h : PodHandler) (p : Pod) :
      ∃ ops, (∀ op ∈ ops, ∀ b, Allocator.FromOwn b op) ∧ (h.deleted s p).2.allocator = s.allocator.run ops :=
    ⟨[.release p.identity], by simp [Allocator.FromOwn], h.deleted_allocator s p⟩
  unfold handle
  split
  case h_1 h p => exact ensured h s p
  case h_2 h old new =>
      have outcome := h.updated_cases s old new
      generalize h.updated s old new = result at outcome
      cases outcome with
      | kept same => exact ⟨[], nothing, rfl⟩
      | scheduled same => exact ensured h s new
      | left other => exact deleted h old
      | renewed other done =>
          obtain ⟨first, own, released⟩ := deleted h old
          obtain ⟨second, own', given⟩ := ensured h (h.deleted s old).2 new
          refine ⟨first ++ second, List.forall_mem_append.mpr ⟨own, own'⟩, ?_⟩
          rw [given, released, Allocator.run_append]
  case h_3 h p => exact deleted h p
  case h_4 notice set => exact purged notice set _
  case h_5 notice old new =>
      unfold StatefulSet.updated
      split
      · exact ⟨[], nothing, rfl⟩
      · exact purged notice new _
  case h_6 notice set => exact purged notice set _
  case h_13 => exact ⟨[], nothing, rfl⟩
  all_goals exact ⟨[], nothing, s.request_allocator _ _⟩

theorem Handler.handle_allocator (handler : Handler) (s : Site) (change : Change Snapshot) :
    ∃ ops, (handler.handle s change).2.allocator = s.allocator.run ops := by
  obtain ⟨ops, _, ran⟩ := handler.handle_own s change
  exact ⟨ops, ran⟩

end PodAddressing
