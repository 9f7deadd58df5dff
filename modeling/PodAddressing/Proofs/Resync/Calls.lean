import Mathlib.Data.List.Induction
import PodAddressing.Proofs.Basic
import PodAddressing.Proofs.Resync.Queue
import PodAddressing.Resync
/-!
What the calls of the resync queue tell about it. A key is worked on from the time it is handed out until it is done; it
is marked while it waits, and while it is worked on if it was added meanwhile. Keys are handed out in the order in which
they came to wait. Closing the queue loses nothing: all that was marked by then is still handed out, each key once.
-/

namespace PodAddressing.ResyncQueue
variable {q : ResyncQueue} {calls more : List Call} {call : Call} {key : String}

section Runs

@[simp] theorem run_nil (q : ResyncQueue) : q.run [] = q := rfl

@[simp] theorem run_cons (q : ResyncQueue) (call : Call) (calls : List Call) :
    q.run (call :: calls) = (q.apply call).run calls := rfl

theorem run_append (q : ResyncQueue) (before after : List Call) : q.run (before ++ after) = (q.run before).run after :=
  List.foldl_append

theorem run_concat (q : ResyncQueue) (calls : List Call) (call : Call) :
    q.run (calls ++ [call]) = (q.run calls).apply call := run_append q calls [call]

theorem run_snoc_cons (q : ResyncQueue) (before : List Call) (call : Call) (after : List Call) :
    q.run (before ++ call :: after) = (q.run (before ++ [call])).run after := by
  rw [← run_append, List.append_assoc, List.singleton_append]

def deliveries : ResyncQueue → List Call → List String
  | _, [] => []
  | q, call :: rest => (q.answer call).toList ++ deliveries (q.apply call) rest

def arrives (q : ResyncQueue) (call : Call) : List String :=
  (q.apply call).waiting.filter fun key => key ∉ q.waiting

def arrivals : ResyncQueue → List Call → List String
  | _, [] => []
  | q, call :: rest => q.arrives call ++ arrivals (q.apply call) rest

theorem deliveries_append (q : ResyncQueue) (before after : List Call) :
    q.deliveries (before ++ after) = q.deliveries before ++ (q.run before).deliveries after := by
  induction before generalizing q with
  | nil => rfl
  | cons call rest ih => simp only [List.cons_append, deliveries, run_cons, ih, List.append_assoc]

theorem arrivals_append (q : ResyncQueue) (before after : List Call) :
    q.arrivals (before ++ after) = q.arrivals before ++ (q.run before).arrivals after := by
  induction before generalizing q with
  | nil => rfl
  | cons call rest ih => simp only [List.cons_append, arrivals, run_cons, ih, List.append_assoc]

theorem deliveries_concat (q : ResyncQueue) (calls : List Call) (call : Call) :
    q.deliveries (calls ++ [call]) = q.deliveries calls ++ ((q.run calls).answer call).toList := by
  rw [deliveries_append, deliveries, deliveries, List.append_nil]

theorem arrivals_concat (q : ResyncQueue) (calls : List Call) (call : Call) :
    q.arrivals (calls ++ [call]) = q.arrivals calls ++ (q.run calls).arrives call := by
  rw [arrivals_append, arrivals, arrivals, List.append_nil]

end Runs

section Telling

/-- A key was handed out and is not done since. -/
def Held (calls : List Call) (key : String) : Prop :=
  ∃ before rest, calls = before ++ .get :: rest ∧ (run {} before).answer .get = some key ∧ .done key ∉ rest

/-- A key is held, and since it was handed out it was added to the queue before that was closed. -/
def Due (calls : List Call) (key : String) : Prop :=
  ∃ before middle rest, calls = before ++ .get :: (middle ++ .add key :: rest) ∧
    (run {} before).answer .get = some key ∧ .done key ∉ middle ++ rest ∧ .close ∉ before ++ middle

/-- Only a key that is held is done. -/
def Proper (calls : List Call) : Prop :=
  ∀ before key rest, calls = before ++ .done key :: rest → Held before key

theorem Proper.left {before after : List Call} (proper : Proper (before ++ after)) : Proper before := by
  intro first key rest same
  exact proper first key (rest ++ after) (by rw [same, List.append_assoc, List.cons_append])

theorem proper_concat : Proper (calls ++ [call]) ↔ Proper calls ∧ ∀ key, call = .done key → Held calls key := by
  refine ⟨fun proper => ⟨proper.left, ?_⟩, ?_⟩
  · rintro key rfl
    exact proper calls key [] rfl
  · rintro ⟨proper, held⟩ before key rest same
    rcases concat_divided same with ⟨_, rfl, last⟩ | ⟨middle, _, whole⟩
    · exact held key last
    · exact proper before key middle whole

theorem held_concat : Held (calls ++ [call]) key ↔
    call = .get ∧ (run {} calls).answer .get = some key ∨ Held calls key ∧ call ≠ .done key := by
  constructor
  · rintro ⟨before, rest, same, handed, undone⟩
    rcases concat_divided same with ⟨_, rfl, last⟩ | ⟨middle, rfl, whole⟩
    · exact .inl ⟨last, handed⟩
    · simp only [List.mem_append, List.mem_singleton, not_or] at undone
      exact .inr ⟨⟨before, middle, whole, handed, undone.1⟩, Ne.symm undone.2⟩
  · rintro (⟨rfl, handed⟩ | ⟨⟨before, rest, rfl, handed, undone⟩, other⟩)
    · exact ⟨calls, [], rfl, handed, List.not_mem_nil⟩
    · refine ⟨before, rest ++ [call], by simp, handed, ?_⟩
      simp [undone, Ne.symm other]

theorem due_concat : Due (calls ++ [call]) key ↔
    call = .add key ∧ Held calls key ∧ .close ∉ calls ∨ Due calls key ∧ call ≠ .done key := by
  constructor
  · rintro ⟨before, middle, rest, same, handed, undone, opened⟩
    rw [← List.cons_append, ← List.append_assoc] at same
    rcases concat_divided same with ⟨rfl, rfl, last⟩ | ⟨later, rfl, whole⟩
    · rw [List.append_nil] at undone
      refine .inl ⟨last, ⟨before, middle, rfl, handed, undone⟩, ?_⟩
      simpa using opened
    · simp only [List.mem_append, List.mem_singleton, not_or] at undone
      refine .inr ⟨⟨before, middle, later, ?_, handed, ?_, opened⟩, Ne.symm undone.2.2⟩
      · rw [whole, List.append_assoc, List.cons_append]
      · simp [undone]
  · rintro (⟨rfl, ⟨before, rest, rfl, handed, undone⟩, opened⟩ | ⟨due, other⟩)
    · refine ⟨before, rest, [], by simp, handed, by simpa using undone, ?_⟩
      simpa using opened
    · obtain ⟨before, middle, rest, rfl, handed, undone, opened⟩ := due
      refine ⟨before, middle, rest ++ [call], by simp, handed, ?_, opened⟩
      simp only [List.mem_append, not_or] at undone ⊢
      exact ⟨undone.1, undone.2, by simpa using Ne.symm other⟩

end Telling

section Steps

def reopened (q : ResyncQueue) : ResyncQueue := { q with closed := false }

theorem reopened_of_open (opened : q.closed = false) : q.reopened = q := by
  rw [reopened, ← opened]

theorem add_of_closed (closed : q.closed = true) (key : String) : q.add key = q := by
  rw [add, closed]
  rfl

theorem get_reopened (q : ResyncQueue) : q.reopened.get = (q.get.1, q.get.2.reopened) := by
  cases waits : q.waiting with
  | nil => simp [get, reopened, waits]
  | cons key rest => simp [get, reopened, waits]

theorem done_reopened (q : ResyncQueue) (key : String) : q.reopened.done key = (q.done key).reopened := by
  unfold done reopened
  dsimp only
  split <;> rfl

theorem answer_get (q : ResyncQueue) : q.answer .get = q.waiting.head? := by
  rw [answer, get]
  cases q.waiting <;> rfl

theorem get_of_empty (empty : q.waiting = []) : q.get = (none, q) := by
  rw [get, empty]

theorem closed_apply (q : ResyncQueue) (call : Call) :
    (q.apply call).closed = true ↔ q.closed = true ∨ call = .close := by
  cases call with
  | add key => simp [apply]
  | get =>
      cases waits : q.waiting with
      | nil => simp [apply, get_of_empty waits]
      | cons key rest => simp [apply, get_of_waiting waits]
  | done key => simp [apply]
  | close => simp [apply, close]

/-- Closed or not, what the queue holds fits together after a call if it did before. -/
theorem sound_apply (sound : Sound q.reopened) (held : ∀ key, call = .done key → key ∈ q.working) :
    Sound (q.apply call).reopened := by
  cases call with
  | add key =>
      cases opened : q.closed with
      | true => rwa [apply, add_of_closed opened]
      | false =>
          rw [reopened_of_open opened] at sound
          rw [apply, reopened_of_open ((closed_add q key).trans opened)]
          exact sound.add key
  | get =>
      cases waits : q.waiting with
      | nil => rwa [apply, get_of_empty waits]
      | cons key rest =>
          have taken : q.reopened.get.1 = some key := get_eq_some_iff.mpr ⟨rest, waits⟩
          have left := sound.get taken
          rwa [get_reopened] at left
  | done key =>
      have left := sound.done (held key rfl)
      rwa [done_reopened] at left
  | close => exact sound

theorem mem_working_apply (sound : Sound q.reopened) (key : String) : key ∈ (q.apply call).working ↔
    call = .get ∧ q.answer .get = some key ∨ key ∈ q.working ∧ call ≠ .done key := by
  cases call with
  | add added => simp [apply]
  | get =>
      cases waits : q.waiting with
      | nil => simp [apply, answer, get_of_empty waits]
      | cons first rest =>
          have idle : first ∉ q.working := sound.idle first (by rw [reopened, waits]; exact List.mem_cons_self)
          simp [apply, answer, get_of_waiting waits, idle, eq_comm]
  | done finished =>
      have left : key ∈ q.working.erase finished ↔ key ≠ finished ∧ key ∈ q.working := sound.working_once.mem_erase_iff
      simp [apply, left, and_comm, eq_comm]
  | close => simp [apply, close]

theorem mem_marked_apply (sound : Sound q.reopened) (key : String) :
    key ∈ (q.apply call).marked ∧ key ∈ (q.apply call).working ↔
      call = .add key ∧ key ∈ q.working ∧ q.closed = false ∨ (key ∈ q.marked ∧ key ∈ q.working) ∧ call ≠ .done key := by
  cases call with
  | add added =>
      cases opened : q.closed with
      | true => simp [apply, add_of_closed opened]
      | false =>
          have marks := marked_add opened added
          simp only [apply, working_add]
          grind
  | get =>
      cases waits : q.waiting with
      | nil => simp [apply, get_of_empty waits]
      | cons first rest =>
          have idle : first ∉ q.working := sound.idle first (by rw [reopened, waits]; exact List.mem_cons_self)
          have left : key ∈ q.marked.erase first ↔ key ≠ first ∧ key ∈ q.marked := sound.marked_once.mem_erase_iff
          simp only [apply, get_of_waiting waits]
          grind
  | done finished =>
      have left : key ∈ q.working.erase finished ↔ key ≠ finished ∧ key ∈ q.working := sound.working_once.mem_erase_iff
      simp only [apply, marked_done, working_done, left]
      grind
  | close => simp [apply, close]

theorem arrives_of_grown {new : List String} (grown : (q.apply call).waiting = q.waiting ++ new)
    (fresh : ∀ key ∈ new, key ∉ q.waiting) : q.arrives call = new := by
  have none_old : (q.waiting.filter fun key => key ∉ q.waiting) = [] :=
    List.filter_eq_nil_iff.mpr fun key waits absent => of_decide_eq_true absent waits
  have all_new : (new.filter fun key => key ∉ q.waiting) = new :=
    List.filter_eq_self.mpr fun key member => decide_eq_true (fresh key member)
  rw [arrives, grown, List.filter_append, none_old, all_new, List.nil_append]

theorem in_turn_of_grown {new : List String} (grown : (q.apply call).waiting = q.waiting ++ new)
    (fresh : ∀ key ∈ new, key ∉ q.waiting) (silent : q.answer call = none) :
    q.waiting ++ q.arrives call = (q.answer call).toList ++ (q.apply call).waiting := by
  rw [arrives_of_grown grown fresh, grown, silent, Option.toList_none, List.nil_append]

theorem in_turn_of_same (same : (q.apply call).waiting = q.waiting) (silent : q.answer call = none) :
    q.waiting ++ q.arrives call = (q.answer call).toList ++ (q.apply call).waiting :=
  in_turn_of_grown (by rw [same, List.append_nil]) (List.forall_mem_nil _) silent

/-- Whoever comes to wait does so behind all that wait, and the first of those that wait is handed out. -/
theorem in_turn_apply (sound : Sound q.reopened) (held : ∀ key, call = .done key → key ∈ q.working) :
    q.waiting ++ q.arrives call = (q.answer call).toList ++ (q.apply call).waiting := by
  cases call with
  | add key =>
      cases opened : q.closed with
      | true => exact in_turn_of_same (by rw [apply, add_of_closed opened]) rfl
      | false =>
          have waits : (q.apply (.add key)).waiting = _ := waiting_add opened key
          by_cases known : key ∈ q.marked ∨ key ∈ q.working
          · exact in_turn_of_same (by rw [waits, if_pos known]) rfl
          · have apart : key ∉ q.waiting := fun waiting => known (.inl (sound.marked key waiting))
            exact in_turn_of_grown (by rw [waits, if_neg known]) (by simpa using apart) rfl
  | get =>
      cases waits : q.waiting with
      | nil => simp [arrives, answer, apply, get_of_empty waits, waits]
      | cons key rest =>
          have none_new : q.arrives .get = [] := by
            rw [arrives, List.filter_eq_nil_iff]
            intro other later
            simp only [apply, get_of_waiting waits] at later
            simp [waits, later]
          simp [none_new, answer, apply, get_of_waiting waits]
  | done key =>
      have waits : (q.apply (.done key)).waiting = _ := waiting_done q key
      by_cases known : key ∈ q.marked
      · have apart : key ∉ q.waiting := fun waiting => sound.idle key waiting (held key rfl)
        exact in_turn_of_grown (by rw [waits, if_pos known]) (by simpa using apart) rfl
      · exact in_turn_of_same (by rw [waits, if_neg known]) rfl
  | close => exact in_turn_of_same rfl rfl

theorem answered_or_marked (known : key ∈ q.marked) (call : Call) :
    q.answer call = some key ∨ key ∈ (q.apply call).marked := by
  cases call with
  | add added =>
      right
      cases opened : q.closed with
      | true => rwa [apply, add_of_closed opened]
      | false =>
          rw [apply, marked_add opened]
          split
          · exact known
          · exact List.mem_cons_of_mem added known
  | get =>
      cases waits : q.waiting with
      | nil => exact .inr (by rwa [apply, get_of_empty waits])
      | cons first rest =>
          by_cases here : key = first
          · exact .inl (by rw [answer_get, waits, here, List.head?_cons])
          · right
            rw [apply, get_of_waiting waits]
            exact (List.mem_erase_of_ne here).mpr known
  | done finished => exact .inr (by rwa [apply, marked_done])
  | close => exact .inr known

theorem delivered_or_marked (known : key ∈ q.marked) (calls : List Call) :
    key ∈ q.deliveries calls ∨ key ∈ (q.run calls).marked := by
  induction calls generalizing q with
  | nil => exact .inr known
  | cons call rest ih =>
      rw [deliveries, run_cons, List.mem_append, Option.mem_toList]
      rcases answered_or_marked known call with handed | still
      · exact .inl (.inl handed)
      · exact (ih still).imp .inr id

theorem marked_perm (sound : Sound q.reopened) (closed : q.closed = true) (call : Call) :
    ((q.answer call).toList ++ (q.apply call).marked).Perm q.marked := by
  cases call with
  | add key => rw [apply, add_of_closed closed]; exact .refl _
  | get =>
      cases waits : q.waiting with
      | nil => rw [answer, apply, get_of_empty waits]; exact .refl _
      | cons key rest =>
          have known : key ∈ q.marked := sound.marked key (by rw [reopened, waits]; exact List.mem_cons_self)
          rw [answer, apply, get_of_waiting waits]
          exact (List.perm_cons_erase known).symm
  | done key => rw [apply, marked_done]; exact .refl _
  | close => exact .refl _

end Steps

section Representation

/-- The queue holds what the calls tell of it. -/
structure Told (calls : List Call) : Prop where
  -- A sound queue is an open one, and closing changes nothing of what is held.
  sound : Sound (run {} calls).reopened
  closed : (run {} calls).closed = true ↔ .close ∈ calls
  working : ∀ key, key ∈ (run {} calls).working ↔ Held calls key
  due : ∀ key, key ∈ (run {} calls).marked ∧ key ∈ (run {} calls).working ↔ Due calls key

theorem told_nil : Told [] where
  sound := sound_empty
  closed := by simp
  working key := by
    refine iff_of_false List.not_mem_nil ?_
    rintro ⟨before, rest, same, _⟩
    cases before <;> cases same
  due key := by
    refine iff_of_false (fun marked => List.not_mem_nil marked.1) ?_
    rintro ⟨before, middle, rest, same, _⟩
    cases before <;> cases same

theorem Told.concat (told : Told calls) (held : ∀ key, call = .done key → Held calls key) : Told (calls ++ [call]) where
  sound := by
    rw [run_concat]
    exact sound_apply told.sound fun key same => (told.working key).mpr (held key same)
  closed := by
    rw [run_concat, closed_apply, told.closed, List.mem_append, List.mem_singleton, eq_comm]
  working key := by
    rw [run_concat, mem_working_apply told.sound, told.working, held_concat]
  due key := by
    have opened : (run {} calls).closed = false ↔ .close ∉ calls := by rw [← told.closed, Bool.not_eq_true]
    rw [run_concat, mem_marked_apply told.sound, told.due, told.working, opened, due_concat]

theorem told_of_proper (proper : Proper calls) : Told calls := by
  -- From the end, since it is the calls before one that tell what it finds.
  induction calls using List.reverseRecOn with
  | nil => exact told_nil
  | append_singleton calls call ih =>
      obtain ⟨proper, held⟩ := proper_concat.mp proper
      exact (ih proper).concat held

structure Represents (calls : List Call) : Prop where
  once : (run {} calls).waiting.Nodup
  working : ∀ key, key ∈ (run {} calls).working ↔ Held calls key
  idle : ∀ key ∈ (run {} calls).waiting, ¬ Held calls key
  marked : ∀ key, key ∈ (run {} calls).marked ↔ key ∈ (run {} calls).waiting ∨ Due calls key
  answered : (run {} calls).answer .get = (run {} calls).waiting.head?
  in_turn : arrivals {} calls = deliveries {} calls ++ (run {} calls).waiting

theorem arrivals_of_proper (proper : Proper calls) :
    arrivals {} calls = deliveries {} calls ++ (run {} calls).waiting := by
  induction calls using List.reverseRecOn with
  | nil => rfl
  | append_singleton calls call ih =>
      obtain ⟨proper, held⟩ := proper_concat.mp proper
      have told := told_of_proper proper
      have turn := in_turn_apply told.sound fun key same => (told.working key).mpr (held key same)
      rw [arrivals_concat, ih proper, List.append_assoc, turn, deliveries_concat, run_concat, List.append_assoc]

theorem Told.represents (told : Told calls) (proper : Proper calls) : Represents calls where
  once := told.sound.once
  working := told.working
  idle key waiting held := told.sound.idle key waiting ((told.working key).mpr held)
  marked key := by
    constructor
    · intro known
      exact (told.sound.covered key known).imp id fun busy => (told.due key).mp ⟨known, busy⟩
    · rintro (waiting | due)
      · exact told.sound.marked key waiting
      · exact ((told.due key).mpr due).1
  answered := answer_get _
  in_turn := arrivals_of_proper proper

theorem Due.append (due : Due calls key) (undone : .done key ∉ more) : Due (calls ++ more) key := by
  induction more using List.reverseRecOn with
  | nil => rwa [List.append_nil]
  | append_singleton more call ih =>
      simp only [List.mem_append, List.mem_singleton, not_or] at undone
      rw [← List.append_assoc]
      exact due_concat.mpr (.inr ⟨ih undone.1, Ne.symm undone.2⟩)

/-- An addition is not lost. Its key waits at once, or is worked on and waits as soon as it is next done. -/
structure Kept (before : List Call) (key : String) (after : List Call) : Prop where
  waits : key ∈ (run {} (before ++ [.add key])).waiting ∨
    Held before key ∧ ∀ middle rest, after = middle ++ .done key :: rest → .done key ∉ middle →
      key ∈ (run {} (before ++ .add key :: (middle ++ [.done key]))).waiting
  handed : key ∈ (run {} (before ++ [.add key])).deliveries after ∨ key ∈ (run {} (before ++ .add key :: after)).marked

theorem kept_of_proper {before after : List Call} (proper : Proper (before ++ .add key :: after))
    (opened : .close ∉ before) : Kept before key after := by
  have told : Told before := told_of_proper proper.left
  have still_open : (run {} before).closed = false := by rw [← Bool.not_eq_true, told.closed]; exact opened
  have told' : Told (before ++ [.add key]) := told.concat (by simp)
  have known : key ∈ (run {} (before ++ [.add key])).marked := by
    rw [run_concat]
    exact mem_marked_add still_open key
  refine ⟨?_, ?_⟩
  · refine (told'.sound.covered key known).imp id fun busy => ?_
    have held : Held before key := by
      rw [run_concat] at busy
      exact (told.working key).mp (working_add _ key ▸ busy)
    -- The mark outlasts all that comes before the key is done, a closing of the queue as well.
    have due : Due (before ++ [.add key]) key := due_concat.mpr (.inl ⟨rfl, held, opened⟩)
    refine ⟨held, fun middle rest split undone => ?_⟩
    subst split
    have proper' : Proper ((before ++ [.add key] ++ middle) ++ .done key :: rest) := by simpa using proper
    have still := ((told_of_proper proper'.left).due key).mpr (due.append undone)
    have regrouped :
        before ++ .add key :: (middle ++ [.done key]) = (before ++ [.add key] ++ middle) ++ [.done key] := by
      simp
    rw [regrouped, run_concat, apply, waiting_done, if_pos still.1]
    exact List.mem_append_right _ List.mem_cons_self
  · rw [run_snoc_cons {} before (.add key) after]
    exact delivered_or_marked known after

theorem deliveries_perm {before after : List Call} (proper : Proper (before ++ .close :: after)) :
    ((run {} before).deliveries (.close :: after) ++ (run {} (before ++ .close :: after)).marked).Perm
      (run {} before).marked := by
  induction after using List.reverseRecOn with
  | nil => rw [run_concat]; exact .refl _
  | append_singleton after call ih =>
      rw [← List.cons_append, ← List.append_assoc] at proper ⊢
      have told := told_of_proper proper.left
      have closed : (run {} (before ++ .close :: after)).closed = true := told.closed.mpr (by simp)
      have step := marked_perm told.sound closed call
      rw [deliveries_concat, ← run_append, run_concat, List.append_assoc]
      exact (step.append_left _).trans (ih proper.left)

/-- Gets and dones are enough to take everything out of the queue. -/
theorem exists_emptied (proper : Proper calls) : ∃ more, (∀ call ∈ more, call = .get ∨ ∃ key, call = .done key) ∧
    Proper (calls ++ more) ∧ (run {} (calls ++ more)).marked = [] ∧ (run {} (calls ++ more)).working = [] := by
  -- A get turns a mark into work, and a done ends work.
  induction size : 2 * (run {} calls).marked.length + (run {} calls).working.length using Nat.strongRecOn
    generalizing calls with
  | ind size' ih =>
      have told := told_of_proper proper
      have continued {call : Call} (useful : call = .get ∨ ∃ key, call = .done key) (proper' : Proper (calls ++ [call]))
          (smaller : 2 * (run {} (calls ++ [call])).marked.length + (run {} (calls ++ [call])).working.length < size') :
          ∃ more, (∀ call ∈ more, call = .get ∨ ∃ key, call = .done key) ∧ Proper (calls ++ more) ∧
            (run {} (calls ++ more)).marked = [] ∧ (run {} (calls ++ more)).working = [] := by
        obtain ⟨more, only, left⟩ := ih _ smaller proper' rfl
        refine ⟨call :: more, List.forall_mem_cons.mpr ⟨useful, only⟩, ?_⟩
        simpa using left
      cases busy : (run {} calls).working with
      | cons key others =>
          have member : key ∈ (run {} calls).working := by rw [busy]; exact List.mem_cons_self
          have held : Held calls key := (told.working key).mp member
          refine continued (.inr ⟨key, rfl⟩) (proper_concat.mpr ⟨proper, by rintro _ ⟨⟩; exact held⟩) ?_
          have shorter := List.length_erase_of_mem member
          have some_work := List.length_pos_of_mem member
          rw [run_concat, apply, marked_done, working_done]
          omega
      | nil =>
          cases waits : (run {} calls).waiting with
          | nil =>
              have unmarked : (run {} calls).marked = [] := told.sound.nothing_marked waits busy
              exact ⟨[], by simp, by simpa using proper, by simpa using unmarked, by simpa using busy⟩
          | cons key rest =>
              have known : key ∈ (run {} calls).marked :=
                told.sound.marked key (by rw [reopened, waits]; exact List.mem_cons_self)
              refine continued (.inl rfl) (proper_concat.mpr ⟨proper, by simp⟩) ?_
              have shorter := List.length_erase_of_mem known
              have some_mark := List.length_pos_of_mem known
              rw [run_concat, apply, get_of_waiting waits]
              simp only [busy, List.contains_nil, Bool.false_eq_true, if_false, List.length_singleton]
              rw [busy, List.length_nil] at size
              omega

/-- A closed queue takes nothing more. It hands out what was marked when it was closed, each key once, and nothing is
left once no key waits and none is held. -/
structure Emptied (before after : List Call) : Prop where
  unchanged : ∀ key, (run {} (before ++ .close :: after)).add key = run {} (before ++ .close :: after)
  delivered : ((run {} before).deliveries (.close :: after) ++ (run {} (before ++ .close :: after)).marked).Perm
    (run {} before).marked
  nothing_left : (run {} (before ++ .close :: after)).waiting = [] → (∀ key, ¬ Held (before ++ .close :: after) key) →
    (run {} (before ++ .close :: after)).marked = []
  emptied : ∃ more, (∀ call ∈ more, call = .get ∨ ∃ key, call = .done key) ∧
    Proper (before ++ .close :: after ++ more) ∧ (run {} (before ++ .close :: after ++ more)).marked = [] ∧
    (run {} (before ++ .close :: after ++ more)).working = []

theorem emptied_of_proper {before after : List Call} (proper : Proper (before ++ .close :: after)) :
    Emptied before after where
  unchanged := by
    have closed : (run {} (before ++ .close :: after)).closed = true :=
      (told_of_proper proper).closed.mpr (by simp)
    exact add_of_closed closed
  delivered := deliveries_perm proper
  nothing_left empty unheld := by
    have told := told_of_proper proper
    have idle : (run {} (before ++ .close :: after)).working = [] :=
      List.eq_nil_iff_forall_not_mem.mpr fun key busy => unheld key ((told.working key).mp busy)
    exact told.sound.nothing_marked empty idle
  emptied := exists_emptied proper

/-- However its calls follow on each other, the queue holds what they tell of it, keeps what is added, and once it is
closed it hands out what it has left. -/
theorem represented_by_calls (proper : Proper calls) :
    Represents calls ∧
      (∀ before key after, calls = before ++ .add key :: after → .close ∉ before → Kept before key after) ∧
      ∀ before after, calls = before ++ .close :: after → Emptied before after := by
  refine ⟨(told_of_proper proper).represents proper, ?_, ?_⟩
  · rintro before key after rfl opened
    exact kept_of_proper proper opened
  · rintro before after rfl
    exact emptied_of_proper proper

/-- A queue that is closed in the middle of work. -/
def interrupted : List Call := [.add "node", .get, .add "node", .add "subnet", .close, .add "peer", .done "node"]

theorem interrupted_proper : Proper interrupted := by
  have undone {calls : List Call} (none_done : ∀ key, .done key ∉ calls) : Proper calls := by
    rintro before key rest rfl
    exact absurd (List.mem_append_right before List.mem_cons_self) (none_done key)
  have started : Proper [.add "node", .get, .add "node", .add "subnet", .close, .add "peer"] := undone (by simp)
  refine proper_concat.mpr ⟨started, ?_⟩
  rintro _ ⟨⟩
  exact ⟨[.add "node"], _, rfl, by decide +kernel, by decide⟩

theorem interrupted_represented : Proper interrupted ∧ (run {} interrupted).waiting = ["subnet", "node"] ∧
    Represents interrupted ∧ Kept [.add "node", .get] "node" [.add "subnet", .close, .add "peer", .done "node"] ∧
    Emptied [.add "node", .get, .add "node", .add "subnet"] [.add "peer", .done "node"] := by
  obtain ⟨represents, kept, emptied⟩ := represented_by_calls interrupted_proper
  exact ⟨interrupted_proper, by decide +kernel, represents, kept _ _ _ rfl (by decide), emptied _ _ rfl⟩

end Representation

end PodAddressing.ResyncQueue
