import PodAddressing.Resync
/-!
What happens to the keys of the resync queue. A key is marked from the time it is added until it is taken, and it waits
as long as it is marked and not worked on. Keys are taken in the order in which they came to wait.
-/

namespace PodAddressing.ResyncQueue
variable {q : ResyncQueue} {key other : String}

section Operations

theorem get_of_waiting {rest : List String} (waits : q.waiting = key :: rest) :
    q.get = (some key, { q with
      waiting := rest
      working := if q.working.contains key then q.working else key :: q.working
      marked := q.marked.erase key }) := by
  rw [get, waits]

theorem get_eq_some_iff : q.get.1 = some key ↔ ∃ rest, q.waiting = key :: rest := by
  cases waits : q.waiting with
  | nil => simp [get, waits]
  | cons first rest => simp [get_of_waiting waits]

theorem mem_working_get (taken : q.get.1 = some key) : key ∈ q.get.2.working := by
  obtain ⟨rest, waits⟩ := get_eq_some_iff.mp taken
  rw [get_of_waiting waits]
  dsimp only
  split
  case isTrue known => exact List.contains_iff_mem.mp known
  case isFalse => exact List.mem_cons_self

@[simp] theorem working_add (q : ResyncQueue) (key : String) : (q.add key).working = q.working := by
  unfold add
  dsimp only
  split
  · rfl
  · split <;> rfl

@[simp] theorem closed_add (q : ResyncQueue) (key : String) : (q.add key).closed = q.closed := by
  unfold add
  dsimp only
  split
  · rfl
  · split <;> rfl

theorem marked_add (opened : q.closed = false) (key : String) :
    (q.add key).marked = if key ∈ q.marked then q.marked else key :: q.marked := by
  by_cases known : key ∈ q.marked
  · simp [add, known]
  · by_cases busy : key ∈ q.working <;> simp [add, opened, known, busy]

theorem mem_marked_add (opened : q.closed = false) (key : String) : key ∈ (q.add key).marked := by
  rw [marked_add opened]
  split
  case isTrue known => exact known
  case isFalse => exact List.mem_cons_self

theorem waiting_add (opened : q.closed = false) (key : String) :
    (q.add key).waiting = if key ∈ q.marked ∨ key ∈ q.working then q.waiting else q.waiting ++ [key] := by
  by_cases known : key ∈ q.marked
  · simp [add, known]
  · by_cases busy : key ∈ q.working <;> simp [add, opened, known, busy]

@[simp] theorem working_done (q : ResyncQueue) (key : String) : (q.done key).working = q.working.erase key := by
  unfold done
  dsimp only
  split <;> rfl

@[simp] theorem marked_done (q : ResyncQueue) (key : String) : (q.done key).marked = q.marked := by
  unfold done
  dsimp only
  split <;> rfl

@[simp] theorem closed_done (q : ResyncQueue) (key : String) : (q.done key).closed = q.closed := by
  unfold done
  dsimp only
  split <;> rfl

theorem waiting_done (q : ResyncQueue) (key : String) :
    (q.done key).waiting = if key ∈ q.marked then q.waiting ++ [key] else q.waiting := by
  by_cases known : key ∈ q.marked <;> simp [done, known]

end Operations

section Acts

inductive Act
  | added (key : String)
  | taken (key : String)
  | finished (key : String) (failed : Bool)
  deriving DecidableEq, Repr

def after (q : ResyncQueue) : Act → ResyncQueue
  | .added key => q.add key
  | .taken _ => q.get.2
  | .finished key _ => q.done key

/-- The key that is taken is the one that is handed out, and only keys that are worked on can be finished. -/
def Allows (q : ResyncQueue) : Act → Prop
  | .added _ => True
  | .taken key => q.get.1 = some key
  | .finished key _ => key ∈ q.working

def replay (q : ResyncQueue) (acts : List Act) : ResyncQueue := acts.foldl after q

def Possible : ResyncQueue → List Act → Prop
  | _, [] => True
  | q, act :: rest => q.Allows act ∧ Possible (q.after act) rest

variable {act : Act} {acts : List Act}

theorem replay_cons (q : ResyncQueue) (act : Act) (rest : List Act) :
    q.replay (act :: rest) = (q.after act).replay rest := rfl

theorem replay_append (q : ResyncQueue) (first second : List Act) :
    q.replay (first ++ second) = (q.replay first).replay second :=
  List.foldl_append

theorem possible_append {first second : List Act} :
    Possible q (first ++ second) ↔ Possible q first ∧ Possible (q.replay first) second := by
  induction first generalizing q with
  | nil => simp [Possible, replay]
  | cons act rest ih => simp only [List.cons_append, Possible, ih, replay_cons, and_assoc]

theorem replay_added (q : ResyncQueue) (keys : List String) :
    q.replay (keys.map .added) = keys.foldl add q := by
  rw [replay, List.foldl_map]
  rfl

theorem working_added (q : ResyncQueue) (keys : List String) : (keys.foldl add q).working = q.working := by
  induction keys generalizing q with
  | nil => rfl
  | cons key rest ih => exact (ih (q.add key)).trans (working_add q key)

theorem possible_added (q : ResyncQueue) (keys : List String) : Possible q (keys.map .added) := by
  induction keys generalizing q with
  | nil => trivial
  | cons key rest ih => exact ⟨trivial, ih (q.add key)⟩

end Acts

section Soundness

/-- A key that waits is marked and not worked on, and a key that is marked waits unless it is worked on. -/
structure Sound (q : ResyncQueue) : Prop where
  opened : q.closed = false
  once : q.waiting.Nodup
  marked_once : q.marked.Nodup
  working_once : q.working.Nodup
  marked : ∀ key ∈ q.waiting, key ∈ q.marked
  idle : ∀ key ∈ q.waiting, key ∉ q.working
  covered : ∀ key ∈ q.marked, key ∈ q.waiting ∨ key ∈ q.working

theorem sound_empty : Sound {} := by
  constructor <;> simp

namespace Sound
variable {acts : List Act}

theorem add (sound : Sound q) (key : String) : Sound (q.add key) := by
  have marks := marked_add sound.opened key
  have waits := waiting_add sound.opened key
  constructor
  case opened => exact (closed_add q key).trans sound.opened
  case once =>
    rw [waits]
    split
    case isTrue => exact sound.once
    case isFalse fresh =>
      have apart : key ∉ q.waiting := fun waiting => fresh (.inl (sound.marked key waiting))
      exact List.nodup_append.mpr ⟨sound.once, by simp, by grind⟩
  case marked_once =>
    rw [marks]
    split
    case isTrue => exact sound.marked_once
    case isFalse unknown => exact List.nodup_cons.mpr ⟨unknown, sound.marked_once⟩
  case working_once => exact (working_add q key) ▸ sound.working_once
  case marked =>
    intro other
    have known := sound.marked other
    grind
  case idle =>
    intro other
    have idle := sound.idle other
    rw [working_add]
    grind
  case covered =>
    intro other
    have covered := sound.covered other
    rw [working_add]
    grind

theorem taken (sound : Sound q) {rest : List String} (waits : q.waiting = key :: rest) :
    q.get.2 = { q with waiting := rest, working := key :: q.working, marked := q.marked.erase key } := by
  have idle : key ∉ q.working := sound.idle key (waits ▸ List.mem_cons_self)
  rw [get_of_waiting waits]
  simp [idle]

theorem get (sound : Sound q) (allowed : q.get.1 = some key) : Sound q.get.2 := by
  obtain ⟨rest, waits⟩ := get_eq_some_iff.mp allowed
  have same (k : String) : k ∈ q.waiting ↔ k = key ∨ k ∈ rest := by rw [waits, List.mem_cons]
  have once := sound.once
  rw [waits, List.nodup_cons] at once
  have left (k : String) : k ∈ q.marked.erase key ↔ k ≠ key ∧ k ∈ q.marked :=
    sound.marked_once.mem_erase_iff
  rw [sound.taken waits]
  exact {
    opened := sound.opened
    once := once.2
    marked_once := sound.marked_once.erase key
    working_once := List.nodup_cons.mpr ⟨sound.idle key ((same key).mpr (.inl rfl)), sound.working_once⟩
    marked := by
      intro k waiting
      have other : k ≠ key := fun here => once.1 (here ▸ waiting)
      exact (left k).mpr ⟨other, sound.marked k ((same k).mpr (.inr waiting))⟩
    idle := by
      intro k waiting
      have other : k ≠ key := fun here => once.1 (here ▸ waiting)
      exact List.not_mem_cons_of_ne_of_not_mem other (sound.idle k ((same k).mpr (.inr waiting)))
    covered := by
      intro k known
      obtain ⟨other, known⟩ := (left k).mp known
      rcases sound.covered k known with waiting | busy
      · exact .inl (((same k).mp waiting).resolve_left other)
      · exact .inr (List.mem_cons_of_mem key busy) }

theorem done (sound : Sound q) (busy : key ∈ q.working) : Sound (q.done key) := by
  have apart : key ∉ q.waiting := fun waiting => sound.idle key waiting busy
  have waits := waiting_done q key
  have left (k : String) : k ∈ q.working.erase key ↔ k ≠ key ∧ k ∈ q.working :=
    sound.working_once.mem_erase_iff
  constructor
  case opened => exact (closed_done q key).trans sound.opened
  case once =>
    rw [waits]
    split
    case isTrue => exact List.nodup_append.mpr ⟨sound.once, by simp, by grind⟩
    case isFalse => exact sound.once
  case marked_once => exact (marked_done q key) ▸ sound.marked_once
  case working_once => exact (working_done q key) ▸ sound.working_once.erase key
  case marked =>
    intro other
    have known := sound.marked other
    rw [marked_done]
    grind
  case idle =>
    intro other
    have idle := sound.idle other
    rw [working_done, left]
    grind
  case covered =>
    intro other
    have covered := sound.covered other
    rw [working_done, marked_done, left]
    grind

theorem after (sound : Sound q) {act : Act} (allowed : q.Allows act) : Sound (q.after act) := by
  cases act with
  | added key => exact sound.add key
  | taken key => exact sound.get allowed
  | finished key failed => exact sound.done allowed

theorem replay (sound : Sound q) (possible : Possible q acts) : Sound (q.replay acts) := by
  induction acts generalizing q with
  | nil => exact sound
  | cons act rest ih => exact ih (sound.after possible.1) possible.2

theorem nothing_marked (sound : Sound q) (empty : q.waiting = []) (idle : q.working = []) : q.marked = [] := by
  apply List.eq_nil_iff_forall_not_mem.mpr
  intro key known
  rcases sound.covered key known with waiting | busy
  · rw [empty] at waiting
    exact List.not_mem_nil waiting
  · rw [idle] at busy
    exact List.not_mem_nil busy

end Sound
end Soundness

section Following
variable {act : Act} {acts : List Act}

theorem marked_after (allowed : q.Allows act) (known : key ∈ q.marked) :
    act = .taken key ∨ key ∈ (q.after act).marked := by
  cases act with
  | added added =>
      right
      change key ∈ (q.add added).marked
      unfold add
      dsimp only
      split
      · exact known
      · split <;> exact List.mem_cons_of_mem added known
  | taken taken =>
      obtain ⟨rest, waits⟩ := get_eq_some_iff.mp allowed
      by_cases here : key = taken
      · exact .inl (congrArg Act.taken here.symm)
      · right
        change key ∈ q.get.2.marked
        rw [get_of_waiting waits]
        exact (List.mem_erase_of_ne here).mpr known
  | finished finished failed =>
      right
      exact (marked_done q finished).symm ▸ known

theorem taken_or_marked (possible : Possible q acts) (known : key ∈ q.marked) :
    .taken key ∈ acts ∨ key ∈ (q.replay acts).marked := by
  induction acts generalizing q with
  | nil => exact .inr known
  | cons act rest ih =>
      rcases marked_after possible.1 known with rfl | known'
      · exact .inl List.mem_cons_self
      · exact (ih possible.2 known').imp (List.mem_cons_of_mem act) id

theorem working_after (allowed : q.Allows act) (busy : key ∈ q.working) :
    (∃ failed, act = .finished key failed) ∨ key ∈ (q.after act).working := by
  cases act with
  | added added => exact .inr ((working_add q added).symm ▸ busy)
  | taken taken =>
      obtain ⟨rest, waits⟩ := get_eq_some_iff.mp allowed
      right
      change key ∈ q.get.2.working
      rw [get_of_waiting waits]
      dsimp only
      split
      · exact busy
      · exact List.mem_cons_of_mem taken busy
  | finished finished failed =>
      by_cases here : key = finished
      · exact .inl ⟨failed, congrArg (Act.finished · failed) here.symm⟩
      · right
        change key ∈ (q.done finished).working
        rw [working_done]
        exact (List.mem_erase_of_ne here).mpr busy

theorem finished_or_working (possible : Possible q acts) (busy : key ∈ q.working) :
    (∃ failed, .finished key failed ∈ acts) ∨ key ∈ (q.replay acts).working := by
  induction acts generalizing q with
  | nil => exact .inr busy
  | cons act rest ih =>
      rcases working_after possible.1 busy with ⟨failed, rfl⟩ | busy'
      · exact .inl ⟨failed, List.mem_cons_self⟩
      · exact (ih possible.2 busy').imp (fun ⟨failed, member⟩ => ⟨failed, List.mem_cons_of_mem act member⟩) id

/-- A key waits, and another does not wait in front of it. -/
def Ahead (q : ResyncQueue) (key other : String) : Prop :=
  ∃ before rest, q.waiting = before ++ key :: rest ∧ other ∉ before

theorem ahead_of_absent (waits : key ∈ q.waiting) (absent : other ∉ q.waiting) : q.Ahead key other := by
  obtain ⟨before, rest, split⟩ := List.append_of_mem waits
  exact ⟨before, rest, split, fun member => absent (split ▸ List.mem_append_left _ member)⟩

theorem waiting_after (opened : q.closed = false) (still : ∀ key, act ≠ .taken key) :
    q.waiting <+: (q.after act).waiting := by
  cases act with
  | added added =>
      change q.waiting <+: (q.add added).waiting
      rw [waiting_add opened]
      split
      · exact List.prefix_refl _
      · exact List.prefix_append _ _
  | taken taken => exact absurd rfl (still taken)
  | finished finished failed =>
      change q.waiting <+: (q.done finished).waiting
      rw [waiting_done]
      split
      · exact List.prefix_append _ _
      · exact List.prefix_refl _

theorem ahead_after (opened : q.closed = false) (allowed : q.Allows act) (ahead : q.Ahead key other) :
    act = .taken key ∨ (q.after act).Ahead key other := by
  obtain ⟨before, rest, split, absent⟩ := ahead
  by_cases takes : ∃ taken, act = .taken taken
  · obtain ⟨taken, rfl⟩ := takes
    obtain ⟨tail, waits⟩ := get_eq_some_iff.mp allowed
    rw [split] at waits
    cases before with
    | nil => exact .inl (congrArg Act.taken (List.cons.inj waits).1.symm)
    | cons first before =>
        right
        obtain ⟨rfl, rfl⟩ := List.cons.inj waits
        refine ⟨before, rest, ?_, fun member => absent (List.mem_cons_of_mem _ member)⟩
        change q.get.2.waiting = _
        rw [get_of_waiting split]
        rfl
  · have still : ∀ taken, act ≠ .taken taken := fun taken same => takes ⟨taken, same⟩
    obtain ⟨more, grown⟩ := waiting_after opened still
    right
    refine ⟨before, rest ++ more, ?_, absent⟩
    rw [← grown, split, List.append_assoc, List.cons_append]

/-- First come, first served. -/
theorem taken_before {later : List Act} (sound : Sound q) (ahead : q.Ahead key other) (different : key ≠ other)
    (possible : Possible q (acts ++ .taken other :: later)) : .taken key ∈ acts := by
  induction acts generalizing q with
  | nil =>
      obtain ⟨before, rest, split, absent⟩ := ahead
      obtain ⟨tail, waits⟩ := get_eq_some_iff.mp possible.1
      rw [split] at waits
      cases before with
      | nil => exact absurd (List.cons.inj waits).1 different
      | cons first before => exact absurd ((List.cons.inj waits).1 ▸ List.mem_cons_self) absent
  | cons act rest ih =>
      rcases ahead_after sound.opened possible.1 ahead with rfl | ahead'
      · exact List.mem_cons_self
      · exact List.mem_cons_of_mem act (ih (sound.after possible.1) ahead' possible.2)

/-- A key that is worked on is not taken again before all that wait meanwhile were. -/
theorem taken_of_waiting {before middle later : List Act} {failed : Bool} (sound : Sound q)
    (possible : Possible q (before ++ .finished key failed :: middle ++ .taken key :: later))
    (waits : other ∈ (q.replay before).waiting) : .taken other ∈ middle := by
  rw [List.append_assoc, possible_append, List.cons_append] at possible
  obtain ⟨earlier, busy, possible⟩ := possible
  have middle_sound := sound.replay earlier
  have absent : key ∉ (q.replay before).waiting := fun member => middle_sound.idle key member busy
  have different : other ≠ key := fun same => absent (same ▸ waits)
  have ahead : ((q.replay before).after (.finished key failed)).Ahead other key := by
    rcases ahead_after middle_sound.opened busy (ahead_of_absent waits absent) with impossible | ahead
    · cases impossible
    · exact ahead
  exact taken_before (middle_sound.after busy) ahead different possible

end Following

end PodAddressing.ResyncQueue
