import PodAddressing.Proofs.Basic
import PodAddressing.Proofs.Resync.Queue
import PodAddressing.Resync
/-!
What the loop that works on the resync queue makes of it. Whatever the work on a key adds, and however often it fails,
no request is lost: when no key is left waiting, the last work on every key began after the key was last added, and
went well.
-/

namespace PodAddressing.Resync
open ResyncQueue

section History
variable {σ : Type} {work : Work σ} {q : ResyncQueue} {state : σ} {key : String}

def Attempt.acts (attempt : Attempt) (key : String) : List Act :=
  .taken key :: (attempt.added.map .added ++ .finished key attempt.failed ::
    if attempt.failed then [.added key] else [])

def roundActs (work : Work σ) (q : ResyncQueue) (state : σ) : List Act :=
  match q.waiting with
  | [] => []
  | key :: _ => (work key state).1.acts key

def history (work : Work σ) : Nat → ResyncQueue → σ → List Act
  | 0, _, _ => []
  | n + 1, q, state =>
      roundActs work q state ++ history work n (round work q state).1 (round work q state).2

theorem roundActs_of_waiting {rest : List String} (waits : q.waiting = key :: rest) :
    roundActs work q state = (work key state).1.acts key := by
  rw [roundActs, waits]

theorem round_of_waiting {rest : List String} (waits : q.waiting = key :: rest) :
    round work q state = process work key q.get.2 state := by
  rw [round, get_of_waiting waits]

theorem round_of_empty (empty : q.waiting = []) : round work q state = (q, state) := by
  simp [round, ResyncQueue.get, empty]

theorem round_replay (work : Work σ) (q : ResyncQueue) (state : σ) :
    (round work q state).1 = q.replay (roundActs work q state) := by
  cases waits : q.waiting with
  | nil => simp [round_of_empty waits, roundActs, waits, replay]
  | cons key rest =>
      rw [roundActs_of_waiting waits, round_of_waiting waits, process, Attempt.acts, replay_cons, replay_append,
        replay_added]
      dsimp only [replay_cons]
      split <;> rfl

theorem rounds_replay (work : Work σ) (n : Nat) (q : ResyncQueue) (state : σ) :
    (rounds work n q state).1 = q.replay (history work n q state) := by
  induction n generalizing q state with
  | zero => rfl
  | succ n ih =>
      rw [history, replay_append, ← round_replay, ← ih]
      rfl

theorem possible_round (work : Work σ) (q : ResyncQueue) (state : σ) : Possible q (roundActs work q state) := by
  cases waits : q.waiting with
  | nil =>
      rw [roundActs, waits]
      trivial
  | cons key rest =>
      rw [roundActs_of_waiting waits]
      have taken : q.get.1 = some key := get_eq_some_iff.mpr ⟨rest, waits⟩
      refine ⟨taken, possible_append.mpr ⟨possible_added _ _, ?_, ?_⟩⟩
      · rw [replay_added]
        change key ∈ (List.foldl add q.get.2 _).working
        rw [working_added]
        exact mem_working_get taken
      · split
        · exact ⟨trivial, trivial⟩
        · trivial

/-- Between two rounds no key is worked on. -/
theorem idle_round (sound : Sound q) (idle : q.working = []) : (round work q state).1.working = [] := by
  cases waits : q.waiting with
  | nil => rwa [round_of_empty waits]
  | cons key rest =>
      have done : (((work key state).1.added.foldl add q.get.2).done key).working = [] := by
        rw [working_done, working_added, sound.taken waits, idle]
        exact List.erase_cons_head key []
      rw [round_of_waiting waits, process]
      dsimp only
      split
      · rw [working_add, done]
      · exact done

theorem possible_history (work : Work σ) (sound : Sound q) (idle : q.working = []) (state : σ) (n : Nat) :
    Possible q (history work n q state) ∧ (rounds work n q state).1.working = [] := by
  induction n generalizing q state with
  | zero => exact ⟨trivial, idle⟩
  | succ n ih =>
      have first : Possible q (roundActs work q state) := possible_round work q state
      have sound' : Sound (round work q state).1 := by
        rw [round_replay]
        exact sound.replay first
      obtain ⟨later, idle'⟩ := ih sound' (idle_round sound idle) _
      rw [history, possible_append, ← round_replay]
      exact ⟨⟨first, later⟩, idle'⟩

end History

section Settling
variable {q : ResyncQueue} {key : String} {acts : List Act}

/-- Whatever fails is added again. -/
def Retried : List Act → Prop
  | [] => True
  | act :: rest => (∀ key, act = .finished key true → .added key ∈ rest) ∧ Retried rest

theorem retried_append {first second : List Act} (left : Retried first) (right : Retried second) :
    Retried (first ++ second) := by
  induction first with
  | nil => exact right
  | cons act rest ih => exact ⟨fun key failed => List.mem_append_left _ (left.1 key failed), ih left.2⟩

theorem Retried.right {first second : List Act} (retried : Retried (first ++ second)) : Retried second := by
  induction first with
  | nil => exact retried
  | cons act rest ih => exact ih retried.2

theorem Retried.added (retried : Retried acts) (failed : .finished key true ∈ acts) : .added key ∈ acts := by
  induction acts with
  | nil => cases failed
  | cons act rest ih =>
      rcases List.mem_cons.mp failed with same | later
      · exact List.mem_cons_of_mem act (retried.1 key same.symm)
      · exact List.mem_cons_of_mem act (ih retried.2 later)

theorem retried_added (keys : List String) : Retried (keys.map .added) := by
  induction keys with
  | nil => trivial
  | cons key rest ih => exact ⟨fun _ failed => Act.noConfusion failed, ih⟩

theorem Attempt.retried (attempt : Attempt) (key : String) : Retried (attempt.acts key) := by
  refine ⟨fun _ failed => Act.noConfusion failed, retried_append (retried_added _) ⟨?_, ?_⟩⟩
  · intro key' same
    obtain ⟨rfl, failed⟩ := Act.finished.inj same
    rw [if_pos failed]
    exact List.mem_singleton_self _
  · split
    · exact retried_added [key]
    · trivial

theorem retried_history {σ : Type} (work : Work σ) (n : Nat) (q : ResyncQueue) (state : σ) :
    Retried (history work n q state) := by
  induction n generalizing q state with
  | zero => trivial
  | succ n ih =>
      refine retried_append ?_ (ih _ _)
      unfold roundActs
      split
      · trivial
      · exact Attempt.retried _ _

/-- The last work on a key began after the key was last added, and did not fail. -/
def Settled (key : String) (acts : List Act) : Prop :=
  ∃ before rest, acts = before ++ .taken key :: rest ∧ .taken key ∉ rest ∧ .added key ∉ rest ∧
    .finished key false ∈ rest ∧ .finished key true ∉ rest

theorem settled_of_idle (sound : Sound q) (possible : Possible q acts) (retried : Retried acts)
    (unmarked : key ∉ (q.replay acts).marked) (idle : key ∉ (q.replay acts).working)
    (asked : .added key ∈ acts) : Settled key acts := by
  obtain ⟨before, rest, rfl, unasked⟩ := exists_last_of_mem asked
  rw [replay_append, replay_cons] at unmarked idle
  obtain ⟨earlier, _, later⟩ := possible_append.mp possible
  have marked : key ∈ ((q.replay before).after (.added key)).marked :=
    mem_marked_add (sound.replay earlier).opened key
  have taken := (taken_or_marked later marked).resolve_right unmarked
  -- The last time it was taken is after the last time it was added.
  obtain ⟨middle, final, rfl, untaken⟩ := exists_last_of_mem taken
  rw [replay_append, replay_cons] at idle
  obtain ⟨_, allowed, last⟩ := possible_append.mp later
  have busy : key ∈ ((((q.replay before).after (.added key)).replay middle).after (.taken key)).working :=
    mem_working_get allowed
  have unasked' : .added key ∉ final := fun member =>
    unasked (List.mem_append_right _ (List.mem_cons_of_mem _ member))
  have unfailed : .finished key true ∉ final := by
    intro failed
    have still : Retried ((before ++ .added key :: (middle ++ [.taken key])) ++ final) := by
      simpa using retried
    exact unasked' (still.right.added failed)
  obtain ⟨failed, finished⟩ := (finished_or_working last busy).resolve_right idle
  refine ⟨before ++ .added key :: middle, final, by simp, untaken, unasked', ?_, unfailed⟩
  cases failed with
  | false => exact finished
  | true => exact absurd finished unfailed

end Settling

section Running
variable {σ : Type}

/-- No key waits twice at any time. Where no key waits before a round, nothing is marked or worked on and every key that
was ever added is settled. A key that failed is not taken again before all that waited then. -/
theorem no_request_lost (work : Work σ) (state : σ) (keys : List String) (n : Nat) :
    let start := keys.foldl ResyncQueue.add {}
    let acts := keys.map .added ++ history work n start state
    let now := (rounds work n start state).1
    (now = ResyncQueue.replay {} acts ∧
        ∀ passed, passed <+: acts → (ResyncQueue.replay {} passed).waiting.Nodup) ∧
      (now.waiting = [] →
        now.marked = [] ∧ now.working = [] ∧ ∀ key, .added key ∈ acts → Settled key acts) ∧
      ∀ before key middle later, acts = before ++ .finished key true :: middle ++ .taken key :: later →
        ∀ other ∈ (ResyncQueue.replay {} before).waiting, .taken other ∈ middle := by
  intro start acts now
  have begun : ResyncQueue.replay {} (keys.map .added) = start := replay_added {} keys
  have idle_start : start.working = [] := working_added {} keys
  have sound_start : Sound start := begun ▸ sound_empty.replay (possible_added {} keys)
  obtain ⟨later, idle⟩ := possible_history work sound_start idle_start state n
  have possible : Possible {} acts := possible_append.mpr ⟨possible_added {} keys, begun.symm ▸ later⟩
  have reached : now = ResyncQueue.replay {} acts := by
    rw [replay_append, begun]
    exact rounds_replay work n start state
  have retried : Retried acts := retried_append (retried_added keys) (retried_history work n start state)
  refine ⟨⟨reached, ?_⟩, ?_, ?_⟩
  · rintro passed ⟨rest, split⟩
    rw [← split] at possible
    exact (sound_empty.replay (possible_append.mp possible).1).once
  · intro empty
    have sound : Sound now := reached ▸ sound_empty.replay possible
    have unmarked : now.marked = [] := sound.nothing_marked empty idle
    refine ⟨unmarked, idle, fun key asked => settled_of_idle sound_empty possible retried ?_ ?_ asked⟩
    · rw [← reached, unmarked]
      exact List.not_mem_nil
    · rw [← reached]
      exact idle ▸ List.not_mem_nil
  · intro before key middle later split other waits
    rw [split] at possible
    exact taken_of_waiting sound_empty possible waits

/-- The work on one key fails at first, and adds another. -/
def stubborn : Plan := { failures := [("node", 1)], meanwhile := [("node", ["subnet"])] }

theorem stubborn_settled :
    (Worker.rounds 4 ⟨["node", "subnet"].foldl ResyncQueue.add {}, stubborn, []⟩).worked =
        ["subnet", "node", "subnet", "node"] ∧
      ∀ key ∈ ["node", "subnet"], Settled key (["node", "subnet"].map .added ++
        history Worker.work 4 (["node", "subnet"].foldl ResyncQueue.add {}) (stubborn, [])) := by
  obtain ⟨_, settled, _⟩ := no_request_lost Worker.work (stubborn, []) ["node", "subnet"] 4
  refine ⟨by decide, fun key asked => (settled (by decide)).2.2 key ?_⟩
  exact List.mem_append_left _ (List.mem_map_of_mem asked)

end Running

end PodAddressing.Resync
