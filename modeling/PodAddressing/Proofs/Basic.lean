import Mathlib.Data.List.Forall2
/-!
Lists from which repetitions have been dropped, where a list has a member for the last time, and how a list with
one more member is divided.
-/

namespace PodAddressing

section Repetitions
variable {α : Type} [DecidableEq α]

theorem nodup_eraseDups (xs : List α) : xs.eraseDups.Nodup := by
  induction size : xs.length using Nat.strongRecOn generalizing xs with
  | ind n ih =>
      cases xs with
      | nil => exact List.nodup_nil
      | cons x rest =>
          have fewer := List.length_filter_le (fun y => !y == x) rest
          have absent : x ∉ (rest.filter fun y => !y == x).eraseDups := by simp
          have shorter : (rest.filter fun y => !y == x).length < n := by
            simp only [List.length_cons] at size
            omega
          rw [List.eraseDups_cons]
          exact List.nodup_cons.mpr ⟨absent, ih _ shorter _ rfl⟩

theorem eraseDups_of_all_eq {x : α} {xs : List α} (some_member : xs ≠ []) (same : ∀ y ∈ xs, y = x) :
    xs.eraseDups = [x] := by
  obtain ⟨y, rest, rfl⟩ := List.exists_cons_of_ne_nil some_member
  obtain ⟨rfl, others⟩ := List.forall_mem_cons.mp same
  have nothing : (rest.filter fun z => !z == y) = [] := by
    apply List.filter_eq_nil_iff.mpr
    intro z member
    simp [others z member]
  rw [List.eraseDups_cons, nothing, List.eraseDups_nil]

omit [DecidableEq α] in
theorem exists_last_of_mem {x : α} {xs : List α} (member : x ∈ xs) :
    ∃ before rest, xs = before ++ x :: rest ∧ x ∉ rest := by
  obtain ⟨rest, before, same, absent⟩ := List.eq_append_cons_of_mem (List.mem_reverse.mpr member)
  refine ⟨before.reverse, rest.reverse, ?_, fun again => absent (List.mem_reverse.mp again)⟩
  rw [← List.reverse_reverse xs, same]
  simp

omit [DecidableEq α] in
/-- A list with one more member, divided before a member: that is the last one, or the list was so divided before. -/
theorem concat_divided {xs before rest : List α} {x y : α} (same : xs ++ [x] = before ++ y :: rest) :
    (rest = [] ∧ xs = before ∧ x = y) ∨ ∃ middle, rest = middle ++ [x] ∧ xs = before ++ y :: middle := by
  rcases List.eq_nil_or_concat rest with rfl | ⟨middle, last, rfl⟩
  · obtain ⟨whole, ends⟩ := List.append_inj' same rfl
    exact .inl ⟨rfl, whole, (List.cons.inj ends).1⟩
  · rw [List.concat_eq_append, ← List.cons_append, ← List.append_assoc] at same
    obtain ⟨whole, ends⟩ := List.append_inj' same rfl
    exact .inr ⟨middle, by rw [List.concat_eq_append, ends], whole⟩

end Repetitions

/-!
Results that may be faults: when a sequence of steps gives an answer.
-/

variable {ε α β : Type}

@[simp] theorem ok_bind {a : α} {next : α → Except ε β} : (.ok a : Except ε α) >>= next = next a := rfl

@[simp] theorem throw_bind {fault : ε} {next : α → Except ε β} :
    (throw fault : Except ε α) >>= next = .error fault := rfl

theorem ok_of_bind {first : Except ε α} {next : α → Except ε β} {b : β}
    (answered : first >>= next = .ok b) : ∃ a, first = .ok a ∧ next a = .ok b := by
  cases first with
  | error fault => cases answered
  | ok a => exact ⟨a, rfl, answered⟩

theorem bind_eq_ok_iff {first : Except ε α} {next : α → Except ε β} {b : β} :
    first >>= next = .ok b ↔ ∃ a, first = .ok a ∧ next a = .ok b :=
  ⟨ok_of_bind, fun ⟨_, answered, rest⟩ => answered ▸ rest⟩

theorem error_of_bind {first : Except ε α} {next : α → Except ε β} {fault : ε}
    (failed : first >>= next = .error fault) :
    first = .error fault ∨ ∃ a, first = .ok a ∧ next a = .error fault := by
  cases first with
  | error other =>
      cases failed
      exact .inl rfl
  | ok a => exact .inr ⟨a, rfl, failed⟩

theorem ok_of_map {result : Except ε α} {f : α → β} {b : β}
    (answered : result.map f = .ok b) : ∃ a, result = .ok a ∧ f a = b := by
  cases result with
  | error fault => cases answered
  | ok a =>
      cases answered
      exact ⟨a, rfl, rfl⟩

theorem ok_eq_ok_iff {a b : α} : (.ok a : Except ε α) = .ok b ↔ b = a :=
  ⟨fun same => (Except.ok.inj same).symm, fun same => same ▸ rfl⟩

theorem pure_eq_ok_iff {a b : α} : (pure a : Except ε α) = .ok b ↔ b = a := ok_eq_ok_iff

theorem toOption_eq_some_iff {result : Except ε α} {a : α} : result.toOption = some a ↔ result = .ok a := by
  cases result <;> simp [Except.toOption]

theorem eq_ok_of_isOk {result : Except ε α} (answered : result.isOk = true) (other : α) :
    result = .ok (result.toOption.getD other) := by
  cases result with
  | error fault => cases answered
  | ok a => rfl

theorem isOk_congr {left right : Except ε Unit} (same : left = .ok () ↔ right = .ok ()) : left.isOk = right.isOk := by
  cases left with
  | ok => rw [← same.mp rfl]
  | error fault =>
      cases right with
      | ok => cases same.mpr rfl
      | error fault' => rfl

section Lists
variable {f g : α → Except ε β} {xs : List α}

theorem mapM_congr (same : ∀ x ∈ xs, f x = g x) : xs.mapM f = xs.mapM g := by
  induction xs with
  | nil => rfl
  | cons x rest ih =>
      obtain ⟨first, others⟩ := List.forall_mem_cons.mp same
      rw [List.mapM_cons, List.mapM_cons, first, ih others]

theorem mapM_eq_ok_iff_forall₂ {xs : List α} {ys : List β} :
    xs.mapM f = .ok ys ↔ List.Forall₂ (fun x y => f x = .ok y) xs ys := by
  induction xs generalizing ys with
  | nil => rw [List.mapM_nil, pure_eq_ok_iff, List.forall₂_nil_left_iff]
  | cons x rest ih =>
      rw [List.mapM_cons, List.forall₂_cons_left_iff]
      simp only [bind_eq_ok_iff, pure_eq_ok_iff, ih]
      constructor
      · rintro ⟨y, first, others, denoted, rfl⟩
        exact ⟨y, others, first, denoted, rfl⟩
      · rintro ⟨y, others, first, denoted, rfl⟩
        exact ⟨y, first, others, denoted, rfl⟩

theorem exists_mapM_eq_ok_iff : (∃ ys, xs.mapM f = .ok ys) ↔ ∀ x ∈ xs, (f x).isOk = true := by
  induction xs with
  | nil => exact iff_of_true ⟨[], rfl⟩ (List.forall_mem_nil _)
  | cons x rest ih =>
      rw [List.mapM_cons, List.forall_mem_cons, ← ih]
      cases f x with
      | error fault =>
          refine iff_of_false ?_ ?_
          · rintro ⟨_, failed⟩
            cases failed
          · rintro ⟨failed, _⟩
            cases failed
      | ok y =>
          constructor
          · rintro ⟨_, done⟩
            rw [ok_bind] at done
            obtain ⟨ys, others, _⟩ := ok_of_bind done
            exact ⟨rfl, ys, others⟩
          · rintro ⟨_, ys, others⟩
            rw [ok_bind, others]
            exact ⟨y :: ys, rfl⟩

theorem mem_of_mapM_error {fault : ε} (failed : xs.mapM f = .error fault) : ∃ x ∈ xs, f x = .error fault := by
  induction xs with
  | nil => cases failed
  | cons x rest ih =>
      rw [List.mapM_cons] at failed
      rcases error_of_bind failed with first | ⟨_, _, failed⟩
      · exact ⟨x, List.mem_cons_self, first⟩
      · rcases error_of_bind failed with others | ⟨_, _, done⟩
        · obtain ⟨x', member, found⟩ := ih others
          exact ⟨x', List.mem_cons_of_mem _ member, found⟩
        · cases done

end Lists

end PodAddressing
