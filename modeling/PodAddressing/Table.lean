/-!
Tables that keep their entries in the order of arrival. An entry put again keeps its place; one that was
erased and put again goes to the end.
-/

namespace PodAddressing

abbrev Table (κ α : Type) := List (κ × α)

namespace Table
variable {κ α β : Type} [DecidableEq κ]

def get? (t : Table κ α) (k : κ) : Option α := (t.find? (·.1 = k)).map (·.2)

def has (t : Table κ α) (k : κ) : Bool := t.any (·.1 = k)

def put : Table κ α → κ → α → Table κ α
  | [], k, v => [(k, v)]
  | (k', v') :: rest, k, v => if k' = k then (k, v) :: rest else (k', v') :: put rest k v

def erase (t : Table κ α) (k : κ) : Table κ α := t.filter (·.1 ≠ k)

def keys (t : Table κ α) : List κ := t.map (·.1)

def values (t : Table κ α) : List α := t.map (·.2)

def gather (t : Table κ (List α)) (k : κ) (v : α) : Table κ (List α) :=
  t.put k ((t.get? k).getD [] ++ [v])

section Lookup

@[simp] theorem get?_nil (k : κ) : get? ([] : Table κ α) k = none := rfl

theorem get?_cons (k k' : κ) (v : α) (t : Table κ α) :
    get? ((k, v) :: t) k' = if k = k' then some v else get? t k' := by
  by_cases same : k = k' <;> simp [get?, same]

theorem mem_of_get? {t : Table κ α} {k : κ} {v : α} (found : get? t k = some v) : (k, v) ∈ t := by
  induction t with
  | nil => simp at found
  | cons entry rest ih =>
      obtain ⟨k', v'⟩ := entry
      rw [get?_cons] at found
      by_cases same : k' = k
      · simp only [same, ↓reduceIte, Option.some.injEq] at found
        simp [same, found]
      · simp only [same, ↓reduceIte] at found
        exact List.mem_cons_of_mem _ (ih found)

theorem get?_map (t : Table κ α) (f : α → β) (k : κ) :
    get? (t.map fun (k, v) => (k, f v)) k = (get? t k).map f := by
  induction t with
  | nil => rfl
  | cons entry rest ih =>
      obtain ⟨k', v'⟩ := entry
      rw [List.map_cons, get?_cons, get?_cons, ih]
      by_cases same : k' = k <;> simp [same]

theorem get?_put (t : Table κ α) (k : κ) (v : α) (k' : κ) :
    get? (t.put k v) k' = if k = k' then some v else get? t k' := by
  induction t with
  | nil => simp [put, get?_cons]
  | cons entry rest ih =>
      obtain ⟨k'', v''⟩ := entry
      by_cases first : k'' = k
      · subst first
        by_cases same : k'' = k' <;> simp [put, get?_cons, same]
      · simp only [put, first, ↓reduceIte, get?_cons, ih]
        by_cases here : k'' = k'
        · subst here
          simp [Ne.symm first]
        · simp [here]

@[simp] theorem get?_put_self (t : Table κ α) (k : κ) (v : α) : get? (t.put k v) k = some v := by
  simp [get?_put]

theorem get?_put_ne {k k' : κ} (different : k ≠ k') (t : Table κ α) (v : α) :
    get? (t.put k v) k' = get? t k' := by
  simp [get?_put, different]

theorem mem_put {t : Table κ α} {k : κ} {v : α} {entry : κ × α} (member : entry ∈ t.put k v) :
    entry = (k, v) ∨ entry ∈ t := by
  induction t with
  | nil => exact .inl (List.mem_singleton.mp member)
  | cons first rest ih =>
      obtain ⟨k', v'⟩ := first
      by_cases same : k' = k
      · rw [put, if_pos same] at member
        exact (List.mem_cons.mp member).imp_right (List.mem_cons_of_mem _)
      · rw [put, if_neg same] at member
        rcases List.mem_cons.mp member with here | later
        · exact .inr (here ▸ List.mem_cons_self)
        · exact (ih later).imp_right (List.mem_cons_of_mem _)

theorem get?_erase (t : Table κ α) (k k' : κ) :
    get? (t.erase k) k' = if k = k' then none else get? t k' := by
  induction t with
  | nil => simp [erase]
  | cons entry rest ih =>
      obtain ⟨k'', v''⟩ := entry
      have step : erase ((k'', v'') :: rest) k =
          if k'' = k then erase rest k else (k'', v'') :: erase rest k := by
        by_cases same : k'' = k <;> simp [erase, same]
      rw [step]
      by_cases same : k'' = k
      · subst same
        rw [get?_cons]
        by_cases here : k'' = k'
        · simp only [here, ↓reduceIte] at ih ⊢
          exact ih
        · simp only [here, ↓reduceIte] at ih ⊢
          exact ih
      · simp only [same, ↓reduceIte, get?_cons, ih]
        by_cases here : k'' = k'
        · subst here
          simp [Ne.symm same]
        · simp [here]

end Lookup

end Table

end PodAddressing
