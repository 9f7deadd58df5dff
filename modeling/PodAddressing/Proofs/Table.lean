import Mathlib.Data.List.Nodup
import PodAddressing.Table
/-!
What the operations of tables do, seen through `get?`. A table is read by keys as long as it has at most one
entry for each, which every operation keeps so; a group that is erased is a rearrangement away from its place.
-/

namespace PodAddressing.Table
variable {κ α β : Type} [DecidableEq κ]

def Unique (t : Table κ α) : Prop := t.keys.Nodup

section Reading

theorem get?_of_mem {t : Table κ α} (unique : Unique t) {k : κ} {v : α} (member : (k, v) ∈ t) :
    get? t k = some v := by
  induction t with
  | nil => simp at member
  | cons entry rest ih =>
      obtain ⟨k', v'⟩ := entry
      obtain ⟨absent, tail⟩ := List.nodup_cons.mp unique
      rw [get?_cons]
      rcases List.mem_cons.mp member with same | later
      · cases same
        simp
      · have different : k' ≠ k := by
          rintro rfl
          exact absent (List.mem_map.mpr ⟨(k', v), later, rfl⟩)
        simpa [different] using ih tail later

theorem mem_iff_get? {t : Table κ α} (unique : Unique t) {k : κ} {v : α} :
    (k, v) ∈ t ↔ get? t k = some v :=
  ⟨get?_of_mem unique, mem_of_get?⟩

theorem get?_perm {t t' : Table κ α} (unique : Unique t) (same : t.Perm t') (k : κ) : get? t' k = get? t k := by
  have unique' : Unique t' := (same.map Prod.fst).nodup_iff.mp unique
  apply Option.ext
  intro v
  rw [← mem_iff_get? unique', ← mem_iff_get? unique]
  exact same.mem_iff.symm

/-- A table is told by its keys, in their order, and by what is read under them. -/
theorem eq_of_keys {t t' : Table κ α} (unique : Unique t) (keys : t'.keys = t.keys)
    (same : ∀ k, get? t' k = get? t k) : t' = t := by
  have spelled {t : Table κ α} (unique : Unique t) :
      t.map (fun entry => (entry.1, some entry.2)) = t.keys.map fun k => (k, get? t k) := by
    rw [Table.keys, List.map_map]
    exact List.map_congr_left fun entry member => congrArg _ (get?_of_mem unique member).symm
  have unique' : Unique t' := by
    rw [Unique, keys]
    exact unique
  have injective : Function.Injective fun entry : κ × α => (entry.1, some entry.2) := by
    rintro ⟨k, v⟩ ⟨k', v'⟩ equal
    cases equal
    rfl
  apply List.map_injective_iff.mpr injective
  rw [spelled unique', spelled unique, keys]
  exact List.map_congr_left fun k _ => by rw [same]

theorem get?_eq_none_iff {t : Table κ α} {k : κ} : get? t k = none ↔ k ∉ t.keys := by
  induction t with
  | nil => simp [keys]
  | cons entry rest ih =>
      obtain ⟨k', v'⟩ := entry
      rw [get?_cons]
      by_cases same : k' = k
      · simp [keys, same]
      · simp only [same, ↓reduceIte, ih, keys, List.map_cons, List.mem_cons, not_or]
        exact ⟨fun absent => ⟨fun equal => same equal.symm, absent⟩, fun absent => absent.2⟩

theorem has_iff {t : Table κ α} {k : κ} : t.has k = true ↔ ∃ v, get? t k = some v := by
  have reading : t.has k = true ↔ k ∈ t.keys := by
    simp [has, keys]
  rw [reading, ← not_iff_not, ← get?_eq_none_iff, ← Option.not_isSome_iff_eq_none,
    Option.isSome_iff_exists]

theorem mem_values {t : Table κ α} {v : α} (unique : Unique t) :
    v ∈ t.values ↔ ∃ k, get? t k = some v := by
  simp only [values, List.mem_map, Prod.exists, exists_eq_right, mem_iff_get? unique]

theorem get?_filter {t : Table κ α} (unique : Unique t) (p : κ × α → Bool) (k : κ) :
    get? (t.filter p) k = (get? t k).filter (fun v => p (k, v)) := by
  have kept : Unique (t.filter p) := (List.filter_sublist.map Prod.fst).nodup unique
  ext v
  rw [← mem_iff_get? kept, List.mem_filter, mem_iff_get? unique, Option.filter_eq_some_iff]

end Reading

section Changing

theorem keys_put (t : Table κ α) (k : κ) (v : α) :
    (t.put k v).keys = if k ∈ t.keys then t.keys else t.keys ++ [k] := by
  induction t with
  | nil => simp [put, keys]
  | cons entry rest ih =>
      obtain ⟨k', v'⟩ := entry
      by_cases same : k' = k
      · simp [put, keys, same]
      · have other : k ≠ k' := Ne.symm same
        simp only [put, same, ↓reduceIte, keys, List.map_cons] at ih ⊢
        rw [ih]
        by_cases later : k ∈ rest.map Prod.fst <;> simp [later, other]

theorem unique_put {t : Table κ α} (unique : Unique t) (k : κ) (v : α) : Unique (t.put k v) := by
  rw [Unique, keys_put]
  by_cases present : k ∈ t.keys
  · rw [if_pos present]
    exact unique
  · rw [if_neg present]
    exact List.nodup_append.mpr ⟨unique, by simp, by
      intro a member b single
      rw [List.mem_singleton.mp single]
      exact fun same => present (same ▸ member)⟩

omit [DecidableEq κ] in
theorem unique_filter {t : Table κ α} (unique : Unique t) (p : κ × α → Bool) :
    Unique (t.filter p) :=
  (List.filter_sublist.map Prod.fst).nodup unique

theorem unique_erase {t : Table κ α} (unique : Unique t) (k : κ) : Unique (t.erase k) :=
  unique_filter unique _

omit [DecidableEq κ] in
theorem unique_map {t : Table κ α} (unique : Unique t) (f : α → β) :
    Unique (t.map fun (k, v) => (k, f v)) := by
  have same : (t.map fun (k, v) => (k, f v)).map Prod.fst = t.map Prod.fst := by
    simp [Function.comp_def]
  rw [Unique, keys, same]
  exact unique

theorem put_of_absent {t : Table κ α} {k : κ} (absent : get? t k = none) (v : α) :
    t.put k v = t ++ [(k, v)] := by
  induction t with
  | nil => rfl
  | cons entry rest ih =>
      obtain ⟨k', v'⟩ := entry
      rw [get?_cons] at absent
      by_cases same : k' = k
      · simp [same] at absent
      · simp only [same, ↓reduceIte] at absent
        simp [put, same, ih absent]

theorem erase_of_absent {t : Table κ α} {k : κ} (absent : get? t k = none) : t.erase k = t := by
  apply List.filter_eq_self.mpr
  intro entry member
  have other : k ∉ t.keys := get?_eq_none_iff.mp absent
  simp only [ne_eq, decide_not, Bool.not_eq_eq_eq_not, Bool.not_true, decide_eq_false_iff_not]
  rintro rfl
  exact other (List.mem_map.mpr ⟨entry, member, rfl⟩)

theorem erase_put (t : Table κ α) (k : κ) (v : α) : (t.put k v).erase k = t.erase k := by
  induction t with
  | nil => simp [put, erase]
  | cons entry rest ih =>
      obtain ⟨k', v'⟩ := entry
      by_cases same : k' = k
      · simp [put, erase, same]
      · simpa [put, erase, same] using ih

theorem put_put (t : Table κ α) (k : κ) (v w : α) : (t.put k v).put k w = t.put k w := by
  induction t with
  | nil => simp [put]
  | cons entry rest ih =>
      obtain ⟨k', v'⟩ := entry
      by_cases same : k' = k
      · simp [put, same]
      · simp [put, same, ih]

theorem erase_put_ne {k k' : κ} (different : k ≠ k') (t : Table κ α) (v : α) :
    (t.put k v).erase k' = (t.erase k').put k v := by
  induction t with
  | nil => simp [put, erase, different]
  | cons entry rest ih =>
      obtain ⟨k'', v''⟩ := entry
      by_cases same : k'' = k
      · subst same
        simp [put, erase, different]
      · by_cases gone : k'' = k'
        · subst gone
          simpa [put, erase, same] using ih
        · simpa [put, erase, same, gone] using ih

theorem erase_erase (t : Table κ α) (k k' : κ) : (t.erase k).erase k' = (t.erase k').erase k :=
  List.filter_comm _ _ _

theorem put_eq_map {t : Table κ α} (unique : Unique t) {k : κ} {v : α} (found : get? t k = some v) (f : α → α) :
    t.put k (f v) = t.map fun entry => (entry.1, if entry.1 = k then f entry.2 else entry.2) := by
  induction t with
  | nil => cases found
  | cons entry rest ih =>
      obtain ⟨k', v'⟩ := entry
      obtain ⟨absent, tail⟩ := List.nodup_cons.mp unique
      rw [get?_cons] at found
      by_cases same : k' = k
      · subst same
        rw [if_pos rfl] at found
        cases found
        have others : rest.map (fun entry => (entry.1, if entry.1 = k' then f entry.2 else entry.2)) = rest := by
          refine (List.map_congr_left fun entry member => ?_).trans (List.map_id _)
          have other : entry.1 ≠ k' := by
            rintro rfl
            exact absent (List.mem_map.mpr ⟨entry, member, rfl⟩)
          rw [if_neg other]
          rfl
        simp [put, others]
      · rw [if_neg same] at found
        simp [put, same, ih tail found]

theorem perm_erase {t : Table κ α} (unique : Unique t) {k : κ} {v : α} (found : get? t k = some v) :
    t.Perm ((k, v) :: t.erase k) := by
  induction t with
  | nil => simp at found
  | cons entry rest ih =>
      obtain ⟨k', v'⟩ := entry
      obtain ⟨absent, tail⟩ := List.nodup_cons.mp unique
      rw [get?_cons] at found
      by_cases same : k' = k
      · subst same
        simp only [↓reduceIte, Option.some.injEq] at found
        have rest_kept : erase rest k' = rest := erase_of_absent (get?_eq_none_iff.mpr absent)
        have front : erase ((k', v') :: rest) k' = rest := by
          simpa [erase] using rest_kept
        rw [front, found]
      · simp only [same, ↓reduceIte] at found
        have front : erase ((k', v') :: rest) k = (k', v') :: erase rest k := by
          simp [erase, same]
        rw [front]
        exact ((ih tail found).cons _).trans (List.Perm.swap _ _ _)

end Changing

section Groups

theorem get?_gather (t : Table κ (List α)) (k : κ) (v : α) (k' : κ) :
    get? (t.gather k v) k' =
      if k = k' then some ((get? t k).getD [] ++ [v]) else get? t k' :=
  get?_put t k _ k'

theorem members_erase {t : Table κ (List α)} (unique : Unique t) {k : κ} {group : List α}
    (found : get? t k = some group) :
    t.values.flatten.Perm (group ++ (t.erase k).values.flatten) := by
  have moved := ((perm_erase unique found).map Prod.snd).flatten
  simpa [values] using moved

theorem members_put {t : Table κ (List α)} {k : κ} (absent : get? t k = none) (group : List α) :
    (t.put k group).values.flatten = t.values.flatten ++ group := by
  simp [put_of_absent absent, values]

theorem mem_members {t : Table κ (List α)} (unique : Unique t) {v : α} :
    v ∈ t.values.flatten ↔ ∃ k group, get? t k = some group ∧ v ∈ group := by
  simp only [List.mem_flatten, mem_values unique]
  constructor
  · rintro ⟨group, ⟨k, found⟩, member⟩
    exact ⟨k, group, found, member⟩
  · rintro ⟨k, group, found, member⟩
    exact ⟨group, ⟨k, found⟩, member⟩

theorem mem_members_filter {t : Table κ (List α)} (unique : Unique t) {p : κ × List α → Bool} {v : α} :
    v ∈ (values (t.filter p)).flatten ↔ ∃ k group, get? t k = some group ∧ p (k, group) = true ∧ v ∈ group := by
  rw [mem_members (unique_filter unique p)]
  simp only [get?_filter unique, Option.filter_eq_some_iff, and_assoc]

theorem members_gather {t : Table κ (List α)} (unique : Unique t) (k : κ) (v : α) :
    (t.gather k v).values.flatten.Perm (v :: t.values.flatten) := by
  cases found : get? t k with
  | none =>
      simp only [gather, found, members_put found, Option.getD_none, List.nil_append]
      exact List.perm_append_singleton v _
  | some group =>
      have now : get? (t.gather k v) k = some (group ++ [v]) := by
        simp [get?_gather, found]
      have after := members_erase (unique_put unique k _) now
      rw [erase_put] at after
      have before := members_erase unique found
      refine after.trans (List.Perm.trans ?_ (before.symm.cons v))
      exact (List.perm_append_singleton v group).append_right _

omit [DecidableEq κ] in
theorem members_filter (t : Table κ (List α)) (p : κ × List α → Bool) :
    t.values.flatten.Perm ((values (t.filter p)).flatten ++ (values (t.filter (!p ·))).flatten) := by
  have halves := ((List.filter_append_perm p t).map Prod.snd).flatten
  rw [List.map_append, List.flatten_append] at halves
  exact halves.symm

theorem mem_group {t : Table κ (List α)} {k : κ} {v : α} (member : v ∈ (get? t k).getD []) :
    ∃ group, get? t k = some group ∧ v ∈ group := by
  cases found : get? t k with
  | none => simp [found] at member
  | some group =>
      rw [found, Option.getD_some] at member
      exact ⟨group, rfl, member⟩

theorem members_of_key {t : Table κ (List α)} (unique : Unique t) (k : κ) :
    (values (t.filter (·.1 = k))).flatten = (get? t k).getD [] := by
  induction t with
  | nil => rfl
  | cons entry rest ih =>
      obtain ⟨k', group⟩ := entry
      obtain ⟨absent, unique'⟩ := List.nodup_cons.mp unique
      have tail := ih unique'
      rw [get?_cons]
      by_cases same : k' = k
      · subst same
        rw [get?_eq_none_iff.mpr absent] at tail
        rw [List.filter_cons_of_pos (by simp), values, List.map_cons, List.flatten_cons, ← values, tail]
        simp
      · rw [List.filter_cons_of_neg (by simpa using same), if_neg same, tail]

theorem filter_members {t : Table κ (List α)} (unique : Unique t) {k : κ} (p : α → Bool)
    (others : ∀ k' group, get? t k' = some group → k' ≠ k → ∀ v ∈ group, p v = false) :
    t.values.flatten.filter p = ((get? t k).getD []).filter p := by
  induction t with
  | nil => rfl
  | cons entry rest ih =>
      obtain ⟨k', group⟩ := entry
      obtain ⟨absent, unique'⟩ := List.nodup_cons.mp unique
      have rest_others (other : κ) (members : List α) (found : get? rest other = some members)
          (different : other ≠ k) : ∀ v ∈ members, p v = false := by
        apply others other members _ different
        have apart : k' ≠ other := by
          rintro rfl
          exact absent (List.mem_map.mpr ⟨_, mem_of_get? found, rfl⟩)
        rw [get?_cons, if_neg apart]
        exact found
      have tail := ih unique' rest_others
      change (group ++ (values rest).flatten).filter p = _
      rw [List.filter_append, tail, get?_cons]
      by_cases same : k' = k
      · subst same
        have none_left : get? rest k' = none := get?_eq_none_iff.mpr absent
        simp [none_left]
      · have nothing : group.filter p = [] := by
          apply List.filter_eq_nil_iff.mpr
          intro v member
          rw [others k' group (by rw [get?_cons, if_pos rfl]) same v member]
          exact Bool.false_ne_true
        rw [if_neg same, nothing, List.nil_append]

end Groups
end PodAddressing.Table
