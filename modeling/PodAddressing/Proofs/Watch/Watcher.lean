import PodAddressing.Proofs.Basic
import PodAddressing.Proofs.Table
import PodAddressing.Watch
/-!
What a look at a file does, said once: the changes that it can find, and what is known if their handlers succeed.
What is proved of every such change holds of a whole look, and of any number of them.
-/

namespace PodAddressing

namespace Listing
variable {kind : Kind} {desired desired' : Table String Snapshot}

theorem unique_add {entry : Json} (unique : desired.Unique) (added : add kind desired entry = .ok desired') :
    desired'.Unique := by
  unfold add at added
  dsimp only at added
  split at added
  case h_1 key obj _ =>
    cases added
    exact Table.unique_put unique key obj
  case h_2 =>
    split at added
    · cases added
      exact unique
    · cases added

theorem unique_addAll {items : List Json} (unique : desired.Unique)
    (added : items.foldlM (add kind) desired = .ok desired') : desired'.Unique := by
  induction items generalizing desired with
  | nil =>
      cases added
      exact unique
  | cons entry rest ih =>
      obtain ⟨next, first, others⟩ := ok_of_bind added
      exact ih (unique_add unique first) others

theorem unique_ofFile {file : Option ByteArray} (read : ofFile kind file = .ok (some desired)) :
    desired.Unique := by
  unfold ofFile at read
  split at read
  case h_1 => cases read
  case h_2 =>
    split at read
    case h_1 => cases read
    case h_2 => cases read
    case h_3 =>
      split at read
      case h_1 => cases read
      case h_2 items _ =>
        obtain ⟨listed, added, same⟩ := ok_of_map read
        cases same
        have empty : Table.Unique ([] : Table String Snapshot) := List.nodup_nil
        exact unique_addAll empty added

end Listing

def Change.before? {α : Type} : Change α → Option α
  | .created _ => none
  | .updated old _ => some old
  | .deleted obj => some obj

def Change.after? {α : Type} : Change α → Option α
  | .created obj => some obj
  | .updated _ new => some new
  | .deleted _ => none

namespace Watcher
variable {σ τ : Type} {dispatch : Dispatch σ} {desired known next : Known} {state : σ}

/-- The changes that can be found for a key, and what is known once they are handled. -/
inductive Found (desired known : Known) (key : String) : Change Snapshot → Known → Prop
  | created {obj : Snapshot} (absent : known.get? key = none) (listed : (key, obj) ∈ desired) :
      Found desired known key (.created obj) (known.put key obj)
  | updated {old obj : Snapshot} (had : known.get? key = some old) (listed : (key, obj) ∈ desired)
      (differs : old ≠ obj) : Found desired known key (.updated old obj) (known.put key obj)
  | deleted {obj : Snapshot} (had : known.get? key = some obj) (unlisted : desired.get? key = none) :
      Found desired known key (.deleted obj) (known.erase key)

theorem Found.unique {key : String} {change : Change Snapshot} (found : Found desired known key change next)
    (unique : known.Unique) : next.Unique := by
  cases found with
  | created absent listed => exact Table.unique_put unique _ _
  | updated had listed differs => exact Table.unique_put unique _ _
  | deleted had unlisted => exact Table.unique_erase unique _

namespace Found
variable {key : String} {change : Change Snapshot}

theorem before (found : Found desired known key change next) : known.get? key = change.before? := by
  cases found with
  | created absent listed => exact absent
  | updated had listed differs => exact had
  | deleted had unlisted => exact had

theorem after (found : Found desired known key change next) (key' : String) :
    next.get? key' = if key = key' then change.after? else known.get? key' := by
  cases found with
  | created absent listed => exact Table.get?_put known key _ key'
  | updated had listed differs => exact Table.get?_put known key _ key'
  | deleted had unlisted => exact Table.get?_erase known key key'

theorem listed (found : Found desired known key change next) {obj : Snapshot}
    (after : change.after? = some obj) : (key, obj) ∈ desired := by
  cases found with
  | created absent listed =>
      cases after
      exact listed
  | updated had listed differs =>
      cases after
      exact listed
  | deleted had unlisted => cases after

end Found

def handled (dispatch : Dispatch σ) (change : Change Snapshot) (next known : Known) (state : σ) : Known × σ :=
  (if (dispatch change state).1 then next else known, (dispatch change state).2)

theorem deliver_cases (dispatch : Dispatch σ) (known : Known) (state : σ) {key : String} {obj : Snapshot}
    (listed : (key, obj) ∈ desired) :
    (known.get? key = some obj ∧ deliver dispatch known state (key, obj) = (known, state)) ∨
      ∃ change, Found desired known key change (known.put key obj) ∧
        deliver dispatch known state (key, obj) =
          handled dispatch change (known.put key obj) known state := by
  have delivered (change : Change Snapshot) (due : changeTo known key obj = some change) :
      deliver dispatch known state (key, obj) =
        handled dispatch change (known.put key obj) known state := by
    simp only [deliver, due]
    rfl
  cases had : known.get? key with
  | none => exact .inr ⟨_, .created had listed, delivered _ (by simp [changeTo, had])⟩
  | some old =>
      by_cases same : old = obj
      · subst same
        exact .inl ⟨rfl, by simp [deliver, changeTo, had]⟩
      · exact .inr ⟨_, .updated had listed same, delivered _ (by simp [changeTo, had, same])⟩

section Keeping
variable {Inv : Known → σ → Prop}

def Keeps (dispatch : Dispatch σ) (desired : Known) (Inv : Known → σ → Prop) : Prop :=
  ∀ {known next key change} (state : σ), known.Unique → Found desired known key change next →
    Inv known state →
    Inv (handled dispatch change next known state).1 (handled dispatch change next known state).2

theorem handled_keeps {key : String} {change : Change Snapshot} (keeps : Keeps dispatch desired Inv)
    (unique : known.Unique) (start : Inv known state) (found : Found desired known key change next) :
    (handled dispatch change next known state).1.Unique ∧
      Inv (handled dispatch change next known state).1 (handled dispatch change next known state).2 := by
  refine ⟨?_, keeps state unique found start⟩
  unfold handled
  split
  · exact found.unique unique
  · exact unique

theorem deliver_keeps (keeps : Keeps dispatch desired Inv) (unique : known.Unique)
    (start : Inv known state) {key : String} {obj : Snapshot} (listed : (key, obj) ∈ desired) :
    (deliver dispatch known state (key, obj)).1.Unique ∧
      Inv (deliver dispatch known state (key, obj)).1 (deliver dispatch known state (key, obj)).2 := by
  rcases deliver_cases dispatch known state listed with ⟨_, same⟩ | ⟨change, found, delivered⟩
  · rw [same]
    exact ⟨unique, start⟩
  · rw [delivered]
    exact handled_keeps keeps unique start found

theorem deliverAll_keeps (keeps : Keeps dispatch desired Inv) (unique : known.Unique)
    (start : Inv known state) {entries : Known} (listed : ∀ entry ∈ entries, entry ∈ desired) :
    let result := entries.foldl (fun r entry => deliver dispatch r.1 r.2 entry) (known, state)
    result.1.Unique ∧ Inv result.1 result.2 := by
  induction entries generalizing known state with
  | nil => exact ⟨unique, start⟩
  | cons entry rest ih =>
      obtain ⟨first, others⟩ := List.forall_mem_cons.mp listed
      obtain ⟨unique', start'⟩ := deliver_keeps keeps unique start first
      exact ih unique' start' others

theorem withdrawAll_keeps (keeps : Keeps dispatch desired Inv) (unique : known.Unique)
    (start : Inv known state) {gone : Known} (once : gone.Unique)
    (still : ∀ key obj, (key, obj) ∈ gone → known.get? key = some obj)
    (unlisted : ∀ key obj, (key, obj) ∈ gone → desired.get? key = none) :
    let result := gone.foldl (fun r entry => withdraw dispatch r.1 r.2 entry) (known, state)
    result.1.Unique ∧ Inv result.1 result.2 := by
  induction gone generalizing known state with
  | nil => exact ⟨unique, start⟩
  | cons entry rest ih =>
      obtain ⟨key, obj⟩ := entry
      obtain ⟨absent, once'⟩ := List.nodup_cons.mp once
      have found : Found desired known key (.deleted obj) (known.erase key) :=
        .deleted (still key obj List.mem_cons_self) (unlisted key obj List.mem_cons_self)
      obtain ⟨unique', start'⟩ := handled_keeps keeps unique start found
      refine ih unique' start' once' ?_
        fun key' obj' member => unlisted key' obj' (List.mem_cons_of_mem _ member)
      intro key' obj' member
      have other : key ≠ key' := by
        rintro rfl
        exact absent (List.mem_map.mpr ⟨(key, obj'), member, rfl⟩)
      have before := still key' obj' (List.mem_cons_of_mem _ member)
      dsimp only
      split
      · rw [Table.get?_erase, if_neg other, before]
      · exact before

theorem compare_keeps (keeps : Keeps dispatch desired Inv) (unique : known.Unique)
    (start : Inv known state) :
    (compare dispatch desired known state).1.Unique ∧
      Inv (compare dispatch desired known state).1 (compare dispatch desired known state).2 := by
  have listed : ∀ entry ∈ desired, entry ∈ desired := fun _ member => member
  obtain ⟨unique', middle⟩ := deliverAll_keeps keeps unique start listed
  refine withdrawAll_keeps keeps unique' middle (Table.unique_filter unique' _) ?_ ?_
  · intro key obj member
    exact Table.get?_of_mem unique' (List.mem_filter.mp member).1
  · intro key obj member
    obtain ⟨_, absent⟩ := List.mem_filter.mp member
    cases listed : desired.get? key with
    | none => rfl
    | some obj => simp [Table.has_iff.mpr ⟨obj, listed⟩] at absent

end Keeping

section Mapping

/-- A dispatch that does the same to a part of a state finds the same changes. -/
theorem compare_map {dispatch' : Dispatch τ} (f : σ → τ)
    (same : ∀ change state, dispatch' change (f state) = (dispatch change state).map id f)
    (desired known : Known) (state : σ) :
    compare dispatch' desired known (f state) = (compare dispatch desired known state).map id f := by
  have alike (change : Change Snapshot) (next known : Known) (state : σ) :
      handled dispatch' change next known (f state) =
        (handled dispatch change next known state).map id f := by
    unfold handled
    rw [same]
    rfl
  have delivered (r : Known × σ) (entry : String × Snapshot) :
      deliver dispatch' r.1 (f r.2) entry = (deliver dispatch r.1 r.2 entry).map id f := by
    obtain ⟨key, obj⟩ := entry
    unfold deliver
    dsimp only
    cases changeTo r.1 key obj with
    | none => rfl
    | some change => exact alike change (r.1.put key obj) r.1 r.2
  have withdrawn (r : Known × σ) (entry : String × Snapshot) :
      withdraw dispatch' r.1 (f r.2) entry = (withdraw dispatch r.1 r.2 entry).map id f :=
    alike (.deleted entry.2) (r.1.erase entry.1) r.1 r.2
  have first (r : Known × σ) :
      desired.foldl (fun r entry => deliver dispatch' r.1 r.2 entry) (r.1, f r.2) =
        (desired.foldl (fun r entry => deliver dispatch r.1 r.2 entry) r).map id f :=
    List.foldl_hom (Prod.map id f) fun r entry => delivered r entry
  have second (gone : Known) (r : Known × σ) :
      gone.foldl (fun r entry => withdraw dispatch' r.1 r.2 entry) (r.1, f r.2) =
        (gone.foldl (fun r entry => withdraw dispatch r.1 r.2 entry) r).map id f :=
    List.foldl_hom (Prod.map id f) fun r entry => withdrawn r entry
  unfold compare compareIn
  dsimp only
  rw [first (known, state)]
  exact second _ _

end Mapping

section Recording

abbrev Log := List (Change Snapshot × Bool)

def Log.Faultless (log : Log) : Prop := ∀ entry ∈ log, entry.2 = true

instance (log : Log) : Decidable log.Faultless :=
  inferInstanceAs (Decidable (∀ entry ∈ log, entry.2 = true))

/-- A dispatch that also notes what it does. -/
def recorded (dispatch : Dispatch σ) : Dispatch (σ × Log) := fun change state =>
  ((dispatch change state.1).1, (dispatch change state.1).2,
    state.2 ++ [(change, (dispatch change state.1).1)])

theorem compare_recorded (dispatch : Dispatch σ) (desired known : Known) (state : σ) (log : Log) :
    (compare (recorded dispatch) desired known (state, log)).map id Prod.fst =
      compare dispatch desired known state :=
  (compare_map Prod.fst (fun _ _ => rfl) desired known (state, log)).symm

theorem compare_recorded_eq (dispatch : Dispatch σ) (desired known : Known) (state : σ) (log : Log) :
    compare (recorded dispatch) desired known (state, log) =
      ((compare dispatch desired known state).1, (compare dispatch desired known state).2,
        log ++ (compare (recorded dispatch) desired known (state, [])).2.2) := by
  have same (change : Change Snapshot) (state : σ × Log) :
      recorded dispatch change (Prod.map id (log ++ ·) state) =
        (recorded dispatch change state).map id (Prod.map id (log ++ ·)) := by
    simp [recorded, List.append_assoc]
  have after := compare_map (Prod.map id (log ++ ·)) same desired known (state, [])
  have nothing : Prod.map id (log ++ ·) (state, ([] : Log)) = (state, log) := by simp
  rw [nothing] at after
  rw [← compare_recorded dispatch desired known state [], after]
  rfl

theorem handled_faultless {change : Change Snapshot} {state : σ × Log}
    (faultless : Log.Faultless (handled (recorded dispatch) change next known state).2.2) :
    Log.Faultless state.2 ∧ (handled (recorded dispatch) change next known state).1 = next := by
  obtain ⟨before, last⟩ := List.forall_mem_append.mp faultless
  exact ⟨before, if_pos (last _ (List.mem_singleton_self _))⟩

end Recording

end Watcher

/-!
What a file lists. Its entries are read one by one, and those that are spoilt are left out. Of the entries with one
key the last one counts, in the place of the first.
-/

namespace Table
variable {κ α : Type} [DecidableEq κ]

def ofEntries (entries : List (κ × α)) : Table κ α :=
  entries.foldl (fun t entry => t.put entry.1 entry.2) []

theorem get?_append (first second : Table κ α) (k : κ) :
    get? (first ++ second) k = (get? first k).or (get? second k) := by
  rw [get?, List.find?_append, Option.map_or]
  rfl

theorem get?_puts (t : Table κ α) (entries : List (κ × α)) (k : κ) :
    get? (entries.foldl (fun t entry => t.put entry.1 entry.2) t) k =
      (get? entries.reverse k).or (get? t k) := by
  induction entries generalizing t with
  | nil => rfl
  | cons entry rest ih =>
      obtain ⟨k', v⟩ := entry
      have last : get? (t.put k' v) k = (get? [(k', v)] k).or (get? t k) := by
        rw [get?_put, get?_cons]
        by_cases same : k' = k <;> simp [same]
      rw [List.foldl_cons, ih, last, List.reverse_cons, get?_append, Option.or_assoc]

theorem get?_ofEntries (entries : List (κ × α)) (k : κ) :
    get? (ofEntries entries) k = get? entries.reverse k := by
  rw [ofEntries, get?_puts, get?_nil, Option.or_none]

theorem unique_ofEntries (entries : List (κ × α)) : (ofEntries entries).Unique := by
  have puts (t : Table κ α) (unique : t.Unique) :
      Unique (entries.foldl (fun t entry => t.put entry.1 entry.2) t) := by
    induction entries generalizing t with
    | nil => exact unique
    | cons entry rest ih => exact ih _ (unique_put unique entry.1 entry.2)
  exact puts [] List.nodup_nil

theorem has_ofEntries {entries : List (κ × α)} {k : κ} :
    (ofEntries entries).has k = true ↔ ∃ v, (k, v) ∈ entries := by
  rw [has_iff, get?_ofEntries]
  constructor
  · rintro ⟨v, found⟩
    exact ⟨v, List.mem_reverse.mp (mem_of_get? found)⟩
  · rintro ⟨v, member⟩
    apply Option.ne_none_iff_exists'.mp
    intro absent
    exact get?_eq_none_iff.mp absent (List.mem_map.mpr ⟨(k, v), List.mem_reverse.mpr member, rfl⟩)

theorem filter_put {p : κ × α → Bool} {k : κ} (out : ∀ v, p (k, v) = false) (t : Table κ α) (v : α) :
    (t.put k v).filter p = t.filter p := by
  induction t with
  | nil => simp [put, out]
  | cons entry rest ih =>
      obtain ⟨k', v'⟩ := entry
      by_cases same : k' = k
      · subst same
        simp [put, out]
      · simp [put, same, List.filter_cons, ih]

end Table

namespace Listing
variable {kind : Kind} {items : List Json} {desired : Table String Snapshot}

def read (kind : Kind) (entry : Json) : Except Fault (String × Snapshot) := do
  let obj ← Snapshot.ofJson kind entry
  let key ← Snapshot.keyOf entry
  pure (key, obj)

/-- An entry that can be read, or that is left out if it cannot. -/
def Tame (kind : Kind) (entry : Json) : Prop :=
  ∀ fault, read kind entry = .error fault → fault.spoilsEntryOnly = true

def entries (kind : Kind) (items : List Json) : List (String × Snapshot) :=
  items.filterMap fun entry => (read kind entry).toOption

theorem mem_entries {key : String} {obj : Snapshot} :
    (key, obj) ∈ entries kind items ↔ ∃ entry ∈ items, read kind entry = .ok (key, obj) := by
  simp only [entries, List.mem_filterMap, toOption_eq_some_iff]

theorem add_of_read {entry : Json} {key : String} {obj : Snapshot} (said : read kind entry = .ok (key, obj)) :
    add kind desired entry = .ok (desired.put key obj) := by
  unfold read at said
  unfold add
  dsimp only
  rw [said]

theorem add_of_fault {entry : Json} {fault : Fault} (said : read kind entry = .error fault) :
    add kind desired entry = if fault.spoilsEntryOnly then .ok desired else .error fault := by
  unfold read at said
  unfold add
  dsimp only
  rw [said]

theorem add_eq_ok_iff {entry : Json} {desired' : Table String Snapshot} :
    add kind desired entry = .ok desired' ↔ Tame kind entry ∧
      desired' = (entries kind [entry]).foldl (fun t entry => t.put entry.1 entry.2) desired := by
  unfold Tame entries
  rw [List.filterMap_cons, List.filterMap_nil]
  cases said : read kind entry with
  | ok found =>
      rw [add_of_read said]
      simp only [reduceCtorEq, false_implies, implies_true, true_and]
      exact ok_eq_ok_iff
  | error fault =>
      rw [add_of_fault said]
      by_cases spoilt : fault.spoilsEntryOnly = true
      · simp only [spoilt, ↓reduceIte, Except.error.injEq, forall_eq', true_and]
        exact ok_eq_ok_iff
      · simp [spoilt]

theorem addAll_eq_ok_iff {desired' : Table String Snapshot} :
    items.foldlM (add kind) desired = .ok desired' ↔ (∀ entry ∈ items, Tame kind entry) ∧
      desired' = (entries kind items).foldl (fun t entry => t.put entry.1 entry.2) desired := by
  induction items generalizing desired with
  | nil =>
      simp only [List.not_mem_nil, false_implies, implies_true, true_and]
      exact ok_eq_ok_iff
  | cons entry rest ih =>
      have parts : entries kind (entry :: rest) = entries kind [entry] ++ entries kind rest :=
        List.filterMap_append (l := [entry])
      rw [List.foldlM_cons, parts, List.foldl_append, List.forall_mem_cons, and_assoc]
      constructor
      · intro added
        obtain ⟨next, first, others⟩ := ok_of_bind added
        obtain ⟨tame, rfl⟩ := add_eq_ok_iff.mp first
        exact ⟨tame, ih.mp others⟩
      · rintro ⟨tame, others⟩
        rw [add_eq_ok_iff.mpr ⟨tame, rfl⟩]
        exact ih.mpr others

def itemsOf (file : Option ByteArray) : Option (List Json) :=
  file.bind fun bytes => (Document.ofBytes bytes).toOption.bind items?

/-- What a file lists is what its entries say, if each of them is read or left out. -/
theorem ofFile_eq_some_iff {file : Option ByteArray} :
    ofFile kind file = .ok (some desired) ↔ ∃ items, itemsOf file = some items ∧
      (∀ entry ∈ items, Tame kind entry) ∧ desired = .ofEntries (entries kind items) := by
  have listed (items : List Json) :
      (ofItems kind items).map some = .ok (some desired) ↔
        (∀ entry ∈ items, Tame kind entry) ∧ desired = .ofEntries (entries kind items) := by
    rw [Table.ofEntries, ← addAll_eq_ok_iff, ofItems]
    cases items.foldlM (add kind) ([] : Table String Snapshot) <;> simp [Except.map]
  cases file with
  | none => simp [ofFile, itemsOf]
  | some bytes =>
      unfold ofFile itemsOf
      dsimp only [Option.bind_some]
      cases Document.ofBytes bytes with
      | error fault => cases fault <;> simp [Except.toOption]
      | ok document =>
          dsimp only [Except.toOption, Option.bind_some]
          cases items? document with
          | none => simp
          | some items => simp [listed]

end Listing
end PodAddressing
