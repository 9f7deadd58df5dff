import PodAddressing.Proofs.Watch.Watcher
/-!
What a watcher delivers. A look dispatches the changes that are due, each of them once, and nothing else. What is known
is what the deliveries that succeeded have made of nothing, so a change whose handler fails stays due.
-/

namespace PodAddressing

theorem Table.filter_erase {κ α : Type} [DecidableEq κ] {p : κ × α → Bool} {k : κ}
    (out : ∀ v, p (k, v) = false) (t : Table κ α) : (t.erase k).filter p = t.filter p := by
  rw [Table.erase, List.filter_filter]
  apply List.filter_congr
  rintro ⟨k', v⟩ _
  by_cases same : k' = k
  · subst same
    simp [out]
  · simp [same]

namespace Watcher
variable {σ : Type} {dispatch : Dispatch σ} {kind : Kind} {desired known : Known} {state : σ}
variable {key : String} {change : Change Snapshot}

section Due

def keyedChange (known : Known) (entry : String × Snapshot) : Option (String × Change Snapshot) :=
  (changeTo known entry.1 entry.2).map (entry.1, ·)

/-- The changes that lead from what is known to what is listed: those of what is listed, in its order, and then the
withdrawals of what is gone, in some other. -/
def dueIn (order : Known → Known) (desired known : Known) : List (String × Change Snapshot) :=
  desired.filterMap (keyedChange known) ++
    (order (gone desired known)).map fun entry => (entry.1, .deleted entry.2)

def due (desired known : Known) : List (String × Change Snapshot) := dueIn id desired known

theorem dueIn_perm {order : Known → Known} (rearranges : ∀ known, (order known).Perm known) (desired known : Known) :
    (dueIn order desired known).Perm (due desired known) :=
  ((rearranges _).map _).append_left _

theorem mem_gone {obj : Snapshot} (unique : known.Unique) :
    (key, obj) ∈ gone desired known ↔ known.get? key = some obj ∧ desired.get? key = none := by
  have absent : (!desired.has key) = true ↔ desired.get? key = none := by
    rw [Bool.not_eq_true', ← Bool.not_eq_true, Table.has_iff, ← Option.ne_none_iff_exists', not_not]
  rw [gone, List.mem_filter, Table.mem_iff_get? unique, absent]

theorem keyedChange_eq_some {entry : String × Snapshot} :
    keyedChange known entry = some (key, change) ↔ entry.1 = key ∧ known.get? key = change.before? ∧
      change.after? = some entry.2 ∧ change.before? ≠ change.after? := by
  obtain ⟨key', obj⟩ := entry
  simp only [keyedChange, changeTo, Option.map_eq_some_iff, Prod.mk.injEq]
  constructor
  · rintro ⟨found, due, rfl, rfl⟩
    cases had : known.get? key' with
    | none =>
        simp only [had, Option.some.injEq] at due
        subst due
        exact ⟨rfl, rfl, rfl, by simp [Change.before?, Change.after?]⟩
    | some old =>
        simp only [had, Option.ite_none_left_eq_some, Option.some.injEq] at due
        obtain ⟨differs, rfl⟩ := due
        exact ⟨rfl, rfl, rfl, by simpa [Change.before?, Change.after?] using differs⟩
  · rintro ⟨rfl, had, after, differs⟩
    cases change with
    | created new =>
        cases after
        exact ⟨_, by rw [had]; rfl, rfl, rfl⟩
    | updated old new =>
        cases after
        have other : old ≠ obj := by simpa [Change.before?, Change.after?] using differs
        exact ⟨_, by rw [had]; exact if_neg other, rfl, rfl⟩
    | deleted old => cases after

theorem mem_due (unique : known.Unique) (once : desired.Unique) :
    (key, change) ∈ due desired known ↔ known.get? key = change.before? ∧
      desired.get? key = change.after? ∧ change.before? ≠ change.after? := by
  simp only [due, dueIn, id, List.mem_append, List.mem_filterMap, List.mem_map, keyedChange_eq_some]
  constructor
  · rintro (⟨⟨_, obj⟩, listed, rfl, had, after, differs⟩ | ⟨⟨_, obj⟩, listed, same⟩)
    · exact ⟨had, (Table.get?_of_mem once listed).trans after.symm, differs⟩
    · cases same
      obtain ⟨had, unlisted⟩ := (mem_gone unique).mp listed
      exact ⟨had, unlisted, by simp [Change.before?, Change.after?]⟩
  · rintro ⟨had, listed, differs⟩
    cases after : change.after? with
    | some obj =>
        rw [after] at listed
        exact .inl ⟨(key, obj), Table.mem_of_get? listed, rfl, had, rfl, after ▸ differs⟩
    | none =>
        cases change with
        | deleted obj => exact .inr ⟨(key, obj), (mem_gone unique).mpr ⟨had, listed⟩, rfl⟩
        | created obj => cases after
        | updated old new => cases after

theorem nodup_due (unique : known.Unique) (once : desired.Unique) :
    ((due desired known).map Prod.fst).Nodup := by
  have picked (entries : Known) :
      ((entries.filterMap (keyedChange known)).map Prod.fst).Sublist entries.keys := by
    induction entries with
    | nil => exact List.Sublist.refl _
    | cons entry rest ih =>
        cases found : keyedChange known entry with
        | none =>
            rw [List.filterMap_cons_none found]
            exact ih.cons _
        | some found_change =>
            rw [List.filterMap_cons_some found, List.map_cons, (keyedChange_eq_some.mp found).1.symm]
            exact ih.cons_cons _
  have left : ((gone desired known).map fun entry => (entry.1, Change.deleted entry.2)).map Prod.fst =
      (gone desired known).keys := by
    simp [Table.keys, Function.comp_def]
  rw [due, dueIn, id, List.map_append, left]
  refine List.nodup_append.mpr ⟨(picked desired).nodup once, Table.unique_filter unique _, ?_⟩
  rintro key listed _ unlisted rfl
  obtain ⟨⟨_, obj⟩, member, rfl⟩ := List.mem_map.mp unlisted
  exact Table.get?_eq_none_iff.mp ((mem_gone unique).mp member).2 ((picked desired).subset listed)

end Due

section Delivering

structure Delivery where
  key : String
  change : Change Snapshot
  succeeded : Bool
  deriving DecidableEq, Repr

/-- Changes are dispatched one after the other, whatever became of those before. -/
def deliveries (dispatch : Dispatch σ) : List (String × Change Snapshot) → σ → List Delivery × σ
  | [], state => ([], state)
  | (key, change) :: rest, state =>
      let (succeeded, state) := dispatch change state
      let (later, state) := deliveries dispatch rest state
      (⟨key, change, succeeded⟩ :: later, state)

theorem deliveries_cons (change : Change Snapshot) (rest : List (String × Change Snapshot)) :
    deliveries dispatch ((key, change) :: rest) state =
      (⟨key, change, (dispatch change state).1⟩ :: (deliveries dispatch rest (dispatch change state).2).1,
        (deliveries dispatch rest (dispatch change state).2).2) := rfl

theorem deliveries_append (first second : List (String × Change Snapshot)) :
    deliveries dispatch (first ++ second) state =
      ((deliveries dispatch first state).1 ++
          (deliveries dispatch second (deliveries dispatch first state).2).1,
        (deliveries dispatch second (deliveries dispatch first state).2).2) := by
  induction first generalizing state with
  | nil => rfl
  | cons entry rest ih =>
      obtain ⟨key, change⟩ := entry
      rw [List.cons_append, deliveries_cons, ih]
      rfl

theorem deliveries_exact (dispatch : Dispatch σ) (changes : List (String × Change Snapshot)) (state : σ) :
    (deliveries dispatch changes state).1.map (fun d => (d.key, d.change)) = changes := by
  induction changes generalizing state with
  | nil => rfl
  | cons entry rest ih =>
      obtain ⟨key, change⟩ := entry
      rw [deliveries_cons, List.map_cons, ih]

theorem deliveries_keep {Inv : σ → Prop} (keeps : ∀ change state, Inv state → Inv (dispatch change state).2)
    (changes : List (String × Change Snapshot)) (start : Inv state) :
    Inv (deliveries dispatch changes state).2 := by
  induction changes generalizing state with
  | nil => exact start
  | cons entry rest ih =>
      obtain ⟨key, change⟩ := entry
      exact ih (keeps change state start)

namespace Delivery

/-- What is known after a delivery: a failure leaves it as it is. -/
def apply (d : Delivery) (known : Known) : Known :=
  if d.succeeded then d.change.after?.elim (known.erase d.key) (known.put d.key) else known

def noted (d : Delivery) : Change Snapshot × Bool := (d.change, d.succeeded)

theorem get?_apply (d : Delivery) (known : Known) (key : String) :
    (d.apply known).get? key =
      if d.succeeded = true ∧ d.key = key then d.change.after? else known.get? key := by
  unfold apply
  cases d.succeeded with
  | false => simp
  | true =>
      cases d.change.after? with
      | none => simp [Table.get?_erase]
      | some obj => simp [Table.get?_put]

theorem unique_apply (d : Delivery) (unique : known.Unique) : (d.apply known).Unique := by
  unfold apply
  cases d.succeeded with
  | false => exact unique
  | true =>
      cases d.change.after? with
      | none => exact Table.unique_erase unique _
      | some obj => exact Table.unique_put unique _ _

theorem filter_apply {d : Delivery} {p : String × Snapshot → Bool} (out : ∀ obj, p (d.key, obj) = false)
    (known : Known) : (d.apply known).filter p = known.filter p := by
  unfold apply
  cases d.succeeded with
  | false => rfl
  | true =>
      cases d.change.after? with
      | none => exact Table.filter_erase out known
      | some obj => exact Table.filter_put out known obj

end Delivery

def replay (known : Known) (made : List Delivery) : Known := made.foldl (fun known d => d.apply known) known

theorem replay_append (known : Known) (first second : List Delivery) :
    replay known (first ++ second) = replay (replay known first) second :=
  List.foldl_append

theorem unique_replay (unique : known.Unique) (made : List Delivery) : (replay known made).Unique := by
  induction made generalizing known with
  | nil => exact unique
  | cons d rest ih => exact ih (d.unique_apply unique)

theorem replay_perm_of_deleted {made made' : List Delivery} (same : made.Perm made')
    (deleted : ∀ d ∈ made, d.change.after? = none) (known : Known) : replay known made = replay known made' := by
  refine same.foldl_eq' ?_ known
  intro d member d' member' known
  unfold Delivery.apply
  rw [deleted d member, deleted d' member']
  cases d.succeeded with
  | false => rfl
  | true =>
      cases d'.succeeded with
      | false => rfl
      | true => exact Table.erase_erase known d.key d'.key

theorem get?_replay_of_failed {made : List Delivery}
    (failed : ∀ d ∈ made, d.key = key → d.succeeded = false) :
    (replay known made).get? key = known.get? key := by
  induction made generalizing known with
  | nil => rfl
  | cons d rest ih =>
      obtain ⟨first, others⟩ := List.forall_mem_cons.mp failed
      refine (ih others).trans ((d.get?_apply known key).trans (if_neg ?_))
      rintro ⟨succeeded, here⟩
      rw [first here] at succeeded
      cases succeeded

theorem get?_replay_of_succeeded {made : List Delivery} (once : (made.map Delivery.key).Nodup)
    (succeeded : ∀ d ∈ made, d.succeeded = true) {d : Delivery} (member : d ∈ made) :
    (replay known made).get? d.key = d.change.after? := by
  induction made generalizing known with
  | nil => cases member
  | cons first rest ih =>
      obtain ⟨absent, once'⟩ := List.nodup_cons.mp once
      obtain ⟨now, later⟩ := List.forall_mem_cons.mp succeeded
      rcases List.mem_cons.mp member with rfl | member
      · have other : ∀ d' ∈ rest, d'.key = d.key → d'.succeeded = false := fun d' member' same =>
          absurd (List.mem_map.mpr ⟨d', member', same⟩) absent
        exact (get?_replay_of_failed other).trans ((d.get?_apply known d.key).trans (if_pos ⟨now, rfl⟩))
      · exact ih once' later member

theorem known_of_succeeded (unique : known.Unique) (once : desired.Unique) {made : List Delivery}
    (all : (made.map fun d => (d.key, d.change)).Perm (due desired known))
    (succeeded : ∀ d ∈ made, d.succeeded = true) (key : String) :
    (replay known made).get? key = desired.get? key := by
  have keys : (made.map Delivery.key).Nodup := by
    have same := all.map Prod.fst
    rw [List.map_map] at same
    exact same.nodup_iff.mpr (nodup_due unique once)
  by_cases changed : ∃ d ∈ made, d.key = key
  · obtain ⟨d, member, rfl⟩ := changed
    obtain ⟨_, listed, _⟩ := (mem_due unique once).mp (all.subset (List.mem_map_of_mem member))
    rw [get?_replay_of_succeeded keys succeeded member, listed]
  · rw [get?_replay_of_failed fun d member here => absurd ⟨d, member, here⟩ changed]
    by_contra differs
    have change : ∃ change, known.get? key = Change.before? change ∧ desired.get? key = change.after? := by
      cases had : known.get? key with
      | none =>
          cases listed : desired.get? key with
          | none => exact absurd (had.trans listed.symm) differs
          | some obj => exact ⟨.created obj, rfl, rfl⟩
      | some old =>
          cases desired.get? key with
          | none => exact ⟨.deleted old, rfl, rfl⟩
          | some obj => exact ⟨.updated old obj, rfl, rfl⟩
    obtain ⟨change, had, listed⟩ := change
    have missing := (mem_due unique once).mpr ⟨had, listed, fun same => differs (had.trans (same.trans listed.symm))⟩
    obtain ⟨d, member, same⟩ := List.mem_map.mp (all.symm.subset missing)
    exact changed ⟨d, member, (Prod.mk.inj same).1⟩

end Delivering

section Comparing

theorem deliver_eq (known : Known) (state : σ) (entry : String × Snapshot) :
    deliver dispatch known state entry =
      (replay known (deliveries dispatch (keyedChange known entry).toList state).1,
        (deliveries dispatch (keyedChange known entry).toList state).2) := by
  obtain ⟨key, obj⟩ := entry
  unfold deliver
  dsimp only
  cases found : changeTo known key obj with
  | none =>
      have nothing : keyedChange known (key, obj) = none := by simp [keyedChange, found]
      rw [nothing]
      rfl
  | some change =>
      have keyed : keyedChange known (key, obj) = some (key, change) := by simp [keyedChange, found]
      obtain ⟨_, _, after, _⟩ := keyedChange_eq_some.mp keyed
      rw [keyed]
      change _ = (Delivery.apply ⟨key, change, _⟩ known, _)
      rw [Delivery.apply, after]
      rfl

theorem mem_deliveries {changes : List (String × Change Snapshot)} {d : Delivery}
    (made : d ∈ (deliveries dispatch changes state).1) : (d.key, d.change) ∈ changes := by
  rw [← deliveries_exact dispatch changes state]
  exact List.mem_map_of_mem made

theorem deliverAll_eq {entries : Known} (once : entries.Unique) (known : Known) (state : σ) :
    entries.foldl (fun r entry => deliver dispatch r.1 r.2 entry) (known, state) =
      (replay known (deliveries dispatch (entries.filterMap (keyedChange known)) state).1,
        (deliveries dispatch (entries.filterMap (keyedChange known)) state).2) := by
  induction entries generalizing known state with
  | nil => rfl
  | cons entry rest ih =>
      obtain ⟨absent, once'⟩ := List.nodup_cons.mp once
      have parts : (entry :: rest).filterMap (keyedChange known) =
          (keyedChange known entry).toList ++ rest.filterMap (keyedChange known) := by
        rw [List.filterMap_cons]
        cases keyedChange known entry <;> rfl
      have same : rest.filterMap (keyedChange (deliver dispatch known state entry).1) =
          rest.filterMap (keyedChange known) := by
        apply List.filterMap_congr
        intro later member
        have still : (deliver dispatch known state entry).1.get? later.1 = known.get? later.1 := by
          rw [deliver_eq]
          apply get?_replay_of_failed
          intro d made here
          have own := (keyedChange_eq_some.mp (Option.mem_toList.mp (mem_deliveries made))).1
          exact absurd (List.mem_map.mpr ⟨later, member, (own.trans here).symm⟩) absent
        rw [keyedChange, keyedChange, changeTo, changeTo, still]
      rw [List.foldl_cons, ih once', same, parts, deliveries_append, replay_append, deliver_eq]

theorem withdrawAll_eq (entries known : Known) (state : σ) :
    entries.foldl (fun r entry => withdraw dispatch r.1 r.2 entry) (known, state) =
      (replay known (deliveries dispatch (entries.map fun entry => (entry.1, .deleted entry.2)) state).1,
        (deliveries dispatch (entries.map fun entry => (entry.1, .deleted entry.2)) state).2) := by
  induction entries generalizing known state with
  | nil => rfl
  | cons entry rest ih =>
      rw [List.foldl_cons, ih]
      rfl

theorem gone_after_listed (once : desired.Unique) (known : Known) (state : σ) :
    gone desired (replay known (deliveries dispatch (desired.filterMap (keyedChange known)) state).1) =
      gone desired known := by
  have left (made : List Delivery) (listed : ∀ d ∈ made, desired.has d.key = true) :
      gone desired (replay known made) = gone desired known := by
    induction made generalizing known with
    | nil => rfl
    | cons d rest ih =>
        obtain ⟨first, others⟩ := List.forall_mem_cons.mp listed
        exact (ih (d.apply known) others).trans (d.filter_apply (by simp [first]) known)
  apply left
  intro d made
  obtain ⟨⟨key, obj⟩, member, found⟩ := List.mem_filterMap.mp (mem_deliveries made)
  have here : key = d.key := (keyedChange_eq_some.mp found).1
  exact Table.has_iff.mpr ⟨obj, here ▸ Table.get?_of_mem once member⟩

/-- A comparison delivers what is due, and no more. -/
theorem compareIn_eq (once : desired.Unique) (order : Known → Known) (known : Known) (state : σ) :
    compareIn dispatch order desired known state =
      (replay known (deliveries dispatch (dueIn order desired known) state).1,
        (deliveries dispatch (dueIn order desired known) state).2) := by
  rw [dueIn, deliveries_append, replay_append]
  unfold compareIn
  dsimp only
  rw [deliverAll_eq once, withdrawAll_eq, gone_after_listed once]

theorem compare_eq (once : desired.Unique) (known : Known) (state : σ) :
    compare dispatch desired known state =
      (replay known (deliveries dispatch (due desired known) state).1,
        (deliveries dispatch (due desired known) state).2) :=
  compareIn_eq once id known state

theorem deliveries_recorded (changes : List (String × Change Snapshot)) (state : σ) (log : Log) :
    deliveries (recorded dispatch) changes (state, log) =
      ((deliveries dispatch changes state).1, (deliveries dispatch changes state).2,
        log ++ (deliveries dispatch changes state).1.map Delivery.noted) := by
  induction changes generalizing state log with
  | nil => simp [deliveries]
  | cons entry rest ih =>
      obtain ⟨key, change⟩ := entry
      rw [deliveries_cons, deliveries_cons, recorded, ih]
      simp [Delivery.noted]

/-- If all handlers succeed, what is known is what is listed. -/
theorem known_of_faultless (unique : known.Unique) (once : desired.Unique) {log : Log}
    (faultless : Log.Faultless (compare (recorded dispatch) desired known (state, log)).2.2) (key : String) :
    (compare dispatch desired known state).1.get? key = desired.get? key := by
  rw [compare_eq once, deliveries_recorded] at faultless
  rw [compare_eq once]
  refine known_of_succeeded unique once (.of_eq (deliveries_exact dispatch _ state)) (fun d member => ?_) key
  exact (List.forall_mem_append.mp faultless).2 d.noted (List.mem_map_of_mem member)

end Comparing

section Chains

end Chains

section Looking

/-- A look at whatever the file has become, with the order in which it withdraws what is gone. -/
structure Look where
  file : Option ByteArray
  order : Known → Known
  rearranges : ∀ known, (order known).Perm known

def Look.plain (file : Option ByteArray) : Look := ⟨file, id, fun _ => .refl _⟩

variable {l : Look} {looks : List Look} {r : Known × σ}

/-- What is known after a look, and the state of the handlers. A look that fails changes nothing. -/
def look (dispatch : Dispatch σ) (kind : Kind) (r : Known × σ) (l : Look) : Known × σ :=
  (pollIn dispatch l.order kind l.file r.1 r.2).toOption.getD r

def watch (dispatch : Dispatch σ) (kind : Kind) (r : Known × σ) (looks : List Look) : Known × σ :=
  looks.foldl (look dispatch kind) r

def delivered (dispatch : Dispatch σ) (kind : Kind) (r : Known × σ) (l : Look) : List Delivery :=
  match Listing.ofFile kind l.file with
  | .ok (some desired) => (deliveries dispatch (dueIn l.order desired r.1) r.2).1
  | _ => []

def history (dispatch : Dispatch σ) (kind : Kind) (r : Known × σ) : List Look → List Delivery
  | [] => []
  | l :: rest => delivered dispatch kind r l ++ history dispatch kind (look dispatch kind r l) rest

theorem look_of_listed (listed : Listing.ofFile kind l.file = .ok (some desired)) :
    look dispatch kind r l = compareIn dispatch l.order desired r.1 r.2 := by
  rw [look, pollIn, listed]
  rfl

theorem look_of_unlisted (unlisted : ∀ desired, Listing.ofFile kind l.file ≠ .ok (some desired)) :
    look dispatch kind r l = r := by
  rw [look, pollIn]
  cases read : Listing.ofFile kind l.file with
  | error fault => rfl
  | ok listed =>
      cases listed with
      | none => rfl
      | some desired => exact absurd read (unlisted desired)

theorem delivered_of_listed (listed : Listing.ofFile kind l.file = .ok (some desired)) :
    delivered dispatch kind r l = (deliveries dispatch (dueIn l.order desired r.1) r.2).1 := by
  rw [delivered, listed]

theorem delivered_of_unlisted (unlisted : ∀ desired, Listing.ofFile kind l.file ≠ .ok (some desired)) :
    delivered dispatch kind r l = [] := by
  rw [delivered]
  split
  case h_1 desired listed => exact absurd listed (unlisted desired)
  case h_2 => rfl

theorem look_known (r : Known × σ) (l : Look) :
    (look dispatch kind r l).1 = replay r.1 (delivered dispatch kind r l) := by
  by_cases lists : ∃ desired, Listing.ofFile kind l.file = .ok (some desired)
  · obtain ⟨desired, listed⟩ := lists
    rw [look_of_listed listed, delivered_of_listed listed, compareIn_eq (Listing.unique_ofFile listed)]
  · rw [not_exists] at lists
    rw [look_of_unlisted lists, delivered_of_unlisted lists]
    rfl

theorem watch_known (r : Known × σ) (looks : List Look) :
    (watch dispatch kind r looks).1 = replay r.1 (history dispatch kind r looks) := by
  induction looks generalizing r with
  | nil => rfl
  | cons l rest ih => rw [history, replay_append, ← look_known, ← ih, watch, List.foldl_cons, watch]

theorem mem_dueIn (l : Look) (unique : known.Unique) (once : desired.Unique) :
    (key, change) ∈ dueIn l.order desired known ↔ known.get? key = change.before? ∧
      desired.get? key = change.after? ∧ change.before? ≠ change.after? :=
  (dueIn_perm l.rearranges desired known).mem_iff.trans (mem_due unique once)

end Looking

section Mirroring

variable {past : List Delivery}

def listFile (items : String) : Option ByteArray := some ("\x7b\"items\": [" ++ items ++ "]\x7d").toUTF8

def webEntry : String := "\x7b\"name\": \"web\", \"replicas\": 2\x7d"

def webListed : Snapshot := .statefulSet ⟨"default", "web", "", 2⟩

end Mirroring

end Watcher
end PodAddressing
