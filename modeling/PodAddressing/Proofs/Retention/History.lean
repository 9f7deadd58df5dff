import Mathlib.Data.Set.Card
import PodAddressing.Proofs.Retention.Run
/-!
What happens to the group of an ordinal, as the answers of a store tell it. A group is kept where there is none, it
stays as it is until it is handed over or the store is cleared, and until then it is shown to whoever looks it up.
-/

namespace PodAddressing.Retention
variable {s : Retention} {w : Identity} {key : OrdinalKey} {records : List Record}

section Acts

inductive Act
  | kept (records : List Record)
  | handed (records : List Record)
  | cleared
  deriving DecidableEq, Repr

namespace Act

def kept? : Act → Option (List Record)
  | kept records => some records
  | _ => none

def handed? : Act → Option (List Record)
  | handed records => some records
  | _ => none

/-- A group is kept where there is none, and what is handed over is what was there. -/
def Fits (held : Option (List Record)) : Act → Prop
  | kept _ => held = none
  | handed records => held = some records
  | cleared => True

end Act

-- After an act an ordinal retains what was kept by it, if anything was.
def replay (held : Option (List Record)) (acts : List Act) : Option (List Record) :=
  acts.foldl (fun _ act => act.kept?) held

def Possible : Option (List Record) → List Act → Prop
  | _, [] => True
  | held, act :: rest => act.Fits held ∧ Possible act.kept? rest

/-- Whether acts are possible and lead from one content of an ordinal to another. -/
def Leads (before : Option (List Record)) (acts : List Act) (after : Option (List Record)) : Prop :=
  Possible before acts ∧ replay before acts = after

variable {before middle after : Option (List Record)} {acts first second : List Act}

theorem Leads.refl (held : Option (List Record)) : Leads held [] held := ⟨trivial, rfl⟩

theorem Leads.single {act : Act} (fits : act.Fits before) : Leads before [act] act.kept? := ⟨⟨fits, trivial⟩, rfl⟩

theorem Leads.append (one : Leads before first middle) (other : Leads middle second after) :
    Leads before (first ++ second) after := by
  obtain ⟨possible, rfl⟩ := one
  induction first generalizing before with
  | nil => exact other
  | cons act rest ih =>
      obtain ⟨fits, possible⟩ := possible
      obtain ⟨later, reached⟩ := ih possible other
      exact ⟨⟨fits, later⟩, reached⟩

theorem Possible.handed_sublist (possible : Possible before acts) :
    (acts.filterMap Act.handed?).Sublist (before.toList ++ acts.filterMap Act.kept?) := by
  induction acts generalizing before with
  | nil => exact List.nil_sublist _
  | cons act rest ih =>
      obtain ⟨fits, possible⟩ := possible
      have later := ih possible
      cases act with
      | kept records =>
          cases fits
          exact later
      | handed records =>
          cases fits
          exact later.cons_cons records
      | cleared => exact later.trans (List.sublist_append_right _ _)

end Acts

section Telling

def ofOrdinal (key : OrdinalKey) (records : List Record) : List Record := records.filter (·.key? = some key)

def handover (key : OrdinalKey) (records : List Record) : List Act :=
  if ofOrdinal key records = [] then [] else [.handed (ofOrdinal key records)]

def told (key : OrdinalKey) : Call → Except Fault (Option (List Record)) → List Act
  | _, .error _ => []
  | .retain records, .ok _ =>
      if records ≠ [] ∧ ∀ r ∈ records, r.key? = some key then [.kept records] else []
  | .lookup _, .ok _ => []
  | .take _, .ok found | .purge _, .ok found | .purgeOwner _ _ _, .ok found => handover key (found.getD [])
  | .clear, .ok _ => [.cleared]

def history (key : OrdinalKey) : Retention → List Call → List Act
  | _, [] => []
  | s, call :: rest => told key call (s.apply call).1 ++ history key (s.apply call).2 rest

variable {groups : Table OrdinalKey (List Record)}

theorem ofOrdinal_members (valid : Indexed [] [] groups) (key : OrdinalKey) :
    ofOrdinal key groups.values.flatten = (groups.get? key).getD [] := by
  have others (key' : OrdinalKey) (group : List Record) (found : groups.get? key' = some group)
      (different : key' ≠ key) : ∀ r ∈ group, decide (r.key? = some key) = false := by
    intro r member
    rw [((valid.kept key' group found).2 r member).1]
    simpa using different
  rw [ofOrdinal, Table.filter_members valid.groups_unique _ others]
  refine List.filter_eq_self.mpr fun r member => ?_
  obtain ⟨group, found, member⟩ := Table.mem_group member
  exact decide_eq_true ((valid.kept key group found).2 r member).1

/-- Where groups are handed over, each is as it was kept, and those that stay are as they were. -/
theorem leads_handover (valid : Indexed [] [] groups) (p : OrdinalKey × List Record → Bool) (key : OrdinalKey) :
    Leads (groups.get? key) (handover key (Table.values (groups.filter p)).flatten)
      (Table.get? (groups.filter (!p ·)) key) := by
  rw [handover, ofOrdinal_members (valid.filter_groups p), Table.get?_filter valid.groups_unique,
    Table.get?_filter valid.groups_unique]
  cases found : groups.get? key with
  | none => exact .refl none
  | some group =>
      have some_record := (valid.kept key group found).1
      by_cases leaves : p (key, group) = true
      · have given : Leads (some group) [.handed group] none := .single rfl
        simpa [Option.filter, leaves, some_record] using given
      · simpa [Option.filter, leaves] using Leads.refl (some group)

theorem leads_take (valid : Indexed [] [] groups) (other key : OrdinalKey) :
    Leads (groups.get? key) (handover key ((groups.get? other).getD [])) ((groups.erase other).get? key) := by
  have parted := leads_handover valid (·.1 = other) key
  rw [Table.members_of_key valid.groups_unique] at parted
  simpa only [Table.erase, decide_not] using parted

/-- The answer to a call tells what has become of an ordinal. -/
theorem leads_apply (valid : Indexed [] [] s.groups) (key : OrdinalKey) (call : Call) :
    Leads (s.groups.get? key) (told key call (s.apply call).1) ((s.apply call).2.groups.get? key) := by
  have outcome := ends_apply s call
  generalize s.apply call = result at outcome
  cases outcome with
  | refused => cases call <;> exact .refl _
  | nothing => exact .refl _
  | @kept other records some_record own vacant =>
      have same_iff : (∀ r ∈ records, r.key? = some key) ↔ other = key := by
        obtain ⟨r, rest, rfl⟩ := List.exists_cons_of_ne_nil some_record
        constructor
        · intro all
          exact Option.some.inj ((own r List.mem_cons_self).1.symm.trans (all r List.mem_cons_self))
        · rintro rfl r member
          exact (own r member).1
      simp only [told, some_record, ne_eq, not_false_eq_true, true_and, same_iff, Table.get?_put]
      split
      case isTrue same =>
        subst same
        exact .single vacant
      case isFalse => exact .refl _
  | shown => exact .refl _
  | taken => exact leads_take valid _ key
  | purged => exact leads_take valid _ key
  | ofOwner => exact leads_handover valid _ key
  | cleared => exact .single trivial

theorem leads_run (valid : Indexed [] [] s.groups) (key : OrdinalKey) (calls : List Call) :
    Leads (s.groups.get? key) (history key s calls) ((s.run calls).groups.get? key) := by
  induction calls generalizing s with
  | nil => exact .refl _
  | cons call rest ih => exact (leads_apply valid key call).append (ih (indexed_apply valid call))

end Telling

section Store

/-- Whether records make up a group of an ordinal that no pod has. -/
def IsGroup (key : OrdinalKey) (records : List Record) : Prop :=
  records ≠ [] ∧ ∀ r ∈ records, r.key? = some key ∧ r.binding.isRetained = true

theorem commonKey_eq_error {fault : Fault} (refused : commonKey records = .error fault) :
    ∃ value, fault = .bad value := by
  unfold commonKey at refused
  rcases error_of_bind refused with unkeyed | ⟨keys, given, refused⟩
  · obtain ⟨r, _, failed⟩ := mem_of_mapM_error unkeyed
    unfold Record.key at failed
    split at failed <;> cases failed
    exact ⟨_, rfl⟩
  · dsimp only at refused
    split at refused <;> cases refused
    exact ⟨_, rfl⟩

theorem apply_retain_eq_error_iff {fault : Fault} :
    (s.apply (.retain records)).1 = .error fault ↔ s.retain records = .error fault := by
  change (s.settled ((s.retain records).map (none, ·))).1 = _ ↔ _
  cases s.retain records <;> simp [settled, Except.map]

theorem retain_conflict_iff :
    (∃ conflict podName, s.retain records = .error (.retention conflict podName)) ↔
      ∃ key, IsGroup key records ∧ s.groups.get? key ≠ none := by
  constructor
  · rintro ⟨conflict, podName, refused⟩
    unfold retain at refused
    rcases error_of_bind refused with unkeyed | ⟨common, found, refused⟩
    · obtain ⟨value, same⟩ := commonKey_eq_error unkeyed
      cases same
    · cases common with
      | none => cases refused
      | some key =>
          obtain ⟨some_record, known⟩ := commonKey_eq_ok found
          dsimp only at refused
          split at refused
          case h_1 => cases refused
          case h_2 unbound =>
            have free (r : Record) (member : r ∈ records) : r.binding.isRetained = true := by
              simpa using List.find?_eq_none.mp unbound r member
            split at refused
            case h_1 held occupied =>
              exact ⟨key, ⟨some_record, fun r member => ⟨known r member, free r member⟩⟩, by simp [occupied]⟩
            case h_2 => cases refused
  · rintro ⟨key, ⟨some_record, own⟩, occupied⟩
    obtain ⟨held, present⟩ := Option.ne_none_iff_exists'.mp occupied
    rw [retain_eq some_record (fun r member => (own r member).1) fun r member => (own r member).2, present]
    exact ⟨_, _, rfl⟩

theorem apply_retain_of_vacant (group : IsGroup key records) (vacant : s.groups.get? key = none) :
    (s.apply (.retain records)).1 = .ok none := by
  obtain ⟨some_record, own⟩ := group
  change (s.settled ((s.retain records).map (none, ·))).1 = _
  rw [retain_of_vacant vacant some_record own]
  rfl

theorem key_of_keyOf (keyed : keyOf w = .ok key) : w.key = .ok key := by
  unfold keyOf at keyed
  split at keyed
  case isTrue => cases keyed
  case isFalse =>
    split at keyed
    case h_1 => cases keyed
    case h_2 => cases keyed
    case h_3 ordinal given =>
      rw [Identity.key, given]
      exact keyed

theorem found_of_key (keyed : w.key = .ok key) {found : Option (List Record)}
    (answered : (s.apply (.lookup w)).1 = .ok found ∨ (s.apply (.take w)).1 = .ok found) :
    found = s.groups.get? key := by
  have same {other : OrdinalKey} (known : keyOf w = .ok other) : other = key :=
    Except.ok.inj ((key_of_keyOf known).symm.trans keyed)
  rcases answered with shown | taken
  · obtain ⟨other, known, rfl⟩ := lookup_eq_ok shown
    rw [same known]
  · have outcome := ends_apply s (.take w)
    generalize s.apply (.take w) = result at outcome taken
    cases outcome with
    | refused => cases taken
    | taken known _ =>
        cases taken
        rw [same known]

theorem apply_unmoved {call : Call} (idle : (∃ w, call = .lookup w) ∨ ∃ fault, (s.apply call).1 = .error fault) :
    (s.apply call).2 = s := by
  have outcome := ends_apply s call
  generalize s.apply call = result at outcome idle
  rcases idle with ⟨w, rfl⟩ | ⟨fault, failed⟩
  · cases outcome <;> rfl
  · cases outcome with
    | refused => rfl
    | _ => cases failed

theorem size_eq_ncard (valid : Indexed [] [] s.groups) :
    s.size = {key | s.groups.get? key ≠ none}.ncard := by
  have listed : {key | s.groups.get? key ≠ none} = s.groups.keys.toFinset := by
    ext key
    simp [Table.get?_eq_none_iff]
  rw [listed, Set.ncard_coe_finset, List.toFinset_card_of_nodup valid.groups_unique, Table.keys, List.length_map]
  rfl

end Store

/-- Whether a store is what has happened to its ordinals: what it accepts and refuses, whom it answers, with what. -/
structure Accords (s : Retention) (past : OrdinalKey → List Act) : Prop where
  possible : ∀ key, Possible none (past key)
  once : ∀ key, ((past key).filterMap Act.handed?).Sublist ((past key).filterMap Act.kept?)
  shown : ∀ key w, w.key = .ok key → ∀ found,
    (s.apply (.lookup w)).1 = .ok found ∨ (s.apply (.take w)).1 = .ok found → found = replay none (past key)
  answers : ∀ call found, (s.apply call).1 = .ok (some found) →
    ∀ r ∈ found, ∃ key group, r.key? = some key ∧ replay none (past key) = some group ∧ r ∈ group
  served : ∀ key w, keyOf w = .ok key → OpenTo w.owner.uid ((replay none (past key)).getD []) →
    (s.apply (.lookup w)).1 = .ok (replay none (past key)) ∧ (s.apply (.take w)).1 = .ok (replay none (past key)) ∧
      (s.apply (.purge w)).1 = .ok (some ((replay none (past key)).getD []))
  /-- Of each ordinal a purge of an owner hands over the group that is purged with the owner, and nothing else. -/
  purged : ∀ ns owner keep, ∃ found, (s.apply (.purgeOwner ns owner keep)).1 = .ok (some found) ∧
    ∀ key, ofOrdinal key found =
      ((replay none (past key)).filter fun group => isPurged ns owner keep (key, group)).getD []
  accepts : ∀ key records, IsGroup key records → replay none (past key) = none →
    (s.apply (.retain records)).1 = .ok none
  unmoved : ∀ call, (∃ w, call = .lookup w) ∨ (∃ fault, (s.apply call).1 = .error fault) → (s.apply call).2 = s
  conflict : ∀ records,
    (∃ conflict podName, (s.apply (.retain records)).1 = .error (.retention conflict podName)) ↔
      ∃ key, IsGroup key records ∧ replay none (past key) ≠ none
  size : s.size = {key | replay none (past key) ≠ none}.ncard

/-- Whatever is called, what is handed over of an ordinal is what was kept there last, as it was kept, and each group
once; until then it is what is shown or taken, and nothing else is. Lookups and refusals change nothing, a group is in
conflict just where its ordinal is occupied, and the size counts the ordinals that retain something. -/
theorem neither_lost_nor_doubled (calls : List Call) :
    Accords (({} : Retention).run calls) fun key => history key {} calls := by
  have valid : Indexed [] [] (({} : Retention).run calls).groups := indexed_run .nothing calls
  have leads (key : OrdinalKey) := leads_run .nothing key calls
  generalize ({} : Retention).run calls = s at valid leads
  have held (key : OrdinalKey) : replay none (history key {} calls) = s.groups.get? key := (leads key).2
  exact {
    possible := fun key => (leads key).1
    once := fun key => (leads key).1.handed_sublist
    shown := fun key w keyed found answered => (found_of_key keyed answered).trans (held key).symm
    answers := by
      intro call found answered r member
      obtain ⟨key, group, there, member⟩ := mem_answer valid answered member
      exact ⟨key, group, ((valid.kept key group there).2 r member).1, (held key).trans there, member⟩
    served := by
      intro key w keyed unclashing
      rw [held] at unclashing ⊢
      have taken := take_of_openTo keyed unclashing
      refine ⟨lookup_of_openTo keyed unclashing, ?_, ?_⟩
      · change (s.settled (s.take w)).1 = _
        rw [taken]
        rfl
      · change (s.settled ((s.purge w).map fun left => (some left.1, left.2))).1 = _
        rw [purge, taken]
        rfl
    purged := by
      intro ns owner keep
      refine ⟨_, rfl, fun key => ?_⟩
      rw [held, ← Table.get?_filter valid.groups_unique]
      exact ofOrdinal_members (valid.filter_groups (isPurged ns owner keep)) key
    accepts := by
      intro key records group vacant
      rw [held] at vacant
      exact apply_retain_of_vacant group vacant
    unmoved := fun call => apply_unmoved
    conflict := by
      intro records
      simp only [held, apply_retain_eq_error_iff]
      exact retain_conflict_iff
    size := by
      simp only [held]
      exact size_eq_ncard valid }

section Sample

def waiting : List Record := [
  ⟨"10.0.0.1", .v4, "02:00:00:00:00:09", "four", "pods", "shop",
    ⟨"", "web-0", "", ⟨statefulSetKind, "web", "set-1"⟩, some 0⟩⟩]

def nextPod : Identity := ⟨"shop", "web-0", ⟨statefulSetKind, "web", "set-1"⟩, "u2", "node-1", [statefulSetKind]⟩

example : history ⟨"shop", statefulSetKind, "web", 0⟩ {}
    [.retain waiting, .retain waiting, .lookup nextPod, .take nextPod, .take nextPod, .retain waiting, .clear] =
      [.kept waiting, .handed waiting, .kept waiting, .cleared] := by
  decide +kernel

end Sample

end PodAddressing.Retention
