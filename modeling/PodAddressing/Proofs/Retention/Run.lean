import PodAddressing.Proofs.Allocator.Indexes
import PodAddressing.Proofs.Retention
import PodAddressing.Retention
/-!
The calls of a store, one case for each way in which a call can end. Whatever is called, every group stays filed under
the ordinal of its records.
-/

namespace PodAddressing.Retention
variable {s s' : Retention} {w : Identity} {key : OrdinalKey} {records : List Record}

section Owners

/-- Whether no record of a group is known to be of another owner than the one with this UID. -/
def OpenTo (uid : String) (records : List Record) : Prop :=
  ∀ r ∈ records, Owner.uidsClash uid r.binding.owner.uid = false

theorem openTo_of_lookup {found : Option (List Record)} (answered : s.lookup w = .ok found) :
    OpenTo w.owner.uid (found.getD []) := by
  unfold lookup at answered
  obtain ⟨key, _, answered⟩ := ok_of_bind answered
  split at answered
  case h_1 =>
    cases answered
    simp [OpenTo]
  case h_2 kept _ =>
    obtain ⟨_, checked, answered⟩ := ok_of_bind answered
    cases answered
    unfold checkOwner at checked
    split at checked
    case h_1 => cases checked
    case h_2 unclashing =>
      intro r member
      simpa using List.find?_eq_none.mp unclashing r member

theorem openTo_of_take {found : Option (List Record)} (answered : s.take w = .ok (found, s')) :
    OpenTo w.owner.uid (found.getD []) := by
  unfold take at answered
  obtain ⟨key, _, answered⟩ := ok_of_bind answered
  obtain ⟨kept, looked, answered⟩ := ok_of_bind answered
  have unclashing := openTo_of_lookup looked
  split at answered
  all_goals
    cases answered
    exact unclashing

theorem lookup_of_openTo (keyed : keyOf w = .ok key) (unclashing : OpenTo w.owner.uid ((s.groups.get? key).getD [])) :
    s.lookup w = .ok (s.groups.get? key) := by
  rw [lookup, keyed]
  simp only [bind, Except.bind]
  cases found : s.groups.get? key with
  | none => rfl
  | some records =>
      rw [found, Option.getD_some] at unclashing
      have none_foreign : foreign? w records = none :=
        List.find?_eq_none.mpr fun r member => by simp [unclashing r member]
      simp only [checkOwner, none_foreign]
      rfl

theorem take_of_openTo (keyed : keyOf w = .ok key) (unclashing : OpenTo w.owner.uid ((s.groups.get? key).getD [])) :
    s.take w = .ok (s.groups.get? key, ⟨s.groups.erase key⟩) := by
  rw [take, keyed]
  simp only [bind, Except.bind, lookup_of_openTo keyed unclashing]
  cases found : s.groups.get? key with
  | none =>
      rw [Table.erase_of_absent found]
      rfl
  | some records => rfl

end Owners

section Outcomes

inductive Ends (s : Retention) : Call → Except Fault (Option (List Record)) × Retention → Prop
  | refused {call : Call} {fault : Fault} : Ends s call (.error fault, s)
  | nothing : Ends s (.retain []) (.ok none, s)
  | kept {key : OrdinalKey} {records : List Record} (some_record : records ≠ [])
      (own : ∀ r ∈ records, r.key? = some key ∧ r.binding.isRetained = true)
      (vacant : s.groups.get? key = none) :
      Ends s (.retain records) (.ok none, ⟨s.groups.put key records⟩)
  | shown {w : Identity} {key : OrdinalKey} (keyed : keyOf w = .ok key)
      (unclashing : OpenTo w.owner.uid ((s.groups.get? key).getD [])) :
      Ends s (.lookup w) (.ok (s.groups.get? key), s)
  | taken {w : Identity} {key : OrdinalKey} (keyed : keyOf w = .ok key)
      (unclashing : OpenTo w.owner.uid ((s.groups.get? key).getD [])) :
      Ends s (.take w) (.ok (s.groups.get? key), ⟨s.groups.erase key⟩)
  | purged {w : Identity} {key : OrdinalKey} (keyed : keyOf w = .ok key)
      (unclashing : OpenTo w.owner.uid ((s.groups.get? key).getD [])) :
      Ends s (.purge w) (.ok (some ((s.groups.get? key).getD [])), ⟨s.groups.erase key⟩)
  | ofOwner {ns : String} {owner : Owner} {keep : Option Int} :
      Ends s (.purgeOwner ns owner keep)
        (.ok (some (Table.values (s.groups.filter (isPurged ns owner keep))).flatten),
          ⟨s.groups.filter (!isPurged ns owner keep ·)⟩)
  | cleared : Ends s .clear (.ok none, {})

theorem ends_settled {call : Call} {answer : Except Fault (Option (List Record) × Retention)}
    (answered : ∀ found next, answer = .ok (found, next) → Ends s call (.ok found, next)) :
    Ends s call (s.settled answer) := by
  cases answer with
  | error fault => exact .refused
  | ok given => exact answered given.1 given.2 rfl

theorem ends_apply (s : Retention) (call : Call) : Ends s call (s.apply call) := by
  cases call with
  | retain records =>
      refine ends_settled fun found next given => ?_
      obtain ⟨store, taken, answer⟩ := ok_of_map given
      cases answer
      rcases retain_eq_ok taken with ⟨rfl, rfl⟩ | ⟨key, some_record, own, vacant, rfl⟩
      · exact .nothing
      · exact .kept some_record own vacant
  | lookup w =>
      change Ends s (.lookup w) (s.lookup w, s)
      cases answer : s.lookup w with
      | error fault => exact .refused
      | ok found =>
          have unclashing := openTo_of_lookup answer
          obtain ⟨key, keyed, rfl⟩ := lookup_eq_ok answer
          exact .shown keyed unclashing
  | take w =>
      refine ends_settled fun found next given => ?_
      have unclashing := openTo_of_take given
      obtain ⟨key, keyed, rfl, rfl⟩ := take_eq_ok given
      exact .taken keyed unclashing
  | purge w =>
      refine ends_settled fun found next given => ?_
      obtain ⟨⟨records, store⟩, purged, answer⟩ := ok_of_map given
      cases answer
      obtain ⟨⟨taken, rest⟩, took, same⟩ := ok_of_map purged
      cases same
      have unclashing := openTo_of_take took
      obtain ⟨key, keyed, rfl, rfl⟩ := take_eq_ok took
      exact .purged keyed unclashing
  | purgeOwner ns owner keep => exact .ofOwner
  | clear => exact .cleared

end Outcomes

section Filing
variable {active : Table String (List Record)} {holders : Table OrdinalKey String}

theorem indexed_apply (valid : Indexed active holders s.groups) (call : Call) :
    Indexed active holders (s.apply call).2.groups := by
  have outcome := ends_apply s call
  generalize s.apply call = result at outcome
  cases outcome with
  | refused => exact valid
  | nothing => exact valid
  | kept some_record own vacant =>
      refine valid.put_group some_record fun r member => ?_
      obtain ⟨known, free⟩ := own r member
      simp only [Binding.isRetained, Bool.and_eq_true, beq_iff_eq] at free
      exact ⟨known, free⟩
  | shown => exact valid
  | taken => exact valid.filter_groups _
  | purged => exact valid.filter_groups _
  | ofOwner => exact valid.filter_groups _
  | cleared => simpa using valid.filter_groups fun _ => false

theorem indexed_run (valid : Indexed active holders s.groups) (calls : List Call) :
    Indexed active holders (s.run calls).groups := by
  induction calls generalizing s with
  | nil => exact valid
  | cons call rest ih => exact ih (indexed_apply valid call)

theorem mem_answer (valid : Indexed active holders s.groups) {call : Call} {found : List Record}
    (answered : (s.apply call).1 = .ok (some found)) {r : Record} (member : r ∈ found) :
    ∃ key group, s.groups.get? key = some group ∧ r ∈ group := by
  have outcome := ends_apply s call
  generalize s.apply call = result at outcome answered
  cases outcome with
  | refused => cases answered
  | nothing => cases answered
  | kept => cases answered
  | shown => exact ⟨_, found, Except.ok.inj answered, member⟩
  | taken => exact ⟨_, found, Except.ok.inj answered, member⟩
  | @purged w key =>
      cases answered
      exact ⟨key, Table.mem_group member⟩
  | ofOwner =>
      cases answered
      obtain ⟨key, group, found, _, member⟩ := (Table.mem_members_filter valid.groups_unique).mp member
      exact ⟨key, group, found, member⟩
  | cleared => cases answered

end Filing

/-!
Owners of what is retained. A call in the name of an owner leaves alone what is known to be of another, with one
exception: where ordinals are purged with their owner, a group is judged by its first record.
-/

variable {call : Call} {r : Record}

section Touching

def Call.ownerUID : Call → String
  | lookup w | take w | purge w => w.owner.uid
  | purgeOwner _ owner _ => owner.uid
  | retain _ | clear => ""

/-- Whether a call returns a record, or removes it from the store. -/
def Touches (s : Retention) (call : Call) (r : Record) : Prop :=
  (∃ found, (s.apply call).1 = .ok (some found) ∧ r ∈ found) ∨
    (r ∈ s.records ∧ r ∉ (s.apply call).2.records)

/-- Whether a call that names the UID of an owner touches no record with the UID of another one. -/
def Spares (s : Retention) (call : Call) : Prop :=
  call.ownerUID ≠ "" →
    ∀ r, s.Touches call r → r.binding.owner.uid = "" ∨ r.binding.owner.uid = call.ownerUID

/-- Whether a purge of an owner meets a group in which a record of another owner stands behind a first record that is
not known to be of another one. -/
def Overlooks (s : Retention) : Call → Prop
  | .purgeOwner ns owner keep => ∃ key first rest, s.groups.get? key = some (first :: rest) ∧
      key.ns = ns ∧ key.kind = owner.kind ∧ key.owner = owner.name ∧ (∀ replicas ∈ keep, replicas ≤ key.index) ∧
      Owner.uidsClash owner.uid first.binding.owner.uid = false ∧
      ∃ r ∈ rest, Owner.uidsClash owner.uid r.binding.owner.uid = true
  | _ => False

theorem spares_iff_openTo : s.Spares call ↔
    ∀ r, s.Touches call r → Owner.uidsClash call.ownerUID r.binding.owner.uid = false := by
  unfold Spares
  rw [← forall_comm]
  refine forall_congr' fun r => ?_
  rw [← forall_comm]
  refine forall_congr' fun touched => ?_
  simp only [Owner.uidsClash, Bool.and_eq_false_iff, decide_eq_false_iff_not, not_not]
  tauto

variable {groups : Table OrdinalKey (List Record)}

theorem mem_left {p : OrdinalKey × List Record → Bool} (listed : r ∈ groups.values.flatten)
    (gone : r ∉ (Table.values (groups.filter (!p ·))).flatten) : r ∈ (Table.values (groups.filter p)).flatten := by
  rcases List.mem_append.mp ((Table.members_filter groups p).mem_iff.mp listed) with left | stayed
  · exact left
  · exact absurd stayed gone

theorem mem_taken (unique : groups.Unique) (listed : r ∈ groups.values.flatten)
    (gone : r ∉ (groups.erase key).values.flatten) : r ∈ (groups.get? key).getD [] := by
  have others : (groups.filter fun entry => !decide (entry.1 = key)) = groups.erase key := by
    simp only [Table.erase, decide_not]
  rw [← Table.members_of_key unique]
  exact mem_left listed (others ▸ gone)

end Touching

section Sparing

theorem touches_purgeOwner (unique : s.groups.Unique) {ns : String} {owner : Owner} {keep : Option Int} :
    s.Touches (.purgeOwner ns owner keep) r ↔
      ∃ key group, s.groups.get? key = some group ∧ isPurged ns owner keep (key, group) = true ∧ r ∈ group := by
  rw [← Table.mem_members_filter unique]
  constructor
  · rintro (⟨found, answer, member⟩ | ⟨listed, gone⟩)
    · cases answer
      exact member
    · exact mem_left listed gone
  · exact fun member => .inl ⟨_, rfl, member⟩

theorem spares_of_key (unique : s.groups.Unique) (single : ∀ ns owner keep, call ≠ .purgeOwner ns owner keep) :
    s.Spares call := by
  rw [spares_iff_openTo]
  rintro r touched
  have outcome := ends_apply s call
  unfold Touches at touched
  generalize s.apply call = result at outcome touched
  cases outcome with
  | refused => simp at touched
  | nothing => simp at touched
  | kept some_record own vacant => simp [Call.ownerUID, Owner.uidsClash]
  | cleared => simp [Call.ownerUID, Owner.uidsClash]
  | ofOwner => exact absurd rfl (single _ _ _)
  | shown keyed unclashing =>
      rcases touched with ⟨found, answer, member⟩ | ⟨listed, gone⟩
      · refine unclashing r ?_
        rw [Except.ok.inj answer]
        exact member
      · exact absurd listed gone
  | taken keyed unclashing =>
      rcases touched with ⟨found, answer, member⟩ | ⟨listed, gone⟩
      · refine unclashing r ?_
        rw [Except.ok.inj answer]
        exact member
      · exact unclashing r (mem_taken unique listed gone)
  | purged keyed unclashing =>
      rcases touched with ⟨found, answer, member⟩ | ⟨listed, gone⟩
      · cases answer
        exact unclashing r member
      · exact unclashing r (mem_taken unique listed gone)

/-- After any calls, a call spares the records of other owners unless it is a purge of an owner that overlooks one. -/
theorem spares_iff (calls : List Call) (call : Call) :
    (({} : Retention).run calls).Spares call ↔ ¬ (({} : Retention).run calls).Overlooks call := by
  have valid : Indexed [] [] (({} : Retention).run calls).groups := indexed_run .nothing calls
  generalize ({} : Retention).run calls = s at valid
  have unique := valid.groups_unique
  cases call with
  | purgeOwner ns owner keep =>
      rw [spares_iff_openTo]
      simp only [touches_purgeOwner unique, isPurged_iff, Call.ownerUID]
      constructor
      · rintro spares ⟨key, first, rest, found, ns, kind, name, below, first_open, r, member, clashing⟩
        have spared := spares r ⟨key, _, found, ⟨ns, kind, name, below, first_open⟩, List.mem_cons_of_mem _ member⟩
        rw [clashing] at spared
        cases spared
      · rintro sighted r ⟨key, group, found, ⟨ns, kind, name, below, first_open⟩, member⟩
        obtain ⟨first, rest, rfl⟩ := List.exists_cons_of_ne_nil (valid.kept key group found).1
        by_contra clashing
        rcases List.mem_cons.mp member with rfl | later
        · exact clashing first_open
        · exact sighted ⟨key, first, rest, found, ns, kind, name, below, first_open, r, later, by simpa using clashing⟩
  | _ => exact iff_of_true (spares_of_key unique (by simp)) not_false

def inherited : List Record := [
  ⟨"10.0.0.1", .v4, "02:00:00:00:00:09", "four", "pods", "shop",
    ⟨"", "web-0", "", ⟨statefulSetKind, "web", "set-1"⟩, some 0⟩⟩,
  ⟨"fd00::1", .v6, "02:00:00:00:00:09", "six", "pods", "shop",
    ⟨"", "web-0", "", ⟨statefulSetKind, "web", "set-2"⟩, some 0⟩⟩]

theorem inherited_not_spared :
    ¬ (({} : Retention).run [.retain inherited]).Spares (.purgeOwner "shop" ⟨statefulSetKind, "web", "set-1"⟩ none) := by
  intro spares
  have returned : ((({} : Retention).run [.retain inherited]).apply
      (.purgeOwner "shop" ⟨statefulSetKind, "web", "set-1"⟩ none)).1 = .ok (some inherited) := by
    rfl
  have spared (r : Record) (member : r ∈ inherited) :
      r.binding.owner.uid = "" ∨ r.binding.owner.uid = "set-1" :=
    spares (by decide) r (.inl ⟨inherited, returned, member⟩)
  exact absurd spared (by decide)

end Sparing

end PodAddressing.Retention
