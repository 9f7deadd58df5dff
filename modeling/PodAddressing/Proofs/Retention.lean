import PodAddressing.Proofs.Basic
import PodAddressing.Proofs.Table
import PodAddressing.Proofs.Text.Digits
import PodAddressing.Retention
/-!
The store of retained groups, one spec lemma an operation: what a call that answers has found and removed, and
when a group is taken in.
-/

namespace PodAddressing

namespace Record
variable (r : Record)

@[simp] theorem unbound_key? : r.unbound.key? = r.key? := rfl

@[simp] theorem boundTo_key? (podUID podName nodeName : String) :
    (r.boundTo podUID podName nodeName).key? = r.key? := rfl

theorem key_of_key? {key : OrdinalKey} (known : r.key? = some key) : r.key = .ok key := by
  rw [Record.key, known]

theorem index_of_key? {r : Record} {key : OrdinalKey} (known : r.key? = some key) :
    r.binding.index = some key.index ∧ r.keyAt key.index = key := by
  obtain ⟨index, read, rfl⟩ := Option.map_eq_some_iff.mp known
  exact ⟨read, rfl⟩

theorem isStateful_iff : r.isStateful = true ↔ ∃ key, r.key? = some key := by
  simp [isStateful, key?, Option.isSome_iff_exists]

end Record

section Ordinals
variable {w : Identity} {key : OrdinalKey} {podName : String} {n : Int}

theorem ordinalOf_eq_ok (read : ordinalOf podName = .ok (some n)) :
    ∃ digits, digits.all Text.isDigit = true ∧ Number.readInteger digits = .ok n := by
  unfold ordinalOf at read
  split at read
  case h_1 => cases read
  case h_2 suffix _ =>
    split at read
    case isTrue => cases read
    case isFalse digits =>
      obtain ⟨n, spelled, same⟩ := ok_of_map read
      cases same
      simp only [Bool.or_eq_true, Bool.not_eq_true', not_or, Bool.not_eq_false] at digits
      refine ⟨suffix, digits.2, ?_⟩
      unfold Json.integerOfText at spelled
      rw [String.toList_ofList] at spelled
      cases answer : Number.readInteger suffix with
      | error fault =>
          rw [answer] at spelled
          cases spelled
      | ok n =>
          rw [answer] at spelled
          cases spelled
          rfl

theorem Identity.ordinal_of_statefulKey? (stateful : w.statefulKey? = .ok (some key)) :
    ordinalOf w.podName = .ok (some key.index) := by
  obtain ⟨index, found, named⟩ := ok_of_map stateful
  obtain ⟨ordinal, rfl, rfl⟩ := Option.map_eq_some_iff.mp named
  unfold Identity.index at found
  split at found
  · exact found
  · cases found

theorem Identity.nonneg_of_statefulKey? (stateful : w.statefulKey? = .ok (some key)) : 0 ≤ key.index := by
  obtain ⟨digits, all, read⟩ := ordinalOf_eq_ok (ordinal_of_statefulKey? stateful)
  apply Number.readInteger_nonneg _ read
  intro sign
  have digit := List.all_eq_true.mp all '-' sign
  exact absurd digit (by decide)

end Ordinals

theorem Retention.keyOf_eq_ok_iff {w : Identity} {key : OrdinalKey} :
    keyOf w = .ok key ↔ w.statefulKey? = .ok (some key) := by
  unfold keyOf Identity.statefulKey? Identity.index
  by_cases owned : w.isOwnedByStateful = true
  · cases given : w.ordinal with
    | error fault => simp [owned, Except.map]
    | ok found => cases found <;> simp [owned, Except.map]
  · simp [owned, Except.map]

namespace Retention
variable {s s' : Retention} {w : Identity} {key : OrdinalKey} {records : List Record}

theorem lookup_eq_ok {found : Option (List Record)} (answered : s.lookup w = .ok found) :
    ∃ key, keyOf w = .ok key ∧ s.groups.get? key = found := by
  unfold lookup at answered
  obtain ⟨key, known, answered⟩ := ok_of_bind answered
  refine ⟨key, known, ?_⟩
  split at answered
  case h_1 absent =>
    cases answered
    exact absent
  case h_2 kept present =>
    obtain ⟨_, _, answered⟩ := ok_of_bind answered
    cases answered
    exact present

theorem take_eq_ok {found : Option (List Record)} (answered : s.take w = .ok (found, s')) :
    ∃ key, keyOf w = .ok key ∧ s.groups.get? key = found ∧ s' = ⟨s.groups.erase key⟩ := by
  unfold take at answered
  obtain ⟨key, known, answered⟩ := ok_of_bind answered
  obtain ⟨kept, looked, answered⟩ := ok_of_bind answered
  obtain ⟨key', known', present⟩ := lookup_eq_ok looked
  have same : key' = key := by
    rw [known] at known'
    exact (Except.ok.inj known').symm
  subst same
  refine ⟨key', known, ?_⟩
  split at answered
  case h_1 =>
    cases answered
    exact ⟨present, by rw [Table.erase_of_absent present]⟩
  case h_2 =>
    cases answered
    exact ⟨present, rfl⟩

theorem purge_eq_ok (answered : s.purge w = .ok (records, s')) :
    ∃ key, keyOf w = .ok key ∧ records = (s.groups.get? key).getD [] ∧
      s' = ⟨s.groups.erase key⟩ := by
  obtain ⟨⟨found, rest⟩, taken, given⟩ := ok_of_map answered
  obtain ⟨key, known, present, left⟩ := take_eq_ok taken
  cases given
  exact ⟨key, known, by rw [present], left⟩

theorem mapM_key {keys : List OrdinalKey} (known : records.map Record.key? = keys.map some) :
    records.mapM Record.key = .ok keys := by
  induction records generalizing keys with
  | nil =>
      cases keys with
      | nil => rfl
      | cons => cases known
  | cons r rest ih =>
      cases keys with
      | nil => cases known
      | cons k ks =>
          obtain ⟨first, others⟩ := List.cons.inj known
          rw [List.mapM_cons, r.key_of_key? first, ih others]
          rfl

theorem mapM_key_eq_ok {keys : List OrdinalKey} (given : records.mapM Record.key = .ok keys) :
    records.map Record.key? = keys.map some := by
  induction records generalizing keys with
  | nil =>
      cases given
      rfl
  | cons r rest ih =>
      rw [List.mapM_cons] at given
      obtain ⟨key, first, given⟩ := ok_of_bind given
      obtain ⟨others, later, given⟩ := ok_of_bind given
      cases given
      have known : r.key? = some key := by
        unfold Record.key at first
        split at first
        case h_1 known =>
          cases first
          exact known
        case h_2 => cases first
      rw [List.map_cons, List.map_cons, known, ih later]

theorem commonKey_eq {keys : List OrdinalKey} (known : records.map Record.key? = keys.map some) :
    commonKey records =
      match keys.eraseDups with
      | [] => .ok none
      | [key] => .ok (some key)
      | keys => .error (.bad (.mixedWorkloads (OrdinalKey.sorted keys))) := by
  rw [commonKey, mapM_key known]
  rfl

theorem commonKey_of_key (some_record : records ≠ []) (known : ∀ r ∈ records, r.key? = some key) :
    commonKey records = .ok (some key) := by
  have spelled : records.map Record.key? = (records.map fun _ => key).map some := by
    rw [List.map_map]
    exact List.map_congr_left known
  have once : (records.map fun _ => key).eraseDups = [key] := by
    apply eraseDups_of_all_eq
    · simpa using some_record
    · simp
  rw [commonKey_eq spelled, once]

theorem commonKey_eq_ok (common : commonKey records = .ok (some key)) :
    records ≠ [] ∧ ∀ r ∈ records, r.key? = some key := by
  have whole := common
  unfold commonKey at common
  obtain ⟨keys, given, _⟩ := ok_of_bind common
  have listed := mapM_key_eq_ok given
  rw [commonKey_eq listed] at whole
  split at whole
  case h_1 => cases whole
  case h_2 only =>
    cases whole
    constructor
    · rintro rfl
      cases List.map_eq_nil_iff.mp listed.symm
      cases only
    · intro r member
      have inside : r.key? ∈ keys.map some := listed ▸ List.mem_map_of_mem member
      obtain ⟨k, present, same⟩ := List.mem_map.mp inside
      have once := List.mem_eraseDups.mpr present
      rw [only, List.mem_singleton] at once
      rw [← same, once]
  case h_3 => cases whole

theorem commonKey_eq_none (common : commonKey records = .ok none) : records = [] := by
  have whole := common
  unfold commonKey at common
  obtain ⟨keys, given, _⟩ := ok_of_bind common
  have listed := mapM_key_eq_ok given
  rw [commonKey_eq listed] at whole
  split at whole
  case h_1 nothing =>
    cases keys with
    | nil => exact List.map_eq_nil_iff.mp listed
    | cons key rest => simp [List.eraseDups_cons] at nothing
  case h_2 => cases whole
  case h_3 => cases whole

/-- Stateful records of several ordinals have no common key, and no call says otherwise. -/
theorem commonKey_of_mixed (some_record : records ≠ [])
    (stateful : ∀ r ∈ records, r.isStateful = true)
    (mixed : ¬ ∃ key, ∀ r ∈ records, r.key? = some key) :
    ∃ value, commonKey records = .error (.bad value) := by
  obtain ⟨keys, listed⟩ : ∃ keys : List OrdinalKey, records.map Record.key? = keys.map some := by
    clear mixed some_record
    induction records with
    | nil => exact ⟨[], rfl⟩
    | cons r rest ih =>
        obtain ⟨first, others⟩ := List.forall_mem_cons.mp stateful
        obtain ⟨key, known⟩ := r.isStateful_iff.mp first
        obtain ⟨keys, tail⟩ := ih others
        exact ⟨key :: keys, by simp [known, tail]⟩
  have key_mem : ∀ r ∈ records, ∃ k ∈ keys.eraseDups, r.key? = some k := by
    intro r member
    have inside : r.key? ∈ keys.map some := listed ▸ List.mem_map_of_mem member
    obtain ⟨k, present, same⟩ := List.mem_map.mp inside
    exact ⟨k, List.mem_eraseDups.mpr present, same.symm⟩
  rw [commonKey_eq listed]
  -- With no key there would be no record, and one key would be common to all.
  cases distinct : keys.eraseDups with
  | nil =>
      obtain ⟨r, rest, rfl⟩ := List.exists_cons_of_ne_nil some_record
      obtain ⟨k, present, _⟩ := key_mem r List.mem_cons_self
      simp [distinct] at present
  | cons key others =>
      cases others with
      | nil =>
          refine absurd ⟨key, fun r member => ?_⟩ mixed
          obtain ⟨k, present, same⟩ := key_mem r member
          rw [distinct, List.mem_singleton] at present
          rw [same, present]
      | cons second rest => exact ⟨_, rfl⟩

/-- A group of one ordinal, all unbound, is taken in unless the ordinal holds something already. -/
theorem retain_eq (some_record : records ≠ []) (known : ∀ r ∈ records, r.key? = some key)
    (free : ∀ r ∈ records, r.binding.isRetained = true) :
    s.retain records =
      match s.groups.get? key with
      | some held =>
          .error (.retention (.occupied key (held.map (·.address)))
            ((records.head?.map (·.binding.podName)).getD ""))
      | none => .ok ⟨s.groups.put key records⟩ := by
  have unbound : (records.find? fun r => !r.binding.isRetained) = none := by
    apply List.find?_eq_none.mpr
    intro r member
    simp [free r member]
  rw [retain, commonKey_of_key some_record known]
  simp only [bind, Except.bind, unbound]
  rfl

theorem retain_eq_ok (taken : s.retain records = .ok s') :
    (records = [] ∧ s' = s) ∨
      ∃ key, records ≠ [] ∧ (∀ r ∈ records, r.key? = some key ∧ r.binding.isRetained = true) ∧
        s.groups.get? key = none ∧ s' = ⟨s.groups.put key records⟩ := by
  unfold retain at taken
  obtain ⟨common, found, taken⟩ := ok_of_bind taken
  cases common with
  | none =>
      cases taken
      exact .inl ⟨commonKey_eq_none found, rfl⟩
  | some key =>
      obtain ⟨some_record, known⟩ := commonKey_eq_ok found
      simp only at taken
      split at taken
      case h_1 => cases taken
      case h_2 unbound =>
        split at taken
        case h_1 => cases taken
        case h_2 vacant =>
          cases taken
          have free (r : Record) (member : r ∈ records) : r.binding.isRetained = true := by
            simpa using List.find?_eq_none.mp unbound r member
          exact .inr ⟨key, some_record, fun r member => ⟨known r member, free r member⟩, vacant, rfl⟩

theorem retain_of_key (some_record : records ≠ []) (known : ∀ r ∈ records, r.key? = some key)
    (free : ∀ r ∈ records, r.binding.isRetained = true) :
    (s.groups.get? key = none ∧ s.retain records = .ok ⟨s.groups.put key records⟩) ∨
      ∃ held, s.groups.get? key = some held ∧ s.retain records =
        .error (.retention (.occupied key (held.map (·.address)))
          ((records.head?.map (·.binding.podName)).getD "")) := by
  have reading := retain_eq (s := s) some_record known free
  cases present : s.groups.get? key with
  | none => exact .inl ⟨rfl, by rw [reading, present]⟩
  | some held => exact .inr ⟨held, rfl, by rw [reading, present]⟩

theorem retain_of_vacant (vacant : s.groups.get? key = none) (some_record : records ≠ [])
    (own : ∀ r ∈ records, r.key? = some key ∧ r.binding.isRetained = true) :
    s.retain records = .ok ⟨s.groups ++ [(key, records)]⟩ := by
  rw [retain_eq some_record (fun r member => (own r member).1) (fun r member => (own r member).2), vacant,
    Table.put_of_absent vacant]

theorem retain_of_mixed (some_record : records ≠ [])
    (stateful : ∀ r ∈ records, r.isStateful = true)
    (mixed : ¬ ∃ key, ∀ r ∈ records, r.key? = some key) :
    ∃ value, s.retain records = .error (.bad value) := by
  obtain ⟨value, refused⟩ := commonKey_of_mixed some_record stateful mixed
  exact ⟨value, by unfold retain; rw [refused]; rfl⟩

theorem isPurged_iff {ns : String} {owner : Owner} {keep : Option Int} :
    isPurged ns owner keep (key, records) = true ↔
      key.ns = ns ∧ key.kind = owner.kind ∧ key.owner = owner.name ∧
        (∀ replicas ∈ keep, replicas ≤ key.index) ∧
        Owner.uidsClash owner.uid (storedUID records) = false := by
  cases keep <;> simp [isPurged, and_assoc]

end Retention
end PodAddressing
