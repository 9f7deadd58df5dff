import PodAddressing.Proofs.Allocator.Departure
import PodAddressing.Proofs.Retention
import PodAddressing.Proofs.Text.Digits
import PodAddressing.Proofs.Text.Pieces
/-!
The numbers at the end of pod names. A name that ends in digits has a number just if the digits are decimal ones and not
too many; with other digits nothing comes of it but a fault, and a name that does not end in digits has no number.
-/

namespace PodAddressing

namespace PodName
variable {podName : String} {digits : List Char} {n : Int}

structure EndsIn (podName : String) (digits : List Char) : Prop where
  some_digit : digits ≠ []
  all_digits : ∀ c ∈ digits, Text.isDigit c = true
  after : ∃ before, podName.toList = before ++ '-' :: digits

/-- The number that is read from the digits at the end of a name, if there are some and a number is. -/
def number? (podName : String) : Option Int :=
  (Text.afterLast? '-' podName.toList).bind fun suffix =>
    if !suffix.isEmpty && suffix.all Text.isDigit then (Json.integerOfText (String.ofList suffix)).toOption else none

/-- A name ends in digits of which no number is made: a digit sign is among them, or there are too many. -/
def Garbled (podName : String) : Prop :=
  ∃ digits, EndsIn podName digits ∧ ((∃ c ∈ digits, Text.isDecimal c = false) ∨ Number.digitLimit < digits.length)

theorem endsIn_iff : EndsIn podName digits ↔
    Text.afterLast? '-' podName.toList = some digits ∧ digits ≠ [] ∧ ∀ c ∈ digits, Text.isDigit c = true := by
  rw [Text.afterLast?_eq_some_iff]
  constructor
  · rintro ⟨some_digit, all_digits, after⟩
    refine ⟨⟨fun dash => ?_, after⟩, some_digit, all_digits⟩
    exact absurd (all_digits '-' dash) (by decide)
  · rintro ⟨⟨_, after⟩, some_digit, all_digits⟩
    exact ⟨some_digit, all_digits, after⟩

theorem endsIn_unique {digits' : List Char} (ends : EndsIn podName digits) (ends' : EndsIn podName digits') :
    digits = digits' := by
  have found := (endsIn_iff.mp ends).1
  rw [(endsIn_iff.mp ends').1] at found
  exact (Option.some.inj found).symm

theorem read_of_endsIn (ends : EndsIn podName digits) :
    number? podName = (Json.integerOfText (String.ofList digits)).toOption ∧
      ordinalOf podName = (Json.integerOfText (String.ofList digits)).map some := by
  have some_digit : digits.isEmpty = false := List.isEmpty_eq_false_iff.mpr ends.some_digit
  have all_digits : digits.all Text.isDigit = true := List.all_eq_true.mpr ends.all_digits
  have digital : (!digits.isEmpty && digits.all Text.isDigit) = true := by
    rw [some_digit, all_digits]
    rfl
  have found := (endsIn_iff.mp ends).1
  refine ⟨by rw [number?, found, Option.bind_some, if_pos digital], ?_⟩
  unfold ordinalOf
  simp [found, some_digit, all_digits]

theorem unnumbered_of_not_endsIn (ends : ¬ ∃ digits, EndsIn podName digits) :
    number? podName = none ∧ ordinalOf podName = .ok none := by
  simp only [endsIn_iff] at ends
  unfold number? ordinalOf
  cases found : Text.afterLast? '-' podName.toList with
  | none => exact ⟨rfl, rfl⟩
  | some suffix =>
      have other : (suffix.isEmpty || !suffix.all Text.isDigit) = true := by
        rw [← Bool.not_eq_false, Bool.or_eq_false_iff]
        intro digits
        exact ends ⟨suffix, found, by simpa using digits⟩
      have other' : ¬ (!suffix.isEmpty && suffix.all Text.isDigit) = true := by
        have flipped : (!suffix.isEmpty && suffix.all Text.isDigit) = !(suffix.isEmpty || !suffix.all Text.isDigit) := by
          rw [Bool.not_or, Bool.not_not]
        rw [flipped, other]
        decide
      rw [Option.bind_some, if_neg other']
      exact ⟨rfl, if_pos other⟩

theorem isOk_iff_of_endsIn (ends : EndsIn podName digits) :
    (∃ n, Json.integerOfText (String.ofList digits) = .ok n) ↔ ¬ Garbled podName := by
  have garbled : Garbled podName ↔
      (∃ c ∈ digits, Text.isDecimal c = false) ∨ Number.digitLimit < digits.length :=
    ⟨fun ⟨_, ends', unread⟩ => endsIn_unique ends' ends ▸ unread, fun unread => ⟨digits, ends, unread⟩⟩
  have read (n : Int) : Json.integerOfText (String.ofList digits) = .ok n ↔ Number.readInteger digits = .ok n := by
    rw [Json.integerOfText, String.toList_ofList]
    cases Number.readInteger digits <;> simp [Except.mapError]
  simp only [read, Number.readInteger_eq_ok_iff ends.all_digits ends.some_digit, garbled, not_or, Nat.not_lt,
    exists_and_left, exists_eq, and_true]
  simp

/-- A name has the number that is read at its end, unless it is garbled. -/
theorem ordinalOf_eq_number?_iff : ordinalOf podName = .ok (number? podName) ↔ ¬ Garbled podName := by
  by_cases numbered : ∃ digits, EndsIn podName digits
  · obtain ⟨digits, ends⟩ := numbered
    obtain ⟨number, ordinal⟩ := read_of_endsIn ends
    rw [← isOk_iff_of_endsIn ends, ordinal, number]
    cases Json.integerOfText (String.ofList digits) <;> simp [Except.map, Except.toOption]
  · obtain ⟨no_number, no_ordinal⟩ := unnumbered_of_not_endsIn numbered
    rw [no_number, no_ordinal]
    refine iff_of_true rfl ?_
    rintro ⟨digits, ends, _⟩
    exact numbered ⟨digits, ends⟩

theorem ordinalOf_of_garbled (garbled : Garbled podName) :
    number? podName = none ∧ ∃ value, ordinalOf podName = .error (.bad value) := by
  obtain ⟨digits, ends, _⟩ := id garbled
  have unread := mt (isOk_iff_of_endsIn ends).mp (not_not_intro garbled)
  obtain ⟨number, ordinal⟩ := read_of_endsIn ends
  rw [ordinal, number]
  unfold Json.integerOfText at unread ⊢
  cases answer : Number.readInteger (String.ofList digits).toList with
  | ok n =>
      rw [answer] at unread
      exact absurd ⟨n, rfl⟩ unread
  | error fault => cases fault <;> exact ⟨rfl, _, rfl⟩

end PodName

/-!
Pods of a stateful owner whose names have no number. They are served like pods of any other owner: what they are given
is free again when they leave, and no store has anything to do with them. A name that is garbled is another matter; no
call gets beyond it.
-/

namespace Identity
variable {w : Identity}

def plain (w : Identity) : Identity := { w with statefulKinds := [] }

theorem statefulKey?_plain (w : Identity) : w.plain.statefulKey? = .ok none := rfl

theorem statefulKey?_of_unnumbered (unnumbered : w.ordinal = .ok none) : w.statefulKey? = .ok none := by
  unfold statefulKey? index
  rw [unnumbered]
  split <;> rfl

theorem statefulKey?_of_fault {fault : Fault} (owned : w.isOwnedByStateful = true)
    (refused : w.ordinal = .error fault) : w.statefulKey? = .error fault := by
  unfold statefulKey? index
  rw [if_pos owned, refused]
  rfl

end Identity

namespace Retention
variable {w : Identity} {fault : Fault}

/-- A fault with which every call of a store for a workload ends, whatever the store holds. -/
def RefusedWith (w : Identity) (fault : Fault) : Prop :=
  ∀ s : Retention, s.lookup w = .error fault ∧ s.take w = .error fault ∧ s.purge w = .error fault

theorem refusedWith_iff : RefusedWith w fault ↔ keyOf w = .error fault := by
  constructor
  · intro refused
    -- An empty store is asked for nothing but the key.
    have looked := (refused {}).1
    unfold lookup at looked
    rcases error_of_bind looked with unknown | ⟨key, _, found⟩
    · exact unknown
    · cases found
  · intro unknown s
    have looked : s.lookup w = .error fault := by
      rewrite [lookup, unknown]
      rfl
    have taken : s.take w = .error fault := by
      rewrite [take, unknown]
      rfl
    refine ⟨looked, taken, ?_⟩
    rw [purge, taken]
    rfl

theorem keyOf_of_unnumbered (owned : w.isOwnedByStateful = true) (unnumbered : w.ordinal = .ok none) :
    keyOf w = .error (.retention (.unreadableOrdinal w.ns w.podName) w.podName) := by
  simp [keyOf, owned, unnumbered]

theorem keyOf_of_fault (owned : w.isOwnedByStateful = true) (refused : w.ordinal = .error fault) :
    keyOf w = .error fault := by
  simp [keyOf, owned, refused]

end Retention

namespace Allocator
variable {a : Allocator} {w v : Identity} {c : Criteria} {eligible : Option (List String)} {records : List Record}

theorem acquireAll_plain {index : Option Int} {mac : String} {networkType : NetworkType} {families : List Family}
    (a : Allocator) (w : Identity) (taken : List Record) :
    a.acquireAll w.plain index mac networkType eligible taken families =
      a.acquireAll w index mac networkType eligible taken families := by
  induction families generalizing a taken with
  | nil => rfl
  | cons family rest ih =>
      unfold acquireAll
      cases a.acquire networkType family eligible with
      | error fault => rfl
      | ok found => exact ih _ _

theorem allocate_plain (unkeyed : w.statefulKey? = .ok none) (a : Allocator) (c : Criteria)
    (eligible : Option (List String)) : a.allocate w c eligible = a.allocate w.plain c eligible := by
  have supplied : a.supply w.plain none c eligible = a.supply w none c eligible := acquireAll_plain _ w []
  unfold allocate
  rw [unkeyed, Identity.statefulKey?_plain]
  dsimp only
  rw [supplied]
  rfl

theorem retention_allocate_unkeyed (unkeyed : w.statefulKey? = .ok none) (a : Allocator) (c : Criteria)
    (eligible : Option (List String)) : (a.allocate w c eligible).2.retention = a.retention := by
  have outcome := allocate_cases a w c eligible
  generalize a.allocate w c eligible = result at outcome
  cases outcome with
  | kept had some_record => rfl
  | refused fault => rfl
  | failed index fresh frame => exact frame.retention
  | rebound named had stateful vacant retained fits =>
      rw [unkeyed] at stateful
      cases stateful
  | fresh named had stateful vacant unretained some_family given frame => exact frame.retention

theorem unindexed_of_unkeyed (unkeyed : w.statefulKey? = .ok none)
    (given : (a.allocate w c eligible).1 = .ok records) (before : ∀ r ∈ a.recordsFor w, r.isStateful = false) :
    records ≠ [] ∧ ∀ r ∈ records, r.isStateful = false := by
  have outcome := allocate_cases a w c eligible
  generalize a.allocate w c eligible = result at outcome given
  cases outcome with
  | kept had some_record =>
      cases given
      exact ⟨some_record, had ▸ before⟩
  | refused fault => cases given
  | failed index fresh frame => cases given
  | rebound named had stateful vacant retained fits =>
      rw [unkeyed] at stateful
      cases stateful
  | @fresh key records' a' named had stateful vacant unretained some_family acquired frame =>
      cases given
      rw [unkeyed] at stateful
      cases stateful
      obtain ⟨families, fresh⟩ := allocateFresh_records acquired
      refine ⟨?_, fun r member => ?_⟩
      · rintro rfl
        exact some_family families.symm
      · rw [Record.isStateful, (fresh r member).2.2]
        rfl

theorem frees_of_unkeyed (start : Started a) {before after : List Op} (unkeyed : w.statefulKey? = .ok none)
    (plain : ∀ r ∈ (a.run before).recordsFor w, r.isStateful = false)
    (given : ((a.run before).allocate w c eligible).1 = .ok records)
    (leaves : ∀ op ∈ after, LeavesBound w.podUID op) (same : v.podUID = w.podUID) (bytes : v.hasBytes = true) :
    Frees (a.run (before ++ .allocate w c eligible :: after)) v := by
  obtain ⟨some_record, unindexed⟩ := unindexed_of_unkeyed unkeyed given plain
  have found := bound_after_allocate (accounts_of_run start before).1 given leaves
  obtain ⟨valid, stray, accounts⟩ := accounts_of_run start (before ++ .allocate w c eligible :: after)
  have bound : (a.run (before ++ .allocate w c eligible :: after)).recordsFor v = records := by
    rw [recordsFor, same, found, Option.getD_some]
  have ends : (a.run (before ++ .allocate w c eligible :: after)).outlives records = false := by
    obtain ⟨r, member⟩ := List.exists_mem_of_ne_nil records some_record
    have mixed : records.all Record.isStateful = false :=
      List.all_eq_false.mpr ⟨r, member, by simp [unindexed r member]⟩
    rw [outlives, mixed, Bool.false_and]
  exact frees_of_ends valid accounts (bound.symm ▸ some_record) bytes (bound.symm ▸ ends)

theorem allocate_of_fault {fault : Fault} (refused : w.statefulKey? = .error fault) (named : w.podUID ≠ "")
    (some_family : c.orderedFamilies ≠ []) (bytes : w.hasBytes = true) (a : Allocator)
    (eligible : Option (List String)) : a.allocate w c eligible = (.error fault, a) := by
  unfold allocate
  rw [if_neg named, if_neg some_family, if_neg (by simp [bytes]), refused]

/-- Every name is read as it should be unless it is garbled. A pod of a stateful owner that has no number then is served
as a plain one, and no store knows it; if its name is garbled, it is not served and the stores say something else. -/
theorem unnumbered_unless_garbled (w : Identity) :
    (ordinalOf w.podName = .ok (PodName.number? w.podName) ↔ ¬ PodName.Garbled w.podName) ∧
    (w.isOwnedByStateful = true → PodName.number? w.podName = none →
      (Retention.RefusedWith w (.retention (.unreadableOrdinal w.ns w.podName) w.podName) ↔
        ¬ PodName.Garbled w.podName) ∧
      (¬ PodName.Garbled w.podName →
        (∀ (a : Allocator) c eligible, a.allocate w c eligible = a.allocate w.plain c eligible ∧
          (a.allocate w c eligible).2.retention = a.retention) ∧
        ∀ a, Started a → ∀ before c eligible records, ((a.run before).allocate w c eligible).1 = .ok records →
          (∀ r ∈ (a.run before).recordsFor w, r.isStateful = false) →
          (∀ r ∈ records, r.isStateful = false) ∧
          ∀ after v, (∀ op ∈ after, LeavesBound w.podUID op) → v.podUID = w.podUID → v.hasBytes = true →
            Frees (a.run (before ++ .allocate w c eligible :: after)) v) ∧
      (PodName.Garbled w.podName → ∃ value, Retention.RefusedWith w (.bad value) ∧
        ∀ (a : Allocator) c eligible, w.podUID ≠ "" → c.orderedFamilies ≠ [] → w.hasBytes = true →
          a.allocate w c eligible = (.error (.bad value), a))) := by
  refine ⟨PodName.ordinalOf_eq_number?_iff, fun owned no_number => ⟨?_, ?_, ?_⟩⟩
  · rw [Retention.refusedWith_iff]
    by_cases garbled : PodName.Garbled w.podName
    · obtain ⟨_, value, refused⟩ := PodName.ordinalOf_of_garbled garbled
      rw [Retention.keyOf_of_fault owned refused]
      exact iff_of_false (by simp) (not_not_intro garbled)
    · have unnumbered : w.ordinal = .ok none := no_number ▸ PodName.ordinalOf_eq_number?_iff.mpr garbled
      exact iff_of_true (Retention.keyOf_of_unnumbered owned unnumbered) garbled
  · intro whole
    have unnumbered : w.ordinal = .ok none := no_number ▸ PodName.ordinalOf_eq_number?_iff.mpr whole
    have unkeyed := Identity.statefulKey?_of_unnumbered unnumbered
    have alike (a : Allocator) (c : Criteria) (eligible : Option (List String)) :=
      And.intro (allocate_plain unkeyed a c eligible) (retention_allocate_unkeyed unkeyed a c eligible)
    refine ⟨alike, ?_⟩
    intro a start before c eligible records given plain
    exact ⟨(unindexed_of_unkeyed unkeyed given plain).2, fun after v leaves same bytes =>
      frees_of_unkeyed start unkeyed plain given leaves same bytes⟩
  · intro garbled
    obtain ⟨_, value, refused⟩ := PodName.ordinalOf_of_garbled garbled
    refine ⟨value, Retention.refusedWith_iff.mpr (Retention.keyOf_of_fault owned refused), ?_⟩
    intro a c eligible named some_family bytes
    exact allocate_of_fault (Identity.statefulKey?_of_fault owned refused) named some_family bytes a eligible

section Sample

def meanwhile : List Op := [
  .allocate (webPod "web-0" "u2") ⟨.underlay, [.v4]⟩ none,
  .purgeOwner "shop" webOwner (some 1),
  .release (webPod "web-0" "u2"),
  .purgeOwner "shop" webOwner none]

theorem lettered_served :
    PodName.number? "web-x" = none ∧
      Retention.RefusedWith (webPod "web-x" "u1") (.retention (.unreadableOrdinal "shop" "web-x") "web-x") ∧
      ∃ records, ((sample.run []).allocate (webPod "web-x" "u1") ⟨.underlay, [.v4, .v6]⟩ none).1 = .ok records ∧
        records.map (·.address) = ["10.0.0.1", "::9"] ∧
        Frees (sample.run ([] ++ .allocate (webPod "web-x" "u1") ⟨.underlay, [.v4, .v6]⟩ none :: meanwhile))
          (webPod "web-x" "u1") := by
  obtain ⟨read, pod⟩ := unnumbered_unless_garbled (webPod "web-x" "u1")
  have no_number : PodName.number? "web-x" = none := by decide +kernel
  have whole : ¬ PodName.Garbled "web-x" := read.mp (by decide +kernel)
  obtain ⟨refused, served, _⟩ := pod (by decide) no_number
  obtain ⟨_, freed⟩ := served whole
  have leaves : ∀ op ∈ meanwhile, LeavesBound "u1" op := by
    simp [meanwhile, LeavesBound, webPod]
  have none_had : ∀ r ∈ (sample.run []).recordsFor (webPod "web-x" "u1"), r.isStateful = false := by decide +kernel
  let records := (((sample.run []).allocate (webPod "web-x" "u1") ⟨.underlay, [.v4, .v6]⟩ none).1.toOption).getD []
  have given : ((sample.run []).allocate (webPod "web-x" "u1") ⟨.underlay, [.v4, .v6]⟩ none).1 = .ok records :=
    eq_ok_of_isOk (by decide +kernel) []
  obtain ⟨_, free_again⟩ := freed sample sample_started [] ⟨.underlay, [.v4, .v6]⟩ none records given none_had
  exact ⟨no_number, refused.mpr whole, records, given, by decide +kernel,
    free_again meanwhile (webPod "web-x" "u1") leaves rfl (by decide +kernel)⟩

/-- A superscript two is taken for a digit, and the pod is neither served nor known to be without an ordinal. -/
theorem superscript_refused :
    PodName.number? "web-²" = none ∧ ordinalOf "web-²" = .error (.bad (.integer "'²'")) ∧
      (sample.allocate (webPod "web-²" "u1") ⟨.underlay, [.v4]⟩ none).1 = .error (.bad (.integer "'²'")) ∧
      sample.retention.lookup (webPod "web-²" "u1") = .error (.bad (.integer "'²'")) := by
  decide +kernel

end Sample

end Allocator
end PodAddressing
