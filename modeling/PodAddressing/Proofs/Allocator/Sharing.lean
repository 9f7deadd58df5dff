import PodAddressing.Allocator.Run
import PodAddressing.Proofs.Allocator.Run
/-!
Whether an allocator works on the store that it is given. It does so for good if the store holds something at that
moment; if it holds nothing the two have nothing to do with each other from then on.
-/

namespace PodAddressing

namespace Sharing
variable {s : Sharing} {acts : List Act}

section Stores

@[simp] theorem read_write_self (s : Sharing) (ref : Nat) (store : Retention) :
    (s.write ref store).read ref = store := by
  simp [read, write]

theorem read_write_ne {ref ref' : Nat} (different : ref ≠ ref') (s : Sharing) (store : Retention) :
    (s.write ref store).read ref' = s.read ref' := by
  rw [read, write, Table.get?_put_ne different, read]

@[simp] theorem run_nil (s : Sharing) : s.run [] = s := rfl

@[simp] theorem run_cons (s : Sharing) (act : Act) (acts : List Act) :
    s.run (act :: acts) = (s.act act).run acts := rfl

theorem own_run (s : Sharing) (acts : List Act) : (s.run acts).own = s.own := by
  induction acts generalizing s with
  | nil => rfl
  | cons act rest ih =>
      rw [run_cons, ih]
      cases act <;> rfl

end Stores

section Apart

def Act.op? : Act → Option Allocator.Op
  | .operate op => some op
  | .direct _ => none

def Act.call? : Act → Option Retention.Call
  | .operate _ => none
  | .direct call => some call

theorem current_operate (s : Sharing) (op : Allocator.Op) :
    (s.act (.operate op)).current = (s.current.apply op).2 := by
  have stored : (s.act (.operate op)).read s.own = (s.current.apply op).2.retention := read_write_self s s.own _
  change { (s.current.apply op).2 with retention := (s.act (.operate op)).read s.own } = _
  rw [stored]

theorem current_direct_of_apart (apart : s.own ≠ passed) (call : Retention.Call) :
    (s.act (.direct call)).current = s.current := by
  have stored : (s.act (.direct call)).read s.own = s.read s.own := read_write_ne apart.symm s _
  change { s.allocator with retention := (s.act (.direct call)).read s.own } = _
  rw [stored, current]

/-- With a store of its own an allocator does what it would do alone, and so does the store that was passed. -/
theorem run_of_apart (apart : s.own ≠ passed) (acts : List Act) :
    (s.run acts).current = s.current.run (acts.filterMap Act.op?) ∧
      (s.run acts).read passed = (s.read passed).run (acts.filterMap Act.call?) := by
  induction acts generalizing s with
  | nil => exact ⟨rfl, rfl⟩
  | cons act rest ih =>
      cases act with
      | operate op =>
          have rest_apart := ih (s := s.act (.operate op)) apart
          have still : (s.act (.operate op)).read passed = s.read passed := read_write_ne apart s _
          rwa [current_operate, still] at rest_apart
      | direct call =>
          have rest_apart := ih (s := s.act (.direct call)) apart
          have now : (s.act (.direct call)).read passed = ((s.read passed).apply call).2 :=
            read_write_self s passed _
          rwa [current_direct_of_apart apart, now] at rest_apart

end Apart

section Agreeing
variable {macs : MacSource} {networks : List Network} {subnets : List Subnet} {given : Retention}

/-- The allocator's store and the one that was passed say the same. -/
structure Agrees (s : Sharing) : Prop where
  size : s.current.retention.size = (s.read passed).size
  records : s.current.retention.records = (s.read passed).records
  lookup : ∀ w, s.current.retention.lookup w = (s.read passed).lookup w

theorem make_eq_ok (made : make macs networks subnets given = .ok s) :
    s.read passed = given ∧ (s.own = passed ↔ 0 < given.size) := by
  obtain ⟨a, _, rfl⟩ := ok_of_map made
  have taken : Allocator.takesOver (some given) = decide (0 < given.size) := rfl
  have other : passed + 1 ≠ passed := by decide
  rw [taken]
  split
  case isTrue stocked => exact ⟨rfl, iff_of_true rfl (of_decide_eq_true stocked)⟩
  case isFalse empty => exact ⟨rfl, iff_of_false other (mt decide_eq_true empty)⟩

def webGroup : List Record := [Allocator.webRecord "10.0.0.1" ""]

theorem agrees_always_iff (made : make macs networks subnets given = .ok s) :
    (∀ acts, (s.run acts).Agrees) ↔ 0 < given.size := by
  obtain ⟨first, taken⟩ := make_eq_ok made
  constructor
  · intro agrees
    by_contra empty
    have apart : s.own ≠ passed := mt taken.mp empty
    have bare : given = {} := by
      obtain ⟨groups⟩ := given
      exact congrArg Retention.mk (List.eq_nil_of_length_eq_zero (Nat.eq_zero_of_not_pos empty))
    have grown : (({} : Retention).run [.retain webGroup]).size = 1 := by decide +kernel
    -- What the store takes in, the allocator does not see.
    have before := (agrees []).size
    have after := (agrees [.direct (.retain webGroup)]).size
    obtain ⟨unseen, taken_in⟩ := run_of_apart apart [.direct (.retain webGroup)]
    rw [run_nil, first, bare] at before
    rw [unseen, taken_in, first, bare] at after
    have kept : s.current.retention.size = 1 := after.trans grown
    rw [before] at kept
    cases kept
  · intro stocked acts
    have shared : (s.run acts).own = passed := (own_run s acts).trans (taken.mpr stocked)
    have same : (s.run acts).current.retention = (s.run acts).read passed := by
      rw [current, shared]
    exact ⟨congrArg Retention.size same, congrArg Retention.records same, fun w => by rw [same]⟩

def sample (given : Retention) : Except Fault Sharing :=
  make Allocator.sampleMacs [Allocator.sampleNetwork] Allocator.sampleSubnets given

def unmade : Sharing := ⟨[], passed, Allocator.sample⟩

/-- A store that is empty when it is passed is out of the allocator's sight, even if it is filled later. -/
theorem empty_disagrees :
    sample {} = .ok ((sample {}).toOption.getD unmade) ∧
      ¬ (((sample {}).toOption.getD unmade).run [.direct (.retain webGroup)]).Agrees := by
  refine ⟨eq_ok_of_isOk (by decide +kernel) unmade, fun agrees => ?_⟩
  exact absurd agrees.size (by decide +kernel)

def stocked : Retention := ({} : Retention).run [.retain webGroup]

theorem stocked_agrees :
    sample stocked = .ok ((sample stocked).toOption.getD unmade) ∧
      ∀ acts, (((sample stocked).toOption.getD unmade).run acts).Agrees := by
  have made : sample stocked = .ok ((sample stocked).toOption.getD unmade) := eq_ok_of_isOk (by decide +kernel) unmade
  exact ⟨made, (agrees_always_iff made).mpr (by decide +kernel)⟩

end Agreeing

end Sharing
end PodAddressing
