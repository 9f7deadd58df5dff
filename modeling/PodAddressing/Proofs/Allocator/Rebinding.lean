import PodAddressing.Proofs.Allocator.Run
/-!
Rebinding. Where an ordinal retains something, its next pod gets all of that or, if it does not fit the request, a
refusal that leaves it where it is; no pool is asked either way. A pod whose name has no bytes is not served at all.
-/

namespace PodAddressing.Allocator
variable {a : Allocator} {w : Identity} {c : Criteria} {key : OrdinalKey} {kept : List Record}

/-- What is retained is kept for another owner, is of other families than those asked for, or has an address in a
network of another type. -/
inductive Unfit (a : Allocator) (w : Identity) (c : Criteria) (kept : List Record) : Prop
  | owner {r : Record} (member : r ∈ kept) (asked : w.owner.uid ≠ "") (stored : r.binding.owner.uid ≠ "")
      (other : w.owner.uid ≠ r.binding.owner.uid) : Unfit a w c kept
  | families (other : ¬ ∀ f, (∃ r ∈ kept, r.family = f) ↔ f ∈ c.families) : Unfit a w c kept
  | network {r : Record} {network : Network} (member : r ∈ kept)
      (registered : a.networks.get? r.network = some network) (other : network.type ≠ c.networkType) :
      Unfit a w c kept

section Checks

/-- Why what is retained is not handed out, if it is not. The owner is looked at first. -/
def obstacle? (a : Allocator) (w : Identity) (c : Criteria) (kept : List Record) : Option Conflict :=
  ((Retention.foreign? w kept).map fun r => .otherOwner r.address r.binding.owner.uid w.owner.uid).or
    (a.misfit? w c kept)

theorem foreign?_eq_none_iff :
    Retention.foreign? w kept = none ↔
      ∀ r ∈ kept, w.owner.uid = "" ∨ r.binding.owner.uid = "" ∨ w.owner.uid = r.binding.owner.uid := by
  rw [Retention.foreign?, List.find?_eq_none]
  refine forall₂_congr fun r _ => ?_
  simp only [Owner.uidsClash, Bool.and_eq_true, decide_eq_true_eq]
  tauto

theorem familiesOf_eq_iff :
    familiesOf kept = c.orderedFamilies ↔ ∀ f, (∃ r ∈ kept, r.family = f) ↔ f ∈ c.families := by
  have listed (f : Family) : f ∈ Family.all := by cases f <;> decide
  have kind (f : Family) : f ∈ familiesOf kept ↔ ∃ r ∈ kept, r.family = f := by simp [familiesOf, listed f]
  have wanted (f : Family) : f ∈ c.orderedFamilies ↔ f ∈ c.families := by
    simp [Criteria.orderedFamilies, listed f]
  constructor
  · intro same f
    rw [← kind, same, wanted]
  · intro same
    refine List.filter_congr fun f _ => Bool.eq_iff_iff.mpr ?_
    simpa using same f

theorem misfit?_eq_none_iff :
    a.misfit? w c kept = none ↔ familiesOf kept = c.orderedFamilies ∧
      ∀ r ∈ kept, ∀ network, a.networks.get? r.network = some network → network.type = c.networkType := by
  unfold misfit?
  dsimp only
  by_cases families : familiesOf kept = c.orderedFamilies
  · rw [if_neg (not_not_intro families), List.findSome?_eq_none_iff]
    simp only [families, true_and]
    refine forall₂_congr fun r _ => ?_
    cases a.networks.get? r.network with
    | none => simp
    | some network => simp
  · simp [families]

theorem obstacle?_eq_none_iff : a.obstacle? w c kept = none ↔ ¬ Unfit a w c kept := by
  unfold obstacle?
  rw [Option.or_eq_none_iff, Option.map_eq_none_iff, foreign?_eq_none_iff, misfit?_eq_none_iff, familiesOf_eq_iff]
  constructor
  · rintro ⟨owner, families, network⟩ unfit
    cases unfit with
    | owner member asked stored other =>
        rcases owner _ member with absent | absent | same
        · exact asked absent
        · exact stored absent
        · exact other same
    | families other => exact other families
    | network member registered other => exact other (network _ member _ registered)
  · intro fits
    refine ⟨fun r member => ?_, ?_, fun r member network registered => ?_⟩
    · by_contra clash
      push Not at clash
      exact fits (.owner member clash.1 clash.2.1 clash.2.2)
    · by_contra other
      exact fits (.families other)
    · by_contra other
      exact fits (.network member registered other)

end Checks

section Answer

theorem lookup_of_retained (stateful : w.statefulKey? = .ok (some key))
    (retained : a.retention.groups.get? key = some kept) :
    a.retention.lookup w = (Retention.checkOwner w kept).map fun _ => some kept := by
  rewrite [Retention.lookup, Retention.keyOf_eq_ok_iff.mpr stateful]
  dsimp only [Bind.bind, Except.bind]
  rewrite [retained]
  dsimp only
  cases Retention.checkOwner w kept <;> rfl

theorem rebind_eq (stateful : w.statefulKey? = .ok (some key))
    (retained : a.retention.groups.get? key = some kept) :
    a.rebind w c =
      match a.obstacle? w c kept with
      | some conflict => .error (.retention conflict w.podName)
      | none => .ok (some (kept.map (·.boundTo w.podUID w.podName w.nodeName)),
          { a with retention := ⟨a.retention.groups.erase key⟩ }) := by
  have looked := lookup_of_retained stateful retained
  unfold rebind obstacle?
  unfold Retention.checkOwner at looked
  cases foreign : Retention.foreign? w kept with
  | some r =>
      rw [foreign] at looked
      rewrite [looked]
      rfl
  | none =>
      rw [foreign] at looked
      have taken : a.retention.take w = .ok (some kept, ⟨a.retention.groups.erase key⟩) := by
        rewrite [Retention.take, Retention.keyOf_eq_ok_iff.mpr stateful, looked]
        rfl
      rewrite [looked]
      dsimp only [Except.map, Bind.bind, Except.bind, Option.map_none, Option.none_or]
      cases a.misfit? w c kept with
      | some conflict => rfl
      | none =>
          rewrite [taken]
          rfl

/-- A request for some family, for a named pod that has nothing and whose ordinal is free and retains a group. -/
structure Awaited (a : Allocator) (w : Identity) (c : Criteria) (key : OrdinalKey) (kept : List Record) : Prop where
  named : w.podUID ≠ ""
  some_family : c.families ≠ []
  stateful : w.statefulKey? = .ok (some key)
  had : a.active.get? w.podUID = none
  vacant : a.holders.get? key = none
  retained : a.retention.groups.get? key = some kept

theorem orderedFamilies_ne_nil (some_family : c.families ≠ []) : c.orderedFamilies ≠ [] := by
  obtain ⟨f, member⟩ := List.exists_mem_of_ne_nil _ some_family
  have listed : f ∈ c.orderedFamilies :=
    List.mem_filter.mpr ⟨by cases f <;> decide, by simpa using member⟩
  exact List.ne_nil_of_mem listed

theorem Awaited.allocate (awaited : Awaited a w c key kept) (bytes : w.hasBytes = true)
    (eligible : Option (List String)) :
    a.allocate w c eligible =
      match a.obstacle? w c kept with
      | some conflict => (.error (.retention conflict w.podName), a)
      | none =>
          let records := kept.map (·.boundTo w.podUID w.podName w.nodeName)
          (.ok records, { a with
            active := a.active.put w.podUID records
            holders := a.holders.put key w.podUID
            retention := ⟨a.retention.groups.erase key⟩ }) := by
  have had : a.recordsFor w = [] := by rw [recordsFor, awaited.had, Option.getD_none]
  have vacant : (some key).bind a.holders.get? = none := awaited.vacant
  unfold Allocator.allocate
  rw [if_neg awaited.named, if_neg (orderedFamilies_ne_nil awaited.some_family), if_neg (by simp [bytes]),
    awaited.stateful]
  dsimp only
  rewrite [had, vacant]
  dsimp only [supply]
  rewrite [rebind_eq awaited.stateful awaited.retained]
  cases a.obstacle? w c kept with
  | some conflict => rfl
  | none => rfl

theorem Awaited.refused (awaited : Awaited a w c key kept) (no_bytes : w.hasBytes = false)
    (eligible : Option (List String)) : a.allocate w c eligible = (.error .unencodable, a) := by
  unfold Allocator.allocate
  rw [if_neg awaited.named, if_neg (orderedFamilies_ne_nil awaited.some_family), if_pos (by simp [no_bytes])]

end Answer

/-- The ordinal's next pod gets the whole group or nothing, and nothing only if the group does not fit the request. -/
theorem rebinds_all_or_nothing (awaited : Awaited a w c key kept) (eligible : Option (List String)) :
    let records := kept.map (·.boundTo w.podUID w.podName w.nodeName)
    (w.hasBytes = false → a.allocate w c eligible = (.error .unencodable, a)) ∧
    (w.hasBytes = true →
      ((∃ conflict, a.allocate w c eligible = (.error (.retention conflict w.podName), a)) ↔ Unfit a w c kept) ∧
      (¬ Unfit a w c kept → a.allocate w c eligible = (.ok records, { a with
        active := a.active.put w.podUID records
        holders := a.holders.put key w.podUID
        retention := ⟨a.retention.groups.erase key⟩ }))) := by
  refine ⟨fun no_bytes => awaited.refused no_bytes eligible, fun bytes => ?_⟩
  rw [awaited.allocate bytes, ← obstacle?_eq_none_iff, ← not_iff_not, ← obstacle?_eq_none_iff]
  cases a.obstacle? w c kept with
  | some conflict => simp
  | none => simp

section Sample

def parked : Allocator := sample.run [
  .allocate (webPod "web-0" "u1") ⟨.underlay, [.v4]⟩ none,
  .release (webPod "web-0" "u1")]

def firstOfWeb : OrdinalKey := ⟨"shop", "StatefulSet", "web", 0⟩

def parkedRecord : Record :=
  { webRecord "10.0.0.1" "" with mac := "02:00:00:00:00:00" }

theorem parked_awaited (f : Family) :
    Awaited parked (webPod "web-0" "u2") ⟨.underlay, [f]⟩ firstOfWeb [parkedRecord] where
  named := by decide
  some_family := List.cons_ne_nil f []
  stateful := by decide +kernel
  had := by decide +kernel
  vacant := by decide +kernel
  retained := by decide +kernel

/-- A request for the family that is retained gets it, one for the other family gets nothing. -/
theorem parked_rebinds_all_or_nothing :
    (∃ after, parked.allocate (webPod "web-0" "u2") ⟨.underlay, [.v4]⟩ (some []) =
      (.ok [parkedRecord.boundTo "u2" "web-0" "node-1"], after)) ∧
    ∃ conflict, parked.allocate (webPod "web-0" "u2") ⟨.underlay, [.v6]⟩ none =
      (.error (.retention conflict "web-0"), parked) := by
  have bytes : (webPod "web-0" "u2").hasBytes = true := by decide +kernel
  have fits : ¬ Unfit parked (webPod "web-0" "u2") ⟨.underlay, [.v4]⟩ [parkedRecord] :=
    obstacle?_eq_none_iff.mp (by decide +kernel)
  have unfit : Unfit parked (webPod "web-0" "u2") ⟨.underlay, [.v6]⟩ [parkedRecord] :=
    .families fun same => absurd ((same .v6).mpr List.mem_cons_self) (by decide +kernel)
  exact ⟨⟨_, ((rebinds_all_or_nothing (parked_awaited .v4) (some [])).2 bytes).2 fits⟩,
    ((rebinds_all_or_nothing (parked_awaited .v6) none).2 bytes).1.mpr unfit⟩

/-- A pod of the first ordinal whose name holds half of a character. -/
def halvedPod : Identity := webPod (String.ofList [Text.ofUnit 0xd800, '-', '0']) "u2"

theorem halved_not_rebound :
    Awaited parked halvedPod ⟨.underlay, [.v4]⟩ firstOfWeb [parkedRecord] ∧
      ¬ Unfit parked halvedPod ⟨.underlay, [.v4]⟩ [parkedRecord] ∧
      parked.allocate halvedPod ⟨.underlay, [.v4]⟩ none = (.error .unencodable, parked) := by
  have awaited : Awaited parked halvedPod ⟨.underlay, [.v4]⟩ firstOfWeb [parkedRecord] :=
    { parked_awaited .v4 with stateful := by decide +kernel }
  exact ⟨awaited, obstacle?_eq_none_iff.mp (by decide +kernel), awaited.refused (by decide +kernel) none⟩

end Sample

end PodAddressing.Allocator
