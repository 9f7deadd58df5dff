import PodAddressing.Proofs.Agent.Handlers
import PodAddressing.Proofs.Allocator.Ownership
/-!
Stateful sets that are made anew. A set that was deleted and created again under its name may be seen as one
update. The update purges in the name of the new set only, so what is retained for the old one stays, and
nothing else does.
-/

namespace PodAddressing

namespace Allocator
variable {a : Allocator} {stray : List Spot} {ns : String} {old new : Owner} {keep : Option Int}

theorem perm_filter_groups_iff (valid : Consistent a) (p q : OrdinalKey × List Record → Bool) :
    (Table.values (a.retention.groups.filter (!q ·))).flatten.Perm
        (Table.values ((a.retention.groups.filter (!p ·)).filter (!q ·))).flatten ↔
      ∀ group ∈ a.retention.groups, p group = true → q group = true := by
  have swapped : (a.retention.groups.filter (!p ·)).filter (!q ·) =
      (a.retention.groups.filter (!q ·)).filter (!p ·) := List.filter_comm _ _ _
  rw [swapped]
  constructor
  · intro same group member purged
    by_contra passed
    have parted := Table.members_filter (a.retention.groups.filter (!q ·)) p
    have sizes := (same.symm.trans parted).length_eq
    rw [List.length_append] at sizes
    have nothing : (Table.values ((a.retention.groups.filter (!q ·)).filter p)).flatten = [] :=
      List.length_eq_zero_iff.mp (by omega)
    have listed : group ∈ (a.retention.groups.filter (!q ·)).filter p :=
      List.mem_filter.mpr ⟨List.mem_filter.mpr ⟨member, by simpa using passed⟩, purged⟩
    have empty := List.flatten_eq_nil_iff.mp nothing group.2 (List.mem_map_of_mem listed)
    exact (valid.kept group.1 group.2 (Table.get?_of_mem valid.groups_unique member)).1 empty
  · intro covered
    have kept : (a.retention.groups.filter (!q ·)).filter (!p ·) =
        a.retention.groups.filter (!q ·) := by
      apply List.filter_eq_self.mpr
      intro group member
      obtain ⟨listed, passed⟩ := List.mem_filter.mp member
      by_contra purged
      simp [covered group listed (by simpa using purged)] at passed
    rw [kept]

theorem retained_twice_iff (valid : Consistent a) :
    (a.purgeOwner ns new keep).2.retention.records.Perm
        ((a.purgeOwner ns old none).2.purgeOwner ns new keep).2.retention.records ↔
      ∀ group ∈ a.retention.groups, Retention.isPurged ns old none group = true →
        Retention.isPurged ns new keep group = true := by
  rw [Retention.records, Retention.records, retention_purgeOwner, retention_purgeOwner,
    retention_purgeOwner]
  exact perm_filter_groups_iff valid _ _

/-- The same records are retained, and every pool has the same addresses in use. -/
def Agrees (a b : Allocator) : Prop :=
  a.retention.records.Perm b.retention.records ∧
    ∀ name, (usedIn a.pools name).Perm (usedIn b.pools name)

theorem purgeOwner_twice_iff (valid : Consistent a) (accounts : Accounts a stray) :
    Agrees (a.purgeOwner ns new keep).2
        ((a.purgeOwner ns old none).2.purgeOwner ns new keep).2 ↔
      ∀ group ∈ a.retention.groups, Retention.isPurged ns old none group = true →
        Retention.isPurged ns new keep group = true := by
  rw [← retained_twice_iff valid]
  constructor
  · exact And.left
  · intro same
    refine ⟨same, fun name => ?_⟩
    have booked := accounts_purgeOwner accounts ns new keep
    have booked' := accounts_purgeOwner (accounts_purgeOwner accounts ns old none) ns new keep
    -- The pools account for the records, and the records are the same.
    have records : (a.purgeOwner ns new keep).2.records.Perm
        ((a.purgeOwner ns old none).2.purgeOwner ns new keep).2.records := by
      rw [Allocator.records, Allocator.records, active_purgeOwner, active_purgeOwner,
        active_purgeOwner]
      exact same.append_left _
    have alike := Booked.perm booked' ((records.map Record.spot).symm.append_right stray)
    exact Booked.usedIn_perm booked alike name

end Allocator

namespace StatefulSet
variable {old new : StatefulSet}

/-- A retained group that is purged when the old set is deleted, but not when it is updated to the new one. -/
def PassesOver (old new : StatefulSet) (group : OrdinalKey × List Record) : Prop :=
  group.1.ns = old.ns ∧ group.1.kind = statefulSetKind ∧ group.1.owner = old.name ∧
    (Retention.storedUID group.2 = old.uid ∨
      Retention.storedUID group.2 = "" ∧ group.1.index < new.replicas)

instance (old new : StatefulSet) : DecidablePred (PassesOver old new) := fun group =>
  inferInstanceAs (Decidable (group.1.ns = old.ns ∧ group.1.kind = statefulSetKind ∧
    group.1.owner = old.name ∧ (Retention.storedUID group.2 = old.uid ∨
      Retention.storedUID group.2 = "" ∧ group.1.index < new.replicas)))

theorem isPurged_reference (set : StatefulSet) (keep : Option Int)
    (group : OrdinalKey × List Record) :
    Retention.isPurged set.ns set.reference keep group = true ↔
      group.1.ns = set.ns ∧ group.1.kind = statefulSetKind ∧ group.1.owner = set.name ∧
        (∀ replicas ∈ keep, replicas ≤ group.1.index) ∧
        Owner.uidsClash set.uid (Retention.storedUID group.2) = false :=
  Retention.isPurged_iff

theorem passesOver_iff (ns : new.ns = old.ns) (name : new.name = old.name) (known : old.uid ≠ "")
    (known' : new.uid ≠ "") (other : old.uid ≠ new.uid) (group : OrdinalKey × List Record) :
    PassesOver old new group ↔ Retention.isPurged old.ns old.reference none group = true ∧
      ¬ Retention.isPurged old.ns new.reference (some new.replicas) group = true := by
  rw [← ns, isPurged_reference new, ns, isPurged_reference old, PassesOver, name]
  by_cases own : group.1.ns = old.ns ∧ group.1.kind = statefulSetKind ∧ group.1.owner = old.name
  · obtain ⟨same_ns, kind, owner⟩ := own
    -- Records without the UID of an owner go with any owner of the name.
    by_cases unknown : Retention.storedUID group.2 = ""
    · simp [same_ns, kind, owner, unknown, Ne.symm known, Owner.uidsClash]
    · by_cases of_old : Retention.storedUID group.2 = old.uid
      · simp [same_ns, kind, owner, of_old, known, known', Ne.symm other, Owner.uidsClash]
      · simp [same_ns, kind, owner, unknown, of_old, known, Ne.symm of_old, Owner.uidsClash]
  · have apart : ¬ (group.1.ns = old.ns ∧ group.1.kind = statefulSetKind ∧
        group.1.owner = old.name ∧ True) := by simpa using own
    tauto

/-- An update to a new set does what deleting the old one and creating the new one does, unless it passes over
something. -/
theorem updated_iff_recreated {a : Allocator} (start : Allocator.Started a) (ops : List Allocator.Op)
    {s : Site} (reached : s.allocator = a.run ops) (notice : Notice) (ns : new.ns = old.ns)
    (name : new.name = old.name) (known : old.uid ≠ "") (known' : new.uid ≠ "")
    (other : old.uid ≠ new.uid) :
    Allocator.Agrees (old.updated notice s new).2.allocator
        (new.created notice (old.deleted notice s).2).2.allocator ↔
      ∀ group ∈ s.allocator.retention.groups, ¬ PassesOver old new group := by
  obtain ⟨valid, stray, accounts⟩ := Allocator.accounts_of_run start ops
  rw [← reached] at valid accounts
  have differs : ¬(new.replicas = old.replicas ∧ new.uid = old.uid) := fun same => other same.2.symm
  have merged : (old.updated notice s new).2.allocator =
      (s.allocator.purgeOwner old.ns new.reference (some new.replicas)).2 := by
    rw [updated, if_neg differs, created, purged_allocator, ns]
  have split : (new.created notice (old.deleted notice s).2).2.allocator =
      ((s.allocator.purgeOwner old.ns old.reference none).2.purgeOwner old.ns new.reference
        (some new.replicas)).2 := by
    rw [created, purged_allocator, deleted, purged_allocator, ns]
  rw [merged, split, Allocator.purgeOwner_twice_iff valid accounts]
  constructor
  · intro covered group member passed
    have apart := (passesOver_iff ns name known known' other group).mp passed
    exact apart.2 (covered group member apart.1)
  · intro none_passed group member purged
    by_contra passed
    exact none_passed group member
      ((passesOver_iff ns name known known' other group).mpr ⟨purged, passed⟩)

section Sample

def siteAfter (ops : List Allocator.Op) : Site where
  allocator := Allocator.sample.run ops
  files := {}
  segment := .isolated

def webSet (uid : String) : StatefulSet := ⟨"shop", "web", uid, 1⟩

def visited : List Allocator.Op := [
  .allocate (Allocator.webPod "web-0" "u1") ⟨.underlay, [.v4, .v6]⟩ none,
  .release (Allocator.webPod "web-0" "u1")]

/-- The update keeps what was retained for the old set, and a deletion does not. -/
theorem updated_not_recreated :
    (webSet "set-2").ns = (webSet "set-1").ns ∧ (webSet "set-2").name = (webSet "set-1").name ∧
      (webSet "set-1").uid ≠ "" ∧ (webSet "set-2").uid ≠ "" ∧
      (webSet "set-1").uid ≠ (webSet "set-2").uid ∧
    ¬ Allocator.Agrees ((webSet "set-1").updated .silent (siteAfter visited) (webSet "set-2")).2.allocator
      ((webSet "set-2").created .silent
        ((webSet "set-1").deleted .silent (siteAfter visited)).2).2.allocator := by
  refine ⟨by decide, by decide, by decide, by decide, by decide, fun same => ?_⟩
  exact absurd same.1.length_eq (by decide +kernel)

def strangers : List Allocator.Op := [
  .allocate { Allocator.webPod "web-3" "u3" with owner := ⟨statefulSetKind, "web", ""⟩ }
    ⟨.underlay, [.v4]⟩ none,
  .release { Allocator.webPod "web-3" "u3" with owner := ⟨statefulSetKind, "web", ""⟩ },
  .allocate { Allocator.webPod "db-0" "u4" with owner := ⟨statefulSetKind, "db", "set-1"⟩ }
    ⟨.underlay, [.v6]⟩ none,
  .release { Allocator.webPod "db-0" "u4" with owner := ⟨statefulSetKind, "db", "set-1"⟩ }]

theorem strangers_recreated :
    (siteAfter strangers).allocator.retention.records.length = 2 ∧
    Allocator.Agrees
      ((webSet "set-1").updated .silent (siteAfter strangers) (webSet "set-2")).2.allocator
      ((webSet "set-2").created .silent
        ((webSet "set-1").deleted .silent (siteAfter strangers)).2).2.allocator := by
  have none_passed : ∀ group ∈ (siteAfter strangers).allocator.retention.groups,
      ¬ PassesOver (webSet "set-1") (webSet "set-2") group := by decide +kernel
  have ns : (webSet "set-2").ns = (webSet "set-1").ns := rfl
  refine ⟨by decide +kernel, (updated_iff_recreated Allocator.sample_started strangers rfl .silent ns rfl
    ?_ ?_ ?_).mpr none_passed⟩ <;> decide

end Sample

end StatefulSet
end PodAddressing
