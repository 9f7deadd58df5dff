import PodAddressing.Allocator.Rebuild
import PodAddressing.Proofs.Table
/-!
The three indexes. Active pods, holders and retained groups say the same in three ways, which pod or group has
which ordinal. Here is what every kind of change does to that, and that a rebuild makes them agree from any list
of records.
-/

namespace PodAddressing

/-- Pods, holders and retained groups agree, except that an ordinal may still be retained and held at once. -/
structure Indexed (active : Table String (List Record)) (holders : Table OrdinalKey String)
    (groups : Table OrdinalKey (List Record)) : Prop where
  active_unique : active.Unique
  holders_unique : holders.Unique
  groups_unique : groups.Unique
  bound : ∀ uid group, active.get? uid = some group →
    uid ≠ "" ∧ group ≠ [] ∧ ∀ r ∈ group, r.binding.podUID = uid
  holds : ∀ key uid, holders.get? key = some uid ↔
    ∃ group, active.get? uid = some group ∧ ∃ r ∈ group, r.key? = some key
  kept : ∀ key group, groups.get? key = some group → group ≠ [] ∧
    ∀ r ∈ group, r.key? = some key ∧ r.binding.podUID = "" ∧ r.binding.nodeName = ""

namespace Indexed
variable {active : Table String (List Record)} {holders : Table OrdinalKey String}
variable {groups : Table OrdinalKey (List Record)}

theorem nothing : Indexed [] [] [] where
  active_unique := List.nodup_nil
  holders_unique := List.nodup_nil
  groups_unique := List.nodup_nil
  bound := by simp
  holds := by simp
  kept := by simp

theorem filter_groups (valid : Indexed active holders groups)
    (p : OrdinalKey × List Record → Bool) : Indexed active holders (groups.filter p) :=
  { valid with
    groups_unique := Table.unique_filter valid.groups_unique p
    kept := by
      intro key group found
      rw [Table.get?_filter valid.groups_unique, Option.filter_eq_some_iff] at found
      exact valid.kept key group found.1 }

theorem put_group (valid : Indexed active holders groups) {key : OrdinalKey} {group : List Record}
    (some_record : group ≠ [])
    (free : ∀ r ∈ group, r.key? = some key ∧ r.binding.podUID = "" ∧ r.binding.nodeName = "") :
    Indexed active holders (groups.put key group) :=
  { valid with
    groups_unique := Table.unique_put valid.groups_unique key group
    kept := by
      intro key' group' found
      rw [Table.get?_put] at found
      by_cases same : key = key'
      · simp only [same, ↓reduceIte, Option.some.injEq] at found
        subst found
        exact ⟨some_record, fun r member => same ▸ free r member⟩
      · simp only [same, ↓reduceIte] at found
        exact valid.kept key' group' found }

theorem gather_group (valid : Indexed active holders groups) {key : OrdinalKey} {r : Record}
    (known : r.key? = some key) (free : r.binding.podUID = "" ∧ r.binding.nodeName = "") :
    Indexed active holders (groups.gather key r) := by
  refine valid.put_group (by simp) ?_
  intro r' member
  rcases List.mem_append.mp member with before | last
  · obtain ⟨group, found, before⟩ := Table.mem_group before
    exact (valid.kept key group found).2 r' before
  · rw [List.mem_singleton.mp last]
    exact ⟨known, free⟩

theorem put_active (valid : Indexed active holders groups) {uid : String} {group : List Record}
    {holders' : Table OrdinalKey String} (named : uid ≠ "") (some_record : group ≠ [])
    (own : ∀ r ∈ group, r.binding.podUID = uid) (unique : holders'.Unique)
    (more : ∀ r ∈ (active.get? uid).getD [], r ∈ group)
    (now : ∀ key uid', holders'.get? key = some uid' ↔
      holders.get? key = some uid' ∨ (uid' = uid ∧ ∃ r ∈ group, r.key? = some key)) :
    Indexed (active.put uid group) holders' groups where
  active_unique := Table.unique_put valid.active_unique uid group
  holders_unique := unique
  groups_unique := valid.groups_unique
  kept := valid.kept
  bound := by
    intro uid' group' found
    rw [Table.get?_put] at found
    by_cases same : uid = uid'
    · simp only [same, ↓reduceIte, Option.some.injEq] at found
      subst same found
      exact ⟨named, some_record, own⟩
    · simp only [same, ↓reduceIte] at found
      exact valid.bound uid' group' found
  holds := by
    intro key uid'
    rw [now, valid.holds, Table.get?_put]
    by_cases same : uid = uid'
    · subst same
      simp only [↓reduceIte, Option.some.injEq, exists_eq_left', true_and]
      constructor
      · rintro (⟨before, found, r, member, known⟩ | present)
        · exact ⟨r, more r (by simpa [found] using member), known⟩
        · exact present
      · exact Or.inr
    · simp [same, Ne.symm same]

theorem erase_active (valid : Indexed active holders groups) {uid : String} {group : List Record}
    (had : (active.get? uid).getD [] = group) :
    Indexed (active.erase uid) (holders.filter fun (key, holder) =>
      !((group.filterMap Record.key?).contains key && holder == uid)) groups where
  active_unique := Table.unique_erase valid.active_unique uid
  holders_unique := Table.unique_filter valid.holders_unique _
  groups_unique := valid.groups_unique
  kept := valid.kept
  bound := by
    intro uid' group' found
    rw [Table.get?_erase] at found
    by_cases same : uid = uid'
    · simp [same] at found
    · simp only [same, ↓reduceIte] at found
      exact valid.bound uid' group' found
  holds := by
    intro key uid'
    rw [Table.get?_filter valid.holders_unique, Option.filter_eq_some_iff, valid.holds,
      Table.get?_erase]
    by_cases same : uid = uid'
    · subst same
      simp only [↓reduceIte, reduceCtorEq, false_and, exists_false, iff_false, not_and]
      rintro ⟨group', found, r, member, known⟩
      -- A record that the pod had names an ordinal that is struck out with it.
      have inside : r ∈ group := by
        rw [← had, found]
        exact member
      have listed : key ∈ group.filterMap Record.key? := List.mem_filterMap.mpr ⟨r, inside, known⟩
      simp [listed]
    · have other : uid' ≠ uid := Ne.symm same
      simp [same, other]

end Indexed

namespace Rebuilding
variable {s s' : Rebuilding} {r : Record}

def SameFiled (s s' : Rebuilding) : Prop :=
  s'.active = s.active ∧ s'.holders = s.holders ∧ s'.retained = s.retained

theorem drop_filed (s : Rebuilding) (r : Record) : SameFiled s (s.drop r) := by
  unfold drop
  split
  · exact ⟨rfl, rfl, rfl⟩
  · split <;> exact ⟨rfl, rfl, rfl⟩

theorem drops_filed (s : Rebuilding) (records : List Record) :
    SameFiled s (records.foldl drop s) := by
  induction records generalizing s with
  | nil => exact ⟨rfl, rfl, rfl⟩
  | cons r rest ih =>
      obtain ⟨active, holders, retained⟩ := drop_filed s r
      obtain ⟨active', holders', retained'⟩ := ih (s.drop r)
      exact ⟨active'.trans active, holders'.trans holders, retained'.trans retained⟩

theorem reserve?_filed (reserved : s.reserve? r = some s') : SameFiled s s' := by
  unfold reserve? at reserved
  split at reserved
  · cases reserved
  · split at reserved
    · cases reserved
      exact ⟨rfl, rfl, rfl⟩
    · cases reserved

def ofPools (pools : Table String Pool) : Rebuilding where
  pools := pools.map fun (name, pool) => (name, pool.clear)

/-- What has been taken over so far agrees; what is both retained and held is settled at the end. -/
def Agrees (s : Rebuilding) : Prop := Indexed s.active s.holders s.retained

theorem agrees_of_filed (valid : s.Agrees) (same : SameFiled s s') : s'.Agrees := by
  unfold Agrees at *
  rw [same.1, same.2.1, same.2.2]
  exact valid

theorem agrees_addActive {holders : Table OrdinalKey String} (valid : s.Agrees)
    (named : r.binding.podUID ≠ "") (unique : holders.Unique)
    (now : ∀ key uid, holders.get? key = some uid ↔
      s.holders.get? key = some uid ∨ (uid = r.binding.podUID ∧ r.key? = some key)) :
    Agrees { s with active := s.active.gather r.binding.podUID r, holders := holders } := by
  refine valid.put_active named (by simp) ?_ unique ?_ ?_
  · intro r' member
    rcases List.mem_append.mp member with before | last
    · obtain ⟨group, found, before⟩ := Table.mem_group before
      exact (valid.bound _ _ found).2.2 r' before
    · rw [List.mem_singleton.mp last]
  · intro r' member
    exact List.mem_append_left _ member
  · intro key uid
    rw [now]
    constructor
    · rintro (before | ⟨same, known⟩)
      · exact .inl before
      · exact .inr ⟨same, r, by simp, known⟩
    · rintro (before | ⟨same, r', member, known⟩)
      · exact .inl before
      · rcases List.mem_append.mp member with before | last
        · left
          -- What the pod had before, it holds already.
          obtain ⟨group, found, before⟩ := Table.mem_group before
          rw [same]
          exact (valid.holds key _).mpr ⟨group, found, r', before, known⟩
        · rw [List.mem_singleton.mp last] at known
          exact .inr ⟨same, known⟩

theorem agrees_file (valid : s.Agrees) (r : Record) : (s.file r).Agrees := by
  unfold file
  by_cases unnamed : r.binding.podUID = ""
  · rw [if_pos unnamed]
    split
    case h_1 key free known =>
      have apart : r.binding.podUID = "" ∧ r.binding.nodeName = "" := by
        simpa [Binding.isRetained] using free
      exact valid.gather_group known apart
    case h_2 => exact agrees_of_filed valid (drop_filed s r)
  · rw [if_neg unnamed]
    split
    case h_1 none_known =>
      exact agrees_addActive valid unnamed valid.holders_unique (by simp [none_known])
    case h_2 key known =>
      split
      case h_1 absent =>
        -- The ordinal was free, so the pod now holds it beside what was held before.
        have now (key' : OrdinalKey) (uid : String) :
            (s.holders.put key r.binding.podUID).get? key' = some uid ↔
              s.holders.get? key' = some uid ∨ (uid = r.binding.podUID ∧ r.key? = some key') := by
          rw [Table.get?_put, known]
          by_cases same : key = key'
          · subst same
            simp [absent, eq_comm]
          · simp [same]
        exact agrees_addActive (s := s) valid unnamed (Table.unique_put valid.holders_unique key _) now
      case h_2 holder held =>
        split
        case isTrue own =>
          -- The pod held the ordinal before, so nothing is held that was not.
          refine agrees_addActive valid unnamed valid.holders_unique ?_
          intro key' uid
          rw [known]
          constructor
          · exact Or.inl
          · rintro (before | ⟨rfl, same⟩)
            · exact before
            · cases same
              rw [held, own]
        case isFalse => exact agrees_of_filed valid (drop_filed s r)

theorem agrees_adopt (valid : s.Agrees) (r : Record) : (s.adopt r).Agrees := by
  unfold adopt
  split
  case h_1 reserved => exact agrees_file (agrees_of_filed valid (reserve?_filed reserved)) r
  case h_2 => exact valid

theorem agrees_adopts (valid : s.Agrees) (records : List Record) :
    (records.foldl adopt s).Agrees := by
  induction records generalizing s with
  | nil => exact valid
  | cons r rest ih => exact ih (agrees_adopt valid r)

def kept (s : Rebuilding) : Table OrdinalKey (List Record) :=
  s.retained.filter fun (key, _) => !s.holders.has key

def lost (s : Rebuilding) : Table OrdinalKey (List Record) :=
  s.retained.filter fun (key, _) => s.holders.has key

theorem settle_eq (s : Rebuilding) :
    s.settle = s.lost.values.flatten.foldl drop { s with retained := s.kept } := rfl

theorem settle_filed (s : Rebuilding) : SameFiled { s with retained := s.kept } s.settle := by
  rw [settle_eq]
  exact drops_filed _ _

/-- At the end no ordinal is retained that a pod holds. -/
theorem agrees_settle (valid : s.Agrees) :
    s.settle.Agrees ∧
      ∀ key uid, s.settle.holders.get? key = some uid → s.settle.retained.get? key = none := by
  have same := settle_filed s
  constructor
  · exact agrees_of_filed (s := { s with retained := s.kept }) (valid.filter_groups _) same
  · intro key uid held
    rw [same.2.1] at held
    have taken : s.holders.has key = true := Table.has_iff.mpr ⟨uid, held⟩
    rw [same.2.2, kept, Table.get?_filter valid.groups_unique]
    simp [taken]

end Rebuilding

end PodAddressing
