import PodAddressing.Proofs.Resource.Spelling
import PodAddressing.Proofs.Watch.Blocked
/-!
Which objects a key stands for. An object is known by its namespace and its name, and its key is made of the texts in
its entry. These differ where a namespace is read that the entry does not write out, and where a slash in a name looks
like the one between the namespace and the name.
-/

namespace PodAddressing

section Joining

theorem later_division {a b c d : String} {more : List Char} (before : c.toList = a.toList ++ more)
    (after : '/' :: b.toList = more ++ '/' :: d.toList) :
    (a = c ∧ b = d) ∨ ∃ middle, c = a ++ "/" ++ middle ∧ b = middle ++ "/" ++ d := by
  cases more with
  | nil =>
      rw [List.append_nil, String.toList_inj] at before
      rw [List.nil_append, List.cons.injEq, String.toList_inj] at after
      exact .inl ⟨before.symm, after.2⟩
  | cons mark middle =>
      rw [List.cons_append, List.cons.injEq] at after
      obtain ⟨rfl, after⟩ := after
      refine .inr ⟨String.ofList middle, String.toList_inj.mp ?_, String.toList_inj.mp ?_⟩
      · simpa [String.toList_append] using before
      · simpa [String.toList_append] using after

/-- A text that is joined with a slash can be divided at other slashes only. -/
theorem join_eq_join_iff {a b c d : String} : a ++ "/" ++ b = c ++ "/" ++ d ↔
    (a = c ∧ b = d) ∨ (∃ middle, c = a ++ "/" ++ middle ∧ b = middle ++ "/" ++ d) ∨
      ∃ middle, a = c ++ "/" ++ middle ∧ d = middle ++ "/" ++ b := by
  constructor
  · intro same
    have parts : a.toList ++ '/' :: b.toList = c.toList ++ '/' :: d.toList := by
      simpa [String.toList_append] using congrArg String.toList same
    rcases List.append_eq_append_iff.mp parts with ⟨more, before, after⟩ | ⟨more, before, after⟩
    · rcases later_division before after with same | later
      · exact .inl same
      · exact .inr (.inl later)
    · rcases later_division before after with ⟨rfl, rfl⟩ | later
      · exact .inl ⟨rfl, rfl⟩
      · exact .inr (.inr later)
  · rintro (⟨rfl, rfl⟩ | ⟨middle, rfl, rfl⟩ | ⟨middle, rfl, rfl⟩)
    · rfl
    · simp only [String.append_assoc]
    · simp only [String.append_assoc]

theorem join_ne_self {ns name : String} : ns ++ "/" ++ name ≠ name := by
  intro same
  have lengths := congrArg String.length same
  simp only [String.length_append] at lengths
  have slash : "/".length = 1 := rfl
  omega

end Joining

namespace Snapshot
variable {kind : Kind} {a b : Json} {p q : Snapshot} {fields : List (String × Json)}

def ns? : Snapshot → Option String
  | .pod p => some p.ns
  | .statefulSet s => some s.ns
  | .remotePeer _ | .remoteSubnet _ => none

/-- What an entry calls its object: the namespace that it writes out, if it writes out one that holds something, the
namespace that is read, and the name. -/
structure Label where
  written : Option String
  ns : String
  name : String
  deriving DecidableEq, Repr

def Label.key (l : Label) : String := l.written.elim l.name fun ns => ns ++ "/" ++ l.name

def Label.Plain (l : Label) : Prop := ∀ ns, l.written = some ns → l.ns = ns

def labelOf (entry : Json) : Label :=
  let fields := match entry with
    | .object fields => fields
    | _ => []
  { written := ((Json.lookup? "namespace" fields).filter Json.holds).map Json.describe
    ns := ((Json.lookup? "namespace" fields).map Json.describe).getD "default"
    name := ((Json.lookup? "name" fields).map Json.describe).getD "" }

namespace Label
variable {l m : Label}

/-- The ways in which the keys of two entries say one thing and their objects another. It counts which entry comes
first. -/
def Confused (l m : Label) : Prop :=
  match l.written, m.written with
  -- Two namespaces, neither of which is in its key.
  | none, none => l.name = m.name ∧ l.ns ≠ m.ns
  -- One object whose namespace is in one key only, or a name that is the whole of the other key.
  | none, some ns => (l.ns = ns ∧ l.name = m.name) ∨ l.name = ns ++ "/" ++ m.name
  | some _, none => False
  -- A name that begins with the end of the other namespace.
  | some ns, some ns' => ∃ middle, ns' = ns ++ "/" ++ middle ∧ l.name = middle ++ "/" ++ m.name

def Confusing (l m : Label) : Prop := l.Confused m ∨ m.Confused l

theorem confusing_comm : l.Confusing m ↔ m.Confusing l := or_comm

theorem key_eq_iff_of_half {ns : String} (bare : l.written = none) (written : m.written = some ns)
    (plain : m.ns = ns) : (l.key = m.key ↔ l.ns = m.ns ∧ l.name = m.name) ↔ ¬ l.Confusing m := by
  have keys : l.key = m.key ↔ l.name = ns ++ "/" ++ m.name := by simp [key, bare, written]
  have confusing : l.Confusing m ↔ (l.ns = ns ∧ l.name = m.name) ∨ l.name = ns ++ "/" ++ m.name := by
    simp [Confusing, Confused, bare, written]
  have apart : ¬ (l.name = m.name ∧ l.name = ns ++ "/" ++ m.name) := fun both =>
    join_ne_self (both.2.symm.trans both.1)
  rw [keys, confusing, plain]
  tauto

/-- Keys tell objects apart just if they are not confused. -/
theorem keys_identify_iff (plain : l.Plain) (plain' : m.Plain) :
    (l.key = m.key ↔ l.ns = m.ns ∧ l.name = m.name) ↔ ¬ l.Confusing m := by
  cases left : l.written with
  | none =>
      cases right : m.written with
      | none =>
          have keys : l.key = m.key ↔ l.name = m.name := by simp [key, left, right]
          have confusing : l.Confusing m ↔ l.name = m.name ∧ l.ns ≠ m.ns := by
            simp [Confusing, Confused, left, right, eq_comm]
          rw [keys, confusing]
          tauto
      | some ns => exact key_eq_iff_of_half left right (plain' ns right)
  | some ns =>
      cases right : m.written with
      | none =>
          rw [confusing_comm, eq_comm, eq_comm (a := l.ns), eq_comm (a := l.name)]
          exact key_eq_iff_of_half right left (plain ns left)
      | some ns' =>
          have keys : l.key = m.key ↔ ns ++ "/" ++ l.name = ns' ++ "/" ++ m.name := by simp [key, left, right]
          have confusing : l.Confusing m ↔
              (∃ middle, ns' = ns ++ "/" ++ middle ∧ l.name = middle ++ "/" ++ m.name) ∨
                ∃ middle, ns = ns' ++ "/" ++ middle ∧ m.name = middle ++ "/" ++ l.name := by
            simp [Confusing, Confused, left, right]
          have apart : l.Confusing m → l.name ≠ m.name := by
            rw [confusing]
            rintro (⟨middle, _, joined⟩ | ⟨middle, _, joined⟩) same
            · exact join_ne_self (joined.symm.trans same)
            · exact join_ne_self (joined.symm.trans same.symm)
          rw [keys, join_eq_join_iff, ← confusing, plain ns left, plain' ns' right]
          tauto

end Label

theorem plain_labelOf (entry : Json) : (labelOf entry).Plain := by
  intro ns written
  obtain ⟨v, given, rfl⟩ := Option.map_eq_some_iff.mp written
  have given := (Option.filter_eq_some_iff.mp given).1
  simp only [labelOf, given, Option.map_some, Option.getD_some]

theorem keyOf_of_named {name : String} (named : Json.text? "name" fields = some name) :
    keyOf (.object fields) = .ok (labelOf (.object fields)).key := by
  unfold keyOf
  rw [Json.textField_eq_ok_iff_text?.mpr named]
  simp only [Json.textField?_object, labelOf, Label.key, Json.text?] at named ⊢
  rw [named]
  rfl

instance : Decidable ((labelOf a).Confusing (labelOf b)) :=
  decidable_of_iff (¬ ((labelOf a).key = (labelOf b).key ↔
      (labelOf a).ns = (labelOf b).ns ∧ (labelOf a).name = (labelOf b).name)) <| by
    rw [Label.keys_identify_iff (plain_labelOf a) (plain_labelOf b), not_not]

theorem label_of_ofJson (housed : kind = .pod ∨ kind = .statefulSet) (described : ofJson kind a = .ok p) :
    p.ns? = some (labelOf a).ns ∧ p.name = (labelOf a).name ∧ keyOf a = .ok (labelOf a).key := by
  have shaped : a.IsObject := by
    by_contra shapeless
    rw [Listing.ofJson_of_shapeless shapeless] at described
    cases described
  obtain ⟨fields, rfl⟩ := shaped
  have named {name : String} (named : Json.text? "name" fields = some name) :
      name = (labelOf (.object fields)).name := by
    unfold Json.text? at named
    simp only [labelOf, named, Option.getD_some]
  rcases housed with rfl | rfl
  · obtain ⟨pod, spelt, rfl⟩ := ok_of_map described
    have spells := Pod.ofJson_eq_ok_iff.mp spelt
    exact ⟨congrArg some spells.ns.symm, named spells.name, keyOf_of_named spells.name⟩
  · obtain ⟨set, spelt, rfl⟩ := ok_of_map described
    have spells := StatefulSet.ofJson_eq_ok_iff.mp spelt
    exact ⟨congrArg some spells.ns.symm, named spells.name, keyOf_of_named spells.name⟩

theorem keys_identify_iff (housed : kind = .pod ∨ kind = .statefulSet) (left : ofJson kind a = .ok p)
    (right : ofJson kind b = .ok q) :
    (keyOf a = keyOf b ↔ p.ns? = q.ns? ∧ p.name = q.name) ↔ ¬ (labelOf a).Confusing (labelOf b) := by
  obtain ⟨ns, name, key⟩ := label_of_ofJson housed left
  obtain ⟨ns', name', key'⟩ := label_of_ofJson housed right
  rw [ns, ns', name, name', key, key', Except.ok.injEq, Option.some.injEq]
  exact Label.keys_identify_iff (plain_labelOf a) (plain_labelOf b)

end Snapshot

namespace Listing
variable {kind : Kind} {items : List Json}

def Unconfused (kind : Kind) (items : List Json) : Prop :=
  ∀ a ∈ legible kind items, ∀ b ∈ legible kind items, ¬ (Snapshot.labelOf a).Confusing (Snapshot.labelOf b)

instance : Decidable (Unconfused kind items) :=
  inferInstanceAs (Decidable (∀ a ∈ legible kind items, ∀ b ∈ legible kind items,
    ¬ (Snapshot.labelOf a).Confusing (Snapshot.labelOf b)))

theorem read_eq_ok_iff {entry : Json} {key : String} {obj : Snapshot} :
    read kind entry = .ok (key, obj) ↔ Snapshot.ofJson kind entry = .ok obj ∧ Snapshot.keyOf entry = .ok key := by
  simp only [read, bind_eq_ok_iff, pure_eq_ok_iff, Prod.mk.injEq]
  constructor
  · rintro ⟨_, described, _, known, rfl, rfl⟩
    exact ⟨described, known⟩
  · rintro ⟨described, known⟩
    exact ⟨obj, described, key, known, rfl, rfl⟩

theorem same_key_iff (housed : kind = .pod ∨ kind = .statefulSet) (unconfused : Unconfused kind items)
    {key key' : String} {obj obj' : Snapshot} (listed : (key, obj) ∈ entries kind items)
    (listed' : (key', obj') ∈ entries kind items) :
    key = key' ↔ obj.ns? = obj'.ns? ∧ obj.name = obj'.name := by
  have readable {entry : Json} {key : String} {obj : Snapshot} (among : entry ∈ items)
      (said : read kind entry = .ok (key, obj)) : entry ∈ legible kind items := by
    rw [legible, List.mem_filter, said]
    exact ⟨among, rfl⟩
  obtain ⟨a, among, said⟩ := mem_entries.mp listed
  obtain ⟨b, among', said'⟩ := mem_entries.mp listed'
  obtain ⟨left, own⟩ := read_eq_ok_iff.mp said
  obtain ⟨right, own'⟩ := read_eq_ok_iff.mp said'
  have identify := (Snapshot.keys_identify_iff housed left right).mpr
    (unconfused a (readable among said) b (readable among' said'))
  rw [← identify, own, own', Except.ok.injEq]

end Listing

namespace Watcher
variable {kind : Kind} {items items' : List Json} {key : String} {obj : Snapshot}

def listedBy (kind : Kind) (items : List Json) : Known := .ofEntries (Listing.entries kind items)

theorem kept_of_unconfused (housed : kind = .pod ∨ kind = .statefulSet) (unconfused : Listing.Unconfused kind items)
    (listed : (key, obj) ∈ Listing.entries kind items) :
    ∃ kept, (listedBy kind items).get? key = some kept ∧ kept.ns? = obj.ns? ∧ kept.name = obj.name := by
  obtain ⟨kept, found⟩ := Table.has_iff.mp (Table.has_ofEntries.mpr ⟨obj, listed⟩)
  have among := Table.mem_of_get? (Table.get?_ofEntries _ key ▸ found)
  exact ⟨kept, found, (Listing.same_key_iff housed unconfused (List.mem_reverse.mp among) listed).mp rfl⟩

theorem gone_of_unconfused (housed : kind = .pod ∨ kind = .statefulSet)
    (unconfused : Listing.Unconfused kind (items ++ items'))
    (withdrawn : (key, .deleted obj) ∈ due (listedBy kind items') (listedBy kind items)) {key' : String}
    {obj' : Snapshot} (listed : (key', obj') ∈ Listing.entries kind items') :
    ¬ (obj.ns? = obj'.ns? ∧ obj.name = obj'.name) := by
  intro same
  obtain ⟨known, absent, _⟩ := (mem_due (Table.unique_ofEntries _) (Table.unique_ofEntries _)).mp withdrawn
  have before := List.mem_reverse.mp (Table.mem_of_get? ((Table.get?_ofEntries _ key).symm.trans known))
  have joined : Listing.entries kind (items ++ items') = Listing.entries kind items ++ Listing.entries kind items' :=
    List.filterMap_append
  have one : key = key' := (Listing.same_key_iff housed unconfused (by rw [joined]; exact List.mem_append_left _ before)
    (by rw [joined]; exact List.mem_append_right _ listed)).mpr same
  subst one
  obtain ⟨other, found⟩ := Table.has_iff.mp (Table.has_ofEntries.mpr ⟨obj', listed⟩)
  exact absurd (found.symm.trans absent) (Option.some_ne_none other)

/-- The keys of two entries identify the objects of these just if the entries are not confused. Where no entries are, no
object takes the place of another one in a listing, and none is withdrawn while there is an entry of it. -/
theorem keyed_unless_confused (kind : Kind) (housed : kind = .pod ∨ kind = .statefulSet) :
    (∀ a b p q, Snapshot.ofJson kind a = .ok p → Snapshot.ofJson kind b = .ok q →
      ((Snapshot.keyOf a = Snapshot.keyOf b ↔ p.ns? = q.ns? ∧ p.name = q.name) ↔
        ¬ (Snapshot.labelOf a).Confusing (Snapshot.labelOf b))) ∧
    (∀ items, Listing.Unconfused kind items → ∀ key obj, (key, obj) ∈ Listing.entries kind items →
      ∃ kept, (listedBy kind items).get? key = some kept ∧ kept.ns? = obj.ns? ∧ kept.name = obj.name) ∧
    ∀ items items', Listing.Unconfused kind (items ++ items') →
      ∀ key obj, (key, .deleted obj) ∈ due (listedBy kind items') (listedBy kind items) →
        ∀ key' obj', (key', obj') ∈ Listing.entries kind items' → ¬ (obj.ns? = obj'.ns? ∧ obj.name = obj'.name) :=
  ⟨fun _ _ _ _ left right => Snapshot.keys_identify_iff housed left right,
    fun _ unconfused _ _ listed => kept_of_unconfused housed unconfused listed,
    fun _ _ unconfused _ _ withdrawn _ _ listed => gone_of_unconfused housed unconfused withdrawn listed⟩

section Sample

/-- The entry of a pod called web; `ns` is what it says of the namespace. -/
def webIn (ns : List (String × Json)) (node : String) : Json :=
  .object (ns ++ [("name", .text "web"), ("uid", .text "u1"), ("nodeName", .text node)])

def shopAndDefault : List Json :=
  [webIn [("namespace", .text "shop")] "node-1", webIn [("namespace", .text "default")] "node-1"]

def shopMoved : List Json := [webIn [("namespace", .text "shop")] "node-2"]

theorem shopAndDefault_keyed :
    (listedBy .pod shopAndDefault).keys = ["shop/web", "default/web"] ∧
      Listing.Unconfused .pod (shopAndDefault ++ shopMoved) ∧
      ("default/web", .deleted podListed) ∈ due (listedBy .pod shopMoved) (listedBy .pod shopAndDefault) ∧
      ∀ key obj, (key, obj) ∈ Listing.entries .pod shopMoved →
        ¬ (podListed.ns? = obj.ns? ∧ podListed.name = obj.name) := by
  have unconfused : Listing.Unconfused .pod (shopAndDefault ++ shopMoved) := by decide +kernel
  have withdrawn :
      ("default/web", .deleted podListed) ∈ due (listedBy .pod shopMoved) (listedBy .pod shopAndDefault) := by
    decide +kernel
  exact ⟨by decide +kernel, unconfused, withdrawn,
    (keyed_unless_confused .pod (.inl rfl)).2.2 shopAndDefault shopMoved unconfused _ _ withdrawn⟩

/-- A pod whose entry spells out the default namespace is another pod as far as keys go. -/
theorem default_spelt_out :
    Snapshot.ofJson .pod (webIn [] "node-1") = Snapshot.ofJson .pod (webIn [("namespace", .text "default")] "node-1") ∧
      Snapshot.keyOf (webIn [] "node-1") ≠ Snapshot.keyOf (webIn [("namespace", .text "default")] "node-1") ∧
      due (listedBy .pod [webIn [("namespace", .text "default")] "node-1"]) (listedBy .pod [webIn [] "node-1"]) =
        [("default/web", .created podListed), ("web", .deleted podListed)] := by
  refine ⟨by decide +kernel, by decide +kernel, by decide +kernel⟩

end Sample

end Watcher
end PodAddressing
