import PodAddressing.Proofs.Json.Field
import PodAddressing.Proofs.RecordFile.Entries
import PodAddressing.Proofs.Resource.Spelling
/-!
Null in a field that could be left out. Some fields are read in such a way that null counts as nothing. In others it
stands for a text, and the text becomes part of the object, or it makes the entry of no use.
-/

namespace PodAddressing

/-- A field that can be left out of an entry, by the path of the object that has it and its name in there. -/
structure OptionalField (α : Type) where
  within : List String
  name : String
  /-- What null in the field stands for, if it does not count as nothing. -/
  standsFor : Option Json
  /-- Whether an object is as null in the field makes it. -/
  nulled : α → Bool
  /-- Whether something else is read where there is no such field. -/
  hides : Bool

namespace OptionalField
variable {α : Type} {parse : Json → Except Fault α} {f : OptionalField α}

/-- A field in which null counts as nothing. -/
def lenient (within : List String) (name : String) : OptionalField α := ⟨within, name, none, fun _ => true, false⟩

/-- A field that spells a member of an object, whatever is in it. -/
def text (within : List String) (name : String) (member : α → String) : OptionalField α :=
  ⟨within, name, some (.text "None"), fun obj => "None" == member obj, false⟩

/-- A field in which null is as bad as some other value, and the entry is not read. -/
def refused (within : List String) (name : String) (value : Json) : OptionalField α :=
  ⟨within, name, some value, fun _ => false, false⟩

def put (f : OptionalField α) (found : Option Json) (v : Json) : Json :=
  v.alterAt (Json.putField f.name found) f.within

def Open (f : OptionalField α) (v : Json) : Prop := (v.fieldsAt f.within).isSome = true

instance {v : Json} : Decidable (f.Open v) := inferInstanceAs (Decidable (_ = true))

/-- How null in a field of an entry is read: as what it stands for. If the entry is read without the field, it is read
as the same object with null just if the object is as null makes it anyway, and if it is not read, then neither is it
with null. Every entry is read with null as it is without the field just if null stands for nothing. -/
structure ReadsNull (parse : Json → Except Fault α) (f : OptionalField α) (v : Json) : Prop where
  stands : parse (f.put (some .null) v) = parse (f.put f.standsFor v)
  nulled : ∀ obj, f.Open v → parse (f.put (some .null) v) = .ok obj → f.nulled obj = true
  kept : ∀ obj, f.Open v → parse (f.put none v) = .ok obj →
    (parse (f.put (some .null) v) = .ok obj ↔ f.nulled obj = true)
  unread : f.hides = false → (∃ obj, parse (f.put (some .null) v) = .ok obj) → ∃ obj, parse (f.put none v) = .ok obj
  lenient : (∀ entry, parse (f.put (some .null) entry) = parse (f.put none entry)) ↔ f.standsFor = none

structure ReadsNullIn (parse : Json → Except Fault α) (f : OptionalField α) (frame : List (String × Json) → Json)
    (fields : List (String × Json)) : Prop where
  stands : parse (frame (Json.putField f.name (some .null) fields)) =
    parse (frame (Json.putField f.name f.standsFor fields))
  nulled : ∀ obj, parse (frame (Json.putField f.name (some .null) fields)) = .ok obj → f.nulled obj = true
  kept : ∀ obj, parse (frame (Json.putField f.name none fields)) = .ok obj → f.nulled obj = true →
    parse (frame (Json.putField f.name (some .null) fields)) = .ok obj
  unread : f.hides = false → (∃ obj, parse (frame (Json.putField f.name (some .null) fields)) = .ok obj) →
    ∃ obj, parse (frame (Json.putField f.name none fields)) = .ok obj

/-- Whether an entry shows that null in the field does not count as nothing. -/
def Exposed (parse : Json → Except Fault α) (f : OptionalField α) (v : Json) : Prop :=
  f.Open v ∧ ((parse (f.put none v)).toOption.map f.nulled) = some false

instance {v : Json} : Decidable (f.Exposed parse v) := inferInstanceAs (Decidable (_ ∧ _))

theorem readsNull_of_frames
    (framed : ∀ frame fields, Json.Frame f.within frame → ReadsNullIn parse f frame fields)
    (exposed : f.standsFor = none ∨ ∃ v, f.Exposed parse v) (v : Json) : ReadsNull parse f v := by
  have around {v : Json} (opened : f.Open v) :
      ∃ frame fields, ReadsNullIn parse f frame fields ∧
        ∀ found, f.put found v = frame (Json.putField f.name found fields) := by
    obtain ⟨fields, there⟩ := Option.isSome_iff_exists.mp opened
    obtain ⟨frame, around, altered⟩ := Json.exists_frame there
    exact ⟨frame, fields, framed frame fields around, fun found => altered _⟩
  have closed {v : Json} (closed : ¬ f.Open v) (found : Option Json) : f.put found v = v :=
    Json.alterAt_of_none (Option.not_isSome_iff_eq_none.mp closed)
  have stands (v : Json) : parse (f.put (some .null) v) = parse (f.put f.standsFor v) := by
    by_cases opened : f.Open v
    · obtain ⟨frame, fields, reads, altered⟩ := around opened
      rw [altered, altered, reads.stands]
    · rw [closed opened, closed opened]
  have nulled (v : Json) (obj : α) (opened : f.Open v) (read : parse (f.put (some .null) v) = .ok obj) :
      f.nulled obj = true := by
    obtain ⟨frame, fields, reads, altered⟩ := around opened
    exact reads.nulled obj (altered _ ▸ read)
  refine ⟨stands v, nulled v, fun obj opened read => ⟨nulled v obj opened, fun as_nulled => ?_⟩,
    fun hides read => ?_, ⟨fun same => ?_, fun nothing v => nothing ▸ stands v⟩⟩
  · obtain ⟨frame, fields, reads, altered⟩ := around opened
    rw [altered] at read ⊢
    exact reads.kept obj read as_nulled
  · by_cases opened : f.Open v
    · obtain ⟨frame, fields, reads, altered⟩ := around opened
      rw [altered] at read ⊢
      exact reads.unread hides read
    · rw [closed opened] at read ⊢
      exact read
  · rcases exposed with nothing | ⟨v, opened, apart⟩
    · exact nothing
    -- If null counted as nothing, what is read without the field would be as null makes it.
    · obtain ⟨obj, read, unlike⟩ := Option.map_eq_some_iff.mp apart
      have as_nulled := nulled v obj opened ((same v).trans (toOption_eq_some_iff.mp read))
      rw [unlike] at as_nulled
      cases as_nulled

/-- Where one entry shows it of every field in which null does not count as nothing. -/
theorem readsNull_of_sample {listed : List (OptionalField α)} {sample : Json}
    (framed : ∀ f ∈ listed, ∀ frame fields, Json.Frame f.within frame → ReadsNullIn parse f frame fields)
    (exposed : ∀ f ∈ listed, f.standsFor = none ∨ f.Exposed parse sample) (v : Json) :
    ∀ f ∈ listed, ReadsNull parse f v :=
  fun f among => readsNull_of_frames (framed f among) ((exposed f among).imp_right fun shown => ⟨sample, shown⟩) v

section Kinds
variable {within : List String} {name : String} {frame : List (String × Json) → Json} {x : Json}
variable {fields : List (String × Json)} {member : α → String}

theorem readsNullIn_of_same (same : parse (frame (Json.putField name (some .null) fields)) =
    parse (frame (Json.putField name none fields))) : ReadsNullIn parse (.lenient within name) frame fields :=
  ⟨same, fun _ _ => rfl, fun _ read _ => same.trans read, fun _ ⟨obj, read⟩ => ⟨obj, same.symm.trans read⟩⟩

theorem readsNullIn_of_member (default : String) (apart : default ≠ "None")
    (described : ∀ x, parse (frame (Json.putField name (some x) fields)) =
      parse (frame (Json.putField name (some (.text x.describe)) fields)))
    (spelt : ∀ found obj, parse (frame (Json.putField name found fields)) = .ok obj →
      (found.map Json.describe).getD default = member obj)
    (unread : (∃ obj, parse (frame (Json.putField name (some .null) fields)) = .ok obj) →
      ∃ obj, parse (frame (Json.putField name none fields)) = .ok obj) :
    ReadsNullIn parse (.text within name member) frame fields := by
  refine ⟨described .null, fun obj read => beq_iff_eq.mpr (spelt _ obj read), fun obj read as_nulled => ?_,
    fun _ => unread⟩
  have absent : default = member obj := spelt none obj read
  exact absurd (absent.trans (beq_iff_eq.mp as_nulled).symm) apart

theorem readsNullIn_of_refused (stands : parse (frame (Json.putField name (some .null) fields)) =
    parse (frame (Json.putField name (some x) fields)))
    (bad : ∀ obj, parse (frame (Json.putField name (some x) fields)) ≠ .ok obj) :
    ReadsNullIn parse (.refused within name x) frame fields :=
  ⟨stands, fun obj read => absurd (stands ▸ read) (bad obj), (fun _ _ as_nulled => by cases as_nulled),
    fun _ ⟨obj, read⟩ => absurd (stands ▸ read) (bad obj)⟩

end Kinds

end OptionalField

section Fields
variable {name : String} {fields : List (String × Json)}

open OptionalField

@[simp] theorem Json.filter_null : (some Json.null).filter Json.holds = none := rfl

@[simp] theorem NetworkType.ofText_none : NetworkType.ofText "None" = .error (.bad (.networkType "None")) := by
  decide +kernel

@[simp] theorem AddressList.ofJson_null : AddressList.ofJson .null = .ok [] := rfl

@[simp] theorem AddressList.ofJson_nil : AddressList.ofJson (.list []) = .ok [] := rfl

namespace Pod

def nodeNameField : OptionalField Pod := .text [] "nodeName" (·.nodeName)

def optional : List (OptionalField Pod) := [
  .text [] "namespace" (·.ns),
  nodeNameField,
  .lenient [] "owner",
  .text ["owner"] "uid" fun p => p.owner.elim "" (·.uid),
  .refused [] "networkType" (.text "None"),
  .lenient [] "families",
  .lenient [] "subnets"]

theorem uid_of_ownerOf {owner : Option Owner} (read : ownerOf (.object fields) = .ok owner) :
    (Json.text? "uid" fields).getD "" = owner.elim "" (·.uid) := by
  unfold ownerOf at read
  split at read
  case isTrue =>
    simp only [bind_eq_ok_iff, Json.textFieldOr_object, Except.ok.injEq, exists_eq_left', pure_eq_ok_iff] at read
    obtain ⟨kind, _, name, _, rfl⟩ := read
    rfl
  case isFalse nothing =>
    cases fields with
    | nil =>
        cases read
        rfl
    | cons => exact absurd rfl nothing

theorem readsNullIn : ∀ f ∈ optional, ∀ frame fields, Json.Frame f.within frame →
    f.ReadsNullIn ofJson frame fields := by
  simp only [optional, nodeNameField, List.forall_mem_cons]
  refine ⟨?ns, ?nodeName, ?owner, ?ownerUid, ?networkType, ?families, ?subnets, fun _ none => by cases none⟩
  case owner | families | subnets =>
    rintro _ fields ⟨⟩
    exact readsNullIn_of_same (by simp [ofJson])
  case ns =>
    rintro _ fields ⟨⟩
    refine readsNullIn_of_member "default" (by decide) (by simp [ofJson]) (fun found p read => ?_)
      (by simp [exists_ofJson_iff])
    simpa using (ofJson_eq_ok_iff.mp read).ns
  case nodeName =>
    rintro _ fields ⟨⟩
    refine readsNullIn_of_member "" (by decide) (by simp [ofJson]) (fun found p read => ?_)
      (by simp [exists_ofJson_iff])
    simpa using (ofJson_eq_ok_iff.mp read).nodeName
  case networkType =>
    rintro _ fields ⟨⟩
    exact readsNullIn_of_refused (by simp [ofJson]) fun p read => by
      simpa using (ofJson_eq_ok_iff.mp read).networkType
  case ownerUid =>
    rintro _ owner (_ | ⟨fields, ⟨⟩⟩)
    refine readsNullIn_of_member "" (by decide) (by simp [ofJson, ownerOf, Json.holds_putField])
      (fun found p read => ?_) ?_
    case refine_2 =>
      simp only [exists_ofJson_iff, Json.text?_putField, Json.lookup?_putField, String.reduceEq, ↓reduceIte,
        Option.getD_some]
      rintro ⟨name, uid, owned, others⟩
      refine ⟨name, uid, exists_ownerOf_iff.mpr fun _ => ?_, others⟩
      simpa using exists_ownerOf_iff.mp owned Json.holds_putField
    have owned : ownerOf (.object (Json.putField "uid" found owner)) = .ok p.owner := by
      simpa using (ofJson_eq_ok_iff.mp read).owner
    simpa using uid_of_ownerOf owned

end Pod

namespace StatefulSet

def optional : List (OptionalField StatefulSet) := [
  .text [] "namespace" (·.ns),
  .text [] "uid" (·.uid),
  .refused [] "replicas" (.list [])]

theorem readsNullIn : ∀ f ∈ optional, ∀ frame fields, Json.Frame f.within frame →
    f.ReadsNullIn ofJson frame fields := by
  simp only [optional, List.forall_mem_cons]
  refine ⟨?ns, ?uid, ?replicas, fun _ none => by cases none⟩ <;> rintro _ fields ⟨⟩
  case ns =>
    refine readsNullIn_of_member "default" (by decide) (by simp [ofJson]) (fun found s read => ?_)
      (by simp [exists_ofJson_iff])
    simpa using (ofJson_eq_ok_iff.mp read).ns
  case uid =>
    refine readsNullIn_of_member "" (by decide) (by simp [ofJson]) (fun found s read => ?_)
      (by simp [exists_ofJson_iff])
    simpa using (ofJson_eq_ok_iff.mp read).uid
  case replicas =>
    exact readsNullIn_of_refused (by simp [ofJson, Json.toInteger]) fun s read => by
      simpa [Json.toInteger] using (ofJson_eq_ok_iff.mp read).replicas

end StatefulSet

namespace RemotePeer

def optional : List (OptionalField RemotePeer) := [
  .text [] "cluster" (·.cluster),
  .text [] "node" (·.node),
  .lenient [] "annotations",
  .lenient ["annotations"] nodeLocalAnnotation,
  -- Null lists nothing, but it hides what is annotated.
  ⟨[], "nodeLocalVxlanIPs", some (.list []), fun p => p.nodeLocalIPs.isEmpty, true⟩,
  .lenient [] "endpointIPs"]

@[simp] theorem fieldOr_annotations {default : Json} :
    Json.fieldOr name default (if (Json.object fields).holds = true then .object fields else .object []) =
      .ok ((Json.lookup? name fields).getD default) := by
  cases fields <;> rfl

theorem readsNullIn : ∀ f ∈ optional, ∀ frame fields, Json.Frame f.within frame →
    f.ReadsNullIn ofJson frame fields := by
  simp only [optional, List.forall_mem_cons]
  refine ⟨?cluster, ?node, ?annotations, ?annotated, ?nodeLocal, ?endpoints, fun _ none => by cases none⟩
  case annotations | endpoints =>
    rintro _ fields ⟨⟩
    exact readsNullIn_of_same (by simp [ofJson])
  case annotated =>
    rintro _ inner (_ | ⟨fields, ⟨⟩⟩)
    exact readsNullIn_of_same (by simp [ofJson])
  case cluster =>
    rintro _ fields ⟨⟩
    refine readsNullIn_of_member "" (by decide) (by simp [ofJson]) (fun found p read => ?_)
      (by simp [exists_ofJson_iff])
    simpa using (ofJson_eq_ok_iff.mp read).cluster
  case node =>
    -- Its default is the name, which may be what null stands for.
    rintro _ fields ⟨⟩
    refine ⟨by simp [text, ofJson], fun p read => ?_, fun p read as_nulled => ?_,
      fun _ => by simp [text, exists_ofJson_iff]⟩
    · exact beq_iff_eq.mpr (by simpa [text] using (ofJson_eq_ok_iff.mp read).node)
    · have same : "None" = p.node := beq_iff_eq.mp as_nulled
      have spells := ofJson_eq_ok_iff.mp read
      simp only [text, ofJson_eq_ok_iff, spells_iff, Json.text?_putField, Json.lookup?_putField, String.reduceEq,
        ↓reduceIte] at spells ⊢
      obtain ⟨name, cluster, _, others⟩ := spells
      exact ⟨name, cluster, same, others⟩
  case nodeLocal =>
    rintro _ fields ⟨⟩
    refine ⟨by simp [ofJson], fun p read => ?_, fun p read as_nulled => ?_, fun hides => by cases hides⟩
    · obtain ⟨_, _, listed⟩ := (ofJson_eq_ok_iff.mp read).nodeLocalIPs
      simpa using listed
    · have empty : p.nodeLocalIPs = [] := List.isEmpty_iff.mp as_nulled
      have spells := ofJson_eq_ok_iff.mp read
      simp only [ofJson_eq_ok_iff, spells_iff, Json.text?_putField, Json.lookup?_putField, String.reduceEq,
        ↓reduceIte, empty] at spells ⊢
      obtain ⟨name, cluster, node, ip, mac, ⟨noted, annotated, _⟩, endpoints⟩ := spells
      exact ⟨name, cluster, node, ip, mac, ⟨noted, annotated, rfl⟩, endpoints⟩

end RemotePeer

namespace RemoteSubnet

def optional : List (OptionalField RemoteSubnet) := [
  .text [] "cluster" (·.cluster),
  .refused [] "networkType" (.text "None"),
  .lenient [] "gateway"]

theorem readsNullIn : ∀ f ∈ optional, ∀ frame fields, Json.Frame f.within frame →
    f.ReadsNullIn ofJson frame fields := by
  simp only [optional, List.forall_mem_cons]
  refine ⟨?cluster, ?networkType, ?gateway, fun _ none => by cases none⟩ <;> rintro _ fields ⟨⟩
  case gateway => exact readsNullIn_of_same (by simp [ofJson])
  case cluster =>
    refine readsNullIn_of_member "" (by decide) (by simp [ofJson]) (fun found s read => ?_)
      (by simp [exists_ofJson_iff])
    simpa using (ofJson_eq_ok_iff.mp read).cluster
  case networkType =>
    exact readsNullIn_of_refused (by simp [ofJson]) fun s read => by
      simpa using (ofJson_eq_ok_iff.mp read).networkType

end RemoteSubnet

namespace Record
variable {found : Option Json} {binding referred : List (String × Json)} {r : Record}

def podUIDField : OptionalField Record := .text ["binding"] "podUID" (·.binding.podUID)

def nodeNameField : OptionalField Record := .text ["binding"] "nodeName" (·.binding.nodeName)

def optional : List (OptionalField Record) := [
  .lenient [] "family",
  .text [] "namespace" (·.ns),
  .lenient [] "binding",
  podUIDField,
  .text ["binding"] "podName" (·.binding.podName),
  nodeNameField,
  .lenient ["binding"] "referredObject",
  .text ["binding", "referredObject"] "kind" (·.binding.owner.kind),
  .text ["binding", "referredObject"] "name" (·.binding.owner.name),
  .text ["binding", "referredObject"] "uid" (·.binding.owner.uid),
  .lenient ["binding"] "stateful"]

@[simp] theorem content_putField {k : String} : content k (Json.putField name found fields) =
    if k = name then (found.filter Json.holds).getD (.object []) else content k fields := by
  unfold content
  rw [Json.lookup?_putField]
  split <;> rfl

@[simp] theorem filled_object : ((some (Json.object fields)).filter Json.holds).getD (.object []) = .object fields := by
  cases fields <;> rfl

theorem spells_of_binding (read : ofJson (.object (Json.putField "binding" (some (.object binding)) fields)) = .ok r) :
    ∃ referred, Spells (Json.putField "binding" (some (.object binding)) fields) binding referred r := by
  obtain ⟨binding', referred, spells⟩ := ofJson_eq_ok_iff.mp read
  have bound := spells.bound
  simp only [content_putField, ↓reduceIte, filled_object, Json.object.injEq] at bound
  subst bound
  exact ⟨referred, spells⟩

def owning (fields binding referred : List (String × Json)) : List (String × Json) :=
  Json.putField "binding" (some (.object (Json.putField "referredObject" (some (.object referred)) binding))) fields

theorem spells_of_owning (read : ofJson (.object (owning fields binding referred)) = .ok r) :
    Spells (owning fields binding referred) (Json.putField "referredObject" (some (.object referred)) binding)
      referred r := by
  obtain ⟨referred', spells⟩ := spells_of_binding read
  have owned := spells.owned
  simp only [content_putField, ↓reduceIte, filled_object, Json.object.injEq] at owned
  subst owned
  exact spells

theorem readsNullIn_ownerName : ∀ frame fields, Json.Frame ["binding", "referredObject"] frame →
    ReadsNullIn ofJson (.text ["binding", "referredObject"] "name" (·.binding.owner.name)) frame fields := by
  -- Its default is the name of the pod, which may be what null stands for.
  rintro _ referred (_ | ⟨fields, _ | ⟨binding, ⟨⟩⟩⟩)
  refine ⟨by simp [text, ofJson, objectField_object, ownerOf], fun r read => ?_, fun r read as_nulled => ?_,
    fun _ => by simp [text, exists_ofJson_iff]⟩
  · exact beq_iff_eq.mpr (by simpa [text] using (spells_of_owning read).ownerName)
  · have same : "None" = r.binding.owner.name := beq_iff_eq.mp as_nulled
    have spells := spells_of_owning read
    let nulled := Json.putField "name" (some .null) referred
    refine ofJson_eq_ok_iff.mpr ⟨Json.putField "referredObject" (some (.object nulled)) binding, nulled, ?_⟩
    simp only [nulled, owning, text, spells_iff, content_putField, filled_object, Json.text?_putField,
      Json.lookup?_putField, String.reduceEq, ↓reduceIte] at spells ⊢
    obtain ⟨_, _, address, family, mac, subnet, network, ns, uid, podName, node, kind, _, others⟩ := spells
    exact ⟨trivial, trivial, address, family, mac, subnet, network, ns, uid, podName, node, kind, same, others⟩

theorem readsNullIn : ∀ f ∈ optional, ∀ frame fields, Json.Frame f.within frame →
    f.ReadsNullIn ofJson frame fields := by
  simp only [optional, podUIDField, nodeNameField, List.forall_mem_cons]
  refine ⟨?family, ?ns, ?binding, ?podUID, ?podName, ?nodeName, ?referred, ?ownerKind, readsNullIn_ownerName, ?ownerUid,
    ?stateful, fun _ none => by cases none⟩
  case family | binding =>
    rintro _ fields ⟨⟩
    exact readsNullIn_of_same (by simp [ofJson, objectField_object, familyOf])
  case referred | stateful =>
    rintro _ binding (_ | ⟨fields, ⟨⟩⟩)
    exact readsNullIn_of_same (by simp [ofJson, objectField_object, indexOf])
  case ns =>
    rintro _ fields ⟨⟩
    refine readsNullIn_of_member "default" (by decide) (by simp [ofJson, objectField_object]) (fun found r read => ?_)
      (by simp [exists_ofJson_iff])
    obtain ⟨_, _, spells⟩ := ofJson_eq_ok_iff.mp read
    simpa using spells.ns
  case podUID | podName | nodeName =>
    rintro _ binding (_ | ⟨fields, ⟨⟩⟩)
    refine readsNullIn_of_member "" (by decide) (by simp [ofJson, objectField_object]) (fun found r read => ?_)
      (by simp [exists_ofJson_iff])
    obtain ⟨_, spells⟩ := spells_of_binding read
    simp [← spells.podUID, ← spells.podName, ← spells.nodeName]
  case ownerKind =>
    rintro _ referred (_ | ⟨fields, _ | ⟨binding, ⟨⟩⟩⟩)
    refine readsNullIn_of_member podKind (by decide) (by simp [ofJson, objectField_object, ownerOf])
      (fun found r read => ?_) (by simp [exists_ofJson_iff])
    simpa using (spells_of_owning read).ownerKind
  case ownerUid =>
    rintro _ referred (_ | ⟨fields, _ | ⟨binding, ⟨⟩⟩⟩)
    refine readsNullIn_of_member "" (by decide) (by simp [ofJson, objectField_object, ownerOf]) (fun found r read => ?_)
      (by simp [exists_ofJson_iff])
    simpa using (spells_of_owning read).ownerUid

end Record

end Fields

section Entries

/-- Entries that leave out what can be left out, but for the objects that have optional fields of their own. -/
def barePod : Json :=
  .object [("name", .text "web"), ("uid", .text "u1"),
    ("owner", .object [("kind", .text "ReplicaSet"), ("name", .text "web")])]

def bareSet : Json := .object [("name", .text "web")]

def barePeer : Json :=
  .object [("name", .text "east"), ("vtepIP", .text "192.0.2.1"), ("vtepMAC", .text "02:00:00:00:00:01"),
    ("annotations", .object (Json.setField RemotePeer.nodeLocalAnnotation (.text "192.0.2.2") []))]

def bareSubnet : Json := .object [("name", .text "east"), ("cidr", .text "10.1.0.0/24")]

def bareRecord : Json :=
  .object [("address", .text "10.0.0.2"), ("mac", .text "02:00:00:00:00:02"), ("subnet", .text "four"),
    ("network", .text "pods"), ("binding", .object [("referredObject", .object [])])]

theorem Pod.exposed : ∀ f ∈ Pod.optional, f.standsFor = none ∨ f.Exposed Pod.ofJson barePod := by decide +kernel

theorem StatefulSet.exposed :
    ∀ f ∈ StatefulSet.optional, f.standsFor = none ∨ f.Exposed StatefulSet.ofJson bareSet := by decide +kernel

theorem RemotePeer.exposed :
    ∀ f ∈ RemotePeer.optional, f.standsFor = none ∨ f.Exposed RemotePeer.ofJson barePeer := by decide +kernel

theorem RemoteSubnet.exposed :
    ∀ f ∈ RemoteSubnet.optional, f.standsFor = none ∨ f.Exposed RemoteSubnet.ofJson bareSubnet := by decide +kernel

theorem Record.exposed : ∀ f ∈ Record.optional, f.standsFor = none ∨ f.Exposed Record.ofJson bareRecord := by
  decide +kernel

end Entries

open OptionalField

/-- An entry of any form, and what null is in each field that it could leave out: nothing, or what it stands for. A pod
is scheduled if there is null for its node, and a record is not retained if there is null for its pod or its node. -/
theorem null_read_as_nothing_iff (v : Json) :
    (∀ f ∈ Pod.optional, f.ReadsNull Pod.ofJson v) ∧
    (∀ f ∈ StatefulSet.optional, f.ReadsNull StatefulSet.ofJson v) ∧
    (∀ f ∈ RemotePeer.optional, f.ReadsNull RemotePeer.ofJson v) ∧
    (∀ f ∈ RemoteSubnet.optional, f.ReadsNull RemoteSubnet.ofJson v) ∧
    (∀ f ∈ Record.optional, f.ReadsNull Record.ofJson v) ∧
    (∀ p, Pod.nodeNameField.Open v → Pod.ofJson (Pod.nodeNameField.put (some .null) v) = .ok p →
      p.isScheduled = true) ∧
    ∀ f ∈ [Record.podUIDField, Record.nodeNameField], ∀ r, f.Open v →
      Record.ofJson (f.put (some .null) v) = .ok r → r.binding.isRetained = false := by
  have pods := readsNull_of_sample Pod.readsNullIn Pod.exposed v
  have records := readsNull_of_sample Record.readsNullIn Record.exposed v
  refine ⟨pods, readsNull_of_sample StatefulSet.readsNullIn StatefulSet.exposed v,
    readsNull_of_sample RemotePeer.readsNullIn RemotePeer.exposed v,
    readsNull_of_sample RemoteSubnet.readsNullIn RemoteSubnet.exposed v, records, fun p opened read => ?_,
    fun f among r opened read => ?_⟩
  · have known : "None" = p.nodeName :=
      beq_iff_eq.mp ((pods Pod.nodeNameField (by simp [Pod.optional])).nulled p opened read)
    simp [Pod.isScheduled, ← known]
  · have listed : f ∈ Record.optional := by
      simp only [Record.optional, List.mem_cons] at among ⊢
      tauto
    have known := (records f listed).nulled r opened read
    simp only [List.mem_cons, List.not_mem_nil, or_false] at among
    rcases among with rfl | rfl
    · have known : "None" = r.binding.podUID := beq_iff_eq.mp known
      simp [Binding.isRetained, ← known]
    · have known : "None" = r.binding.nodeName := beq_iff_eq.mp known
      simp [Binding.isRetained, ← known]

section Samples

/-- A pod with null for its subnets is read as it is without, and with null for its node it is scheduled. -/
theorem barePod_null :
    let subnets : OptionalField Pod := .lenient [] "subnets"
    Pod.ofJson (subnets.put (some .null) barePod) = Pod.ofJson (subnets.put none barePod) ∧
      Pod.nodeNameField.Open barePod ∧
      ∃ p, Pod.ofJson (Pod.nodeNameField.put (some .null) barePod) = .ok p ∧ p.isScheduled = true := by
  obtain ⟨pods, _, _, _, _, scheduled, _⟩ := null_read_as_nothing_iff barePod
  have reads := pods (.lenient [] "subnets") (by simp [Pod.optional])
  have opened : Pod.nodeNameField.Open barePod := by decide +kernel
  have read : Pod.ofJson (Pod.nodeNameField.put (some .null) barePod) =
      .ok ⟨"default", "web", "u1", "None", some ⟨"ReplicaSet", "web", ""⟩, .underlay, [.v4], none⟩ := by decide +kernel
  exact ⟨reads.lenient.mpr rfl barePod, opened, _, read, scheduled _ opened read⟩

/-- With null for its node a pod that waits for one is scheduled, and a record that is retained is bound to a pod with
null for its pod and its node. -/
theorem null_names_a_node :
    (Pod.ofJson barePod).map Pod.isScheduled = .ok false ∧
      (Pod.ofJson (Pod.nodeNameField.put (some .null) barePod)).map (fun p => (p.nodeName, p.isScheduled)) =
        .ok ("None", true) ∧
      (Record.ofJson bareRecord).map (·.binding.isRetained) = .ok true ∧
      (Record.ofJson (Record.podUIDField.put (some .null) (Record.nodeNameField.put (some .null) bareRecord))).map
        (fun r => (r.binding.podUID, r.binding.nodeName, r.binding.isRetained)) = .ok ("None", "None", false) := by
  decide +kernel

end Samples

end PodAddressing
