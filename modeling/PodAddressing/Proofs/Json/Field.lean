import PodAddressing.Json.Field
import PodAddressing.Network
import PodAddressing.Proofs.Basic
/-!
Taking values apart, and the faults that come of it. Whether a sequence of readings ends with a fault of some sort is
found out link by link: it is the fault of one reading, and all those before it have given something.
-/

namespace PodAddressing

section Faults
variable {α β : Type} {p : Fault → Prop} {result : Except Fault α} {fault : Fault}

def Fails (p : Fault → Prop) (result : Except Fault α) : Prop := ∃ fault, result = .error fault ∧ p fault

@[simp] theorem not_fails_ok {a : α} : ¬ Fails p (.ok a : Except Fault α) := by
  rintro ⟨_, failed, _⟩
  cases failed

@[simp] theorem not_fails_pure {a : α} : ¬ Fails p (pure a : Except Fault α) := not_fails_ok

@[simp] theorem fails_error_iff : Fails p (.error fault : Except Fault α) ↔ p fault := by
  simp [Fails]

instance [DecidablePred p] : Decidable (Fails p result) :=
  match result with
  | .ok _ => isFalse not_fails_ok
  | .error _ => decidable_of_iff _ fails_error_iff.symm

theorem fails_bind_iff {next : α → Except Fault β} :
    Fails p (result >>= next) ↔ Fails p result ∨ ∃ a, result = .ok a ∧ Fails p (next a) := by
  cases result with
  | error fault => simp [bind, Except.bind]
  | ok a => simp [bind, Except.bind]

theorem fails_map_iff {f : α → β} : Fails p (result.map f) ↔ Fails p result := by
  cases result <;> simp [Except.map]

theorem fails_mapM_iff {f : α → Except Fault β} {xs : List α} :
    Fails p (xs.mapM f) ↔
      ∃ before x after, xs = before ++ x :: after ∧ (∀ y ∈ before, (f y).isOk = true) ∧ Fails p (f x) := by
  induction xs with
  | nil => simp
  | cons x rest ih =>
      rw [List.mapM_cons, fails_bind_iff]
      simp only [fails_bind_iff, not_fails_pure, and_false, exists_false, or_false, ih]
      constructor
      · rintro (first | ⟨b, answered, before, x', after, rfl, read, failed⟩)
        · exact ⟨[], x, rest, rfl, by simp, first⟩
        · refine ⟨x :: before, x', after, rfl, List.forall_mem_cons.mpr ⟨?_, read⟩, failed⟩
          rw [answered]
          rfl
      · rintro ⟨before, x', after, same, read, failed⟩
        cases before with
        | nil =>
            cases same
            exact .inl failed
        | cons first before =>
            cases same
            obtain ⟨here, read⟩ := List.forall_mem_cons.mp read
            cases answered : f x with
            | error fault => rw [answered] at here; cases here
            | ok b => exact .inr ⟨b, rfl, before, x', after, rfl, read, failed⟩

theorem not_fails_mapM {f : α → Except Fault β} {xs : List α} (each : ∀ x ∈ xs, ¬ Fails p (f x)) :
    ¬ Fails p (xs.mapM f) := by
  rintro ⟨fault, failed, holds⟩
  obtain ⟨x, member, failed⟩ := mem_of_mapM_error failed
  exact each x member ⟨fault, failed, holds⟩

/-- Whether a result is a fault with which more is lost than the entry that has it. -/
def Fatal (result : Except Fault α) : Prop := ∃ fault, result = .error fault ∧ fault.spoilsEntryOnly = false

instance : Decidable (Fatal result) :=
  inferInstanceAs (Decidable (Fails (fun fault => fault.spoilsEntryOnly = false) result))

@[simp] theorem not_fatal_ok {a : α} : ¬ Fatal (.ok a : Except Fault α) := not_fails_ok

@[simp] theorem not_fatal_pure {a : α} : ¬ Fatal (pure a : Except Fault α) := not_fatal_ok

@[simp] theorem fatal_error_iff : Fatal (.error fault : Except Fault α) ↔ fault.spoilsEntryOnly = false :=
  fails_error_iff

theorem fatal_bind_iff {next : α → Except Fault β} :
    Fatal (result >>= next) ↔ Fatal result ∨ ∃ a, result = .ok a ∧ Fatal (next a) :=
  fails_bind_iff

theorem fatal_map_iff {f : α → β} : Fatal (result.map f) ↔ Fatal result := fails_map_iff

theorem not_fatal_mapM {f : α → Except Fault β} {xs : List α} (each : ∀ x ∈ xs, ¬ Fatal (f x)) :
    ¬ Fatal (xs.mapM f) := not_fails_mapM each

/-- Whether a fault is that of a bad value, whose form is right. -/
def Fault.isBad : Fault → Bool
  | .bad _ => true
  | _ => false

theorem Fault.isBad_iff : fault.isBad = true ↔ ∃ value, fault = .bad value := by
  cases fault <;> simp [isBad]

/-- Whether a result is a fault that is not that of a bad value. -/
def Derails (result : Except Fault α) : Prop := Fails (fun fault => fault.isBad = false) result

@[simp] theorem not_derails_ok {a : α} : ¬ Derails (.ok a : Except Fault α) := not_fails_ok

@[simp] theorem not_derails_pure {a : α} : ¬ Derails (pure a : Except Fault α) := not_fails_ok

@[simp] theorem derails_error_iff : Derails (.error fault : Except Fault α) ↔ fault.isBad = false := fails_error_iff

theorem derails_bind_iff {next : α → Except Fault β} :
    Derails (result >>= next) ↔ Derails result ∨ ∃ a, result = .ok a ∧ Derails (next a) := fails_bind_iff

theorem derails_map_iff {f : α → β} : Derails (f <$> result) ↔ Derails result := fails_map_iff

theorem not_derails_iff : ¬ Derails result ↔ (∃ a, result = .ok a) ∨ ∃ value, result = .error (.bad value) := by
  cases result with
  | ok a => simp
  | error fault => simp [← Fault.isBad_iff]

theorem derails_of_fatal (fatal : Fatal result) : Derails result := by
  obtain ⟨fault, failed, lost⟩ := fatal
  refine ⟨fault, failed, ?_⟩
  cases fault with
  | bad value => cases lost
  | _ => rfl

end Faults

section Contents
variable {s : String} {v : Json}

theorem NetworkType.not_derails_ofText : ¬ Derails (NetworkType.ofText s) := by
  unfold NetworkType.ofText
  split <;> simp [Derails, Fault.isBad]

theorem Family.not_derails_ofJson : ¬ Derails (Family.ofJson v) := by
  unfold Family.ofJson Family.ofText
  split <;> simp [Derails, Fault.isBad]

theorem Family.not_derails_ofTexts (names : List String) : ¬ Derails (names.mapM Family.ofText) :=
  not_fails_mapM fun name _ => not_derails_ofJson (v := .text name)

theorem Address.not_derails_ofText : ¬ Derails (Address.ofText s) := by
  unfold Address.ofText
  split <;> simp [Derails, Fault.isBad]

theorem Address.not_derails_ofJson : ¬ Derails (Address.ofJson v) := by
  unfold Address.ofJson
  dsimp only
  split <;> simp [Derails, Fault.isBad]

theorem Block.not_derails_ofJson : ¬ Derails (Block.ofJson v) := by
  unfold Block.ofJson
  dsimp only
  split <;> simp [Derails, Fault.isBad]

end Contents

namespace Json
variable {name : String} {v : Json} {fields : List (String × Json)}

def IsObject (v : Json) : Prop := ∃ fields, v = .object fields

theorem not_fatal_field : ¬ Fatal (field name v) := by
  unfold field
  split
  · split <;> simp [Fault.spoilsEntryOnly]
  · simp [Fault.spoilsEntryOnly]

theorem not_fatal_textField : ¬ Fatal (textField name v) := by
  rw [textField, fatal_map_iff]
  exact not_fatal_field

@[simp] theorem isObject_object : (object fields).IsObject := ⟨fields, rfl⟩

@[simp] theorem describe_null : describe .null = "None" := rfl

@[simp] theorem describe_text {s : String} : describe (.text s) = s := rfl

@[simp] theorem holds_null : holds .null = false := rfl

@[simp] theorem fieldOr_object {default : Json} :
    fieldOr name default (.object fields) = .ok ((lookup? name fields).getD default) := rfl

def text? (name : String) (fields : List (String × Json)) : Option String := (lookup? name fields).map describe

@[simp] theorem textFieldOr_object {default : String} :
    textFieldOr name default (.object fields) = .ok ((text? name fields).getD default) := rfl

@[simp] theorem field?_object : field? name (.object fields) = .ok (lookup? name fields) := rfl

@[simp] theorem field_object :
    field name (.object fields) = (lookup? name fields).elim (.error (.missing name)) .ok := by
  unfold field
  cases known : lookup? name fields <;> simp [known]

@[simp] theorem textField_object :
    textField name (.object fields) = (text? name fields).elim (.error (.missing name)) .ok := by
  unfold textField field text?
  cases known : lookup? name fields <;> simp [known, Except.map]

@[simp] theorem textField?_object :
    textField? name (.object fields) = .ok (((lookup? name fields).filter holds).map describe) := rfl

theorem field?_of_shapeless (shapeless : ¬ v.IsObject) : field? name v = .error .noFields := by
  unfold field?
  split
  case h_1 fields => exact absurd ⟨fields, rfl⟩ shapeless
  case h_2 => rfl

theorem isObject_of_fieldOr {default found : Json} (read : fieldOr name default v = .ok found) : v.IsObject := by
  cases v with
  | object fields => exact isObject_object
  | _ => cases read

theorem fatal_fieldOr_iff {default : Json} : Fatal (fieldOr name default v) ↔ ¬ v.IsObject := by
  rw [fieldOr, fatal_map_iff]
  cases v <;> simp [field?, IsObject, Fault.spoilsEntryOnly]

theorem not_fatal_items : ¬ Fatal v.items := by
  unfold items
  split <;> simp [Fault.spoilsEntryOnly]

theorem not_fatal_integerOfText {s : String} : ¬ Fatal (integerOfText s) := by
  unfold integerOfText
  cases Number.readInteger s.toList with
  | ok n => exact not_fatal_ok
  | error fault =>
      change ¬ Fatal (.error (numeralFault s fault) : Except Fault Int)
      cases fault <;> simp [numeralFault, Fault.spoilsEntryOnly]

theorem fatal_toInteger_iff : Fatal (toInteger v) ↔ ∃ negative, v = .real (.infinite negative) := by
  cases v with
  | real x => cases x <;> simp [toInteger, Fault.spoilsEntryOnly]
  | text s => simp [toInteger, not_fatal_integerOfText]
  | _ => simp [toInteger, Fault.spoilsEntryOnly]

theorem field_eq_ok_iff {found : Json} :
    field name v = .ok found ↔ ∃ fields, v = .object fields ∧ lookup? name fields = some found := by
  unfold field
  cases v with
  | object fields => cases known : lookup? name fields <;> simp [known]
  | _ => simp

theorem field_object_eq_ok_iff {found : Json} :
    field name (.object fields) = .ok found ↔ lookup? name fields = some found := by
  simp only [field_eq_ok_iff, object.injEq, exists_eq_left']

theorem textField_eq_ok_iff {s : String} :
    textField name (.object fields) = .ok s ↔ ∃ found, lookup? name fields = some found ∧ found.describe = s := by
  unfold textField field
  cases known : lookup? name fields <;> simp [known, Except.map]

theorem textField_eq_ok_iff_text? {s : String} :
    textField name (.object fields) = .ok s ↔ text? name fields = some s := by
  rw [textField_eq_ok_iff, text?, Option.map_eq_some_iff]

end Json

/-!
Changing one field of an object that stands at a path. Whatever stands around the object is left as it is, and every
other field of it.
-/

namespace Json
variable {k name : String} {v : Json} {found : Option Json} {fields inner : List (String × Json)} {path : List String}

/-- The fields with something in one of them, or without that one. -/
def putField (name : String) : Option Json → List (String × Json) → List (String × Json)
  | some v, fields => setField name v fields
  | none, fields => fields.filter (·.1 ≠ name)

theorem lookup?_setField : lookup? k (setField name v fields) = if k = name then some v else lookup? k fields := by
  induction fields with
  | nil => simp [setField, lookup?, eq_comm]
  | cons field rest ih =>
      obtain ⟨k', v'⟩ := field
      by_cases same : k' = name
      · subst same
        by_cases own : k = k'
        · simp [setField, lookup?, own]
        · simp [setField, lookup?, own, Ne.symm own]
      · by_cases own : k = k'
        · subst own
          simp [setField, lookup?, same]
        · simp [setField, lookup?, same, Ne.symm own, ih]

theorem lookup?_without :
    lookup? k (putField name none fields) = if k = name then none else lookup? k fields := by
  unfold putField
  dsimp only
  induction fields with
  | nil => simp [lookup?]
  | cons field rest ih =>
      obtain ⟨k', v'⟩ := field
      by_cases same : k' = name
      · subst same
        rw [List.filter_cons_of_neg (by simp), ih]
        by_cases own : k = k'
        · simp [own]
        · simp [lookup?, own, Ne.symm own]
      · rw [List.filter_cons_of_pos (by simpa using same)]
        by_cases own : k = k'
        · subst own
          simp [lookup?, same]
        · rw [lookup?, if_neg (Ne.symm own), ih, lookup?, if_neg (Ne.symm own)]

@[simp] theorem lookup?_putField :
    lookup? k (putField name found fields) = if k = name then found else lookup? k fields := by
  cases found with
  | none => exact lookup?_without
  | some v => exact lookup?_setField

@[simp] theorem text?_putField :
    text? k (putField name found fields) = if k = name then found.map describe else text? k fields := by
  unfold text?
  rw [lookup?_putField]
  split <;> rfl

theorem holds_putField : holds (.object (putField name (some v) fields)) = true := by
  cases fields with
  | nil => rfl
  | cons field rest =>
      unfold putField setField
      dsimp only
      split <;> rfl

def fieldsAt : List String → Json → Option (List (String × Json))
  | [], .object fields => some fields
  | name :: rest, .object fields => (lookup? name fields).bind (fieldsAt rest)
  | _, _ => none

def alterAt (f : List (String × Json) → List (String × Json)) : List String → Json → Json
  | [], .object fields => .object (f fields)
  | name :: rest, .object fields =>
      match lookup? name fields with
      | some inner => .object (putField name (some (alterAt f rest inner)) fields)
      | none => .object fields
  | _, v => v

inductive Frame : List String → (List (String × Json) → Json) → Prop
  | top : Frame [] .object
  | into {name : String} {rest : List String} {frame : List (String × Json) → Json}
      (fields : List (String × Json)) (inner : Frame rest frame) :
      Frame (name :: rest) fun found => .object (putField name (some (frame found)) fields)

theorem setField_of_lookup? (known : lookup? name fields = some v) : setField name v fields = fields := by
  induction fields with
  | nil => cases known
  | cons field rest ih =>
      obtain ⟨k, old⟩ := field
      by_cases same : k = name
      · rw [lookup?, if_pos same, Option.some.injEq] at known
        rw [setField, if_pos same, known]
      · rw [lookup?, if_neg same] at known
        rw [setField, if_neg same, ih known]

theorem alterAt_of_none {f : List (String × Json) → List (String × Json)}
    (nowhere : fieldsAt path v = none) : alterAt f path v = v := by
  induction path generalizing v with
  | nil => cases v <;> first | rfl | cases nowhere
  | cons name rest ih =>
      cases v with
      | object fields =>
          unfold fieldsAt at nowhere
          unfold alterAt
          cases known : lookup? name fields with
          | none => rfl
          | some inner =>
              rw [known, Option.bind_some] at nowhere
              simp only [ih nowhere, putField, setField_of_lookup? known]
      | _ => rfl

/-- Where there is an object at a path, it is what is altered, and what stands around it stays. -/
theorem exists_frame {v : Json} (there : fieldsAt path v = some inner) :
    ∃ frame, Frame path frame ∧ ∀ f, alterAt f path v = frame (f inner) := by
  induction path generalizing v with
  | nil =>
      cases v with
      | object fields =>
          cases there
          exact ⟨.object, .top, fun _ => rfl⟩
      | _ => cases there
  | cons name rest ih =>
      cases v with
      | object fields =>
          obtain ⟨x, known, there⟩ := Option.bind_eq_some_iff.mp there
          obtain ⟨frame, around, altered⟩ := ih there
          refine ⟨_, .into fields around, fun f => ?_⟩
          simp only [alterAt, known, altered]
      | _ => cases there

end Json

end PodAddressing
