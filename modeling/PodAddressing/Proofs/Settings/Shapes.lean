import PodAddressing.Proofs.Resource.Spelling
import PodAddressing.Settings
/-!
Settings whose form is wrong. A section or an entry of the wrong form is reported as a bad value in some places, and in
others it comes up as a fault of another sort when its contents are taken apart.
-/

namespace PodAddressing

namespace Json
variable {name : String} {v : Json} {fields : List (String × Json)}

def HasItems (v : Json) : Prop := v.items.isOk = true

/-- The values that are no measure: they are no number and spell none, or the number is out of range. -/
inductive Unmeasurable : Json → Prop
  | null : Unmeasurable .null
  | list (items : List Json) : Unmeasurable (.list items)
  | object (fields : List (String × Json)) : Unmeasurable (.object fields)
  | integer {n : Int} {negative : Bool} (beyond : Number.Binary64.ofInt n = .infinite negative) :
      Unmeasurable (.integer n)

theorem derails_items_iff : Derails v.items ↔ ¬ v.HasItems := by
  unfold HasItems
  cases v <;> simp [items, Fault.isBad, Except.isOk, Except.toBool]

theorem derails_toReal_iff : Derails v.toReal ↔ v.Unmeasurable := by
  constructor
  · intro derails
    cases v with
    | null => exact .null
    | list items => exact .list items
    | object fields => exact .object fields
    | integer n =>
        unfold toReal at derails
        dsimp only at derails
        split at derails
        case h_1 negative beyond => exact .integer beyond
        case h_2 => exact absurd derails not_derails_ok
    | text s =>
        unfold toReal realOfText at derails
        dsimp only at derails
        split at derails <;> simp [Fault.isBad] at derails
    | real x => exact absurd derails not_derails_ok
    | boolean b => exact absurd derails not_derails_ok
  · rintro (_ | _ | _ | beyond)
    · exact derails_error_iff.mpr rfl
    · exact derails_error_iff.mpr rfl
    · exact derails_error_iff.mpr rfl
    · unfold toReal
      dsimp only
      rw [beyond]
      exact derails_error_iff.mpr rfl

theorem derails_textField_iff : Derails (textField name (.object fields)) ↔ text? name fields = none := by
  rw [textField_object]
  cases text? name fields <;> simp [Fault.isBad]

end Json

namespace Settings
variable {v : Json} {fields : List (String × Json)}

section Entries

inductive MisshapenNetwork : Json → Prop
  | entry {v : Json} (misshapen : ¬ v.IsObject) : MisshapenNetwork v
  | families {fields : List (String × Json)} {families : Json}
      (given : Json.lookup? "families" fields = some families) (holds : families.holds = true)
      (misshapen : ¬ families.HasItems) : MisshapenNetwork (.object fields)
  | incomplete {fields : List (String × Json)} {families : List Family}
      (read : familiesOf ((Json.lookup? "families" fields).getD .null) = .ok families)
      (missing : Json.text? "name" fields = none ∨ Json.text? "type" fields = none) : MisshapenNetwork (.object fields)

inductive MisshapenSubnet : Json → Prop
  | entry {v : Json} (misshapen : ¬ v.IsObject) : MisshapenSubnet v
  | incomplete {fields : List (String × Json)} {items : List Json}
      (excluded : (Json.lookup? "excluded" fields).getD (.list []) = .list items)
      (missing : Json.text? "name" fields = none ∨ Json.text? "network" fields = none ∨
        Json.text? "cidr" fields = none) : MisshapenSubnet (.object fields)

inductive MisshapenActivation : Json → Prop
  | timeout {fields : List (String × Json)} {timeout : Json} (given : Json.lookup? "timeout" fields = some timeout)
      (misshapen : timeout.Unmeasurable) : MisshapenActivation (.object fields)

inductive MisshapenWatcher : Json → Prop
  | entry {v : Json} (misshapen : ¬ v.IsObject) : MisshapenWatcher v
  | incomplete {fields : List (String × Json)} (missing : Json.text? "kind" fields = none) :
      MisshapenWatcher (.object fields)
  | path {fields : List (String × Json)} {path : Json} (given : Json.lookup? "path" fields = some path)
      (misshapen : ∀ s, path ≠ .text s) : MisshapenWatcher (.object fields)
  | interval {fields : List (String × Json)} {interval : Json}
      (given : (Json.lookup? "interval" fields).or (Json.lookup? "poll_interval" fields) = some interval)
      (misshapen : interval.Unmeasurable) : MisshapenWatcher (.object fields)

theorem derails_of_shapeless {α : Type} {name : String} {next : Json → Except Fault α} {default : Json}
    (misshapen : ¬ v.IsObject) : Derails (Json.fieldOr name default v >>= next) := by
  rw [Json.fieldOr, Json.field?_of_shapeless misshapen]
  exact derails_error_iff.mpr rfl

theorem not_derails_listOr {fault : BadValue} : ¬ Derails (listOr fault v) := by
  unfold listOr
  split <;> simp [Fault.isBad]

theorem listOr_eq_ok_iff {fault : BadValue} {items : List Json} : listOr fault v = .ok items ↔ v = .list items := by
  unfold listOr
  split <;> simp_all

theorem derails_pathOf_iff : Derails (pathOf v) ↔ ∀ s, v ≠ .text s := by
  unfold pathOf
  split <;> simp_all [Fault.isBad]

theorem derails_familiesOf_iff : Derails (familiesOf v) ↔ v.holds = true ∧ ¬ v.HasItems := by
  have each (items : List Json) : ¬ Derails (items.mapM Family.ofJson) :=
    not_fails_mapM fun _ _ => Family.not_derails_ofJson
  unfold familiesOf
  split
  case isTrue holds => simp [derails_bind_iff, Json.derails_items_iff, each, holds]
  case isFalse nothing => simp [nothing]

theorem derails_networkOf_iff : Derails (networkOf v) ↔ MisshapenNetwork v := by
  by_cases shaped : v.IsObject
  · obtain ⟨fields, rfl⟩ := shaped
    unfold networkOf
    simp only [familiesOf_bind, Json.fieldOr_object, ok_bind, derails_bind_iff, derails_familiesOf_iff,
      Json.derails_textField_iff, Json.textField_eq_ok_iff_text?, NetworkType.not_derails_ofText, not_derails_pure,
      and_false, exists_false, or_false]
    constructor
    · rintro (⟨holds, misshapen⟩ | ⟨families, read, missing | ⟨name, _, missing⟩⟩)
      · cases given : Json.lookup? "families" fields with
        | none =>
            rw [given] at holds
            cases holds
        | some families =>
            rw [given] at holds misshapen
            exact .families given holds misshapen
      · exact .incomplete read (.inl missing)
      · exact .incomplete read (.inr missing)
    · rintro (⟨misshapen⟩ | ⟨given, holds, misshapen⟩ | ⟨read, missing⟩)
      · exact absurd Json.isObject_object misshapen
      · rw [given]
        exact .inl ⟨holds, misshapen⟩
      · refine .inr ⟨_, read, ?_⟩
        cases named : Json.text? "name" fields with
        | none => exact .inl rfl
        | some name => exact .inr ⟨name, rfl, missing.resolve_left (by simp [named])⟩
  · exact iff_of_true (derails_of_shapeless shaped) (.entry shaped)

theorem derails_subnetOf_iff : Derails (subnetOf v) ↔ MisshapenSubnet v := by
  by_cases shaped : v.IsObject
  · obtain ⟨fields, rfl⟩ := shaped
    unfold subnetOf
    simp only [Json.fieldOr_object, Json.textField?_object, ok_bind, derails_bind_iff, not_derails_listOr,
      listOr_eq_ok_iff, Json.derails_textField_iff, Json.textField_eq_ok_iff_text?, not_derails_pure, false_or,
      and_false, exists_false, or_false]
    constructor
    · rintro ⟨items, excluded, missing | ⟨_, _, missing | ⟨_, _, missing⟩⟩⟩
      · exact .incomplete excluded (.inl missing)
      · exact .incomplete excluded (.inr (.inl missing))
      · exact .incomplete excluded (.inr (.inr missing))
    · rintro (⟨misshapen⟩ | ⟨excluded, missing⟩)
      · exact absurd Json.isObject_object misshapen
      · refine ⟨_, excluded, ?_⟩
        cases named : Json.text? "name" fields with
        | none => exact .inl rfl
        | some name =>
            refine .inr ⟨name, rfl, ?_⟩
            cases placed : Json.text? "network" fields with
            | none => exact .inl rfl
            | some network => exact .inr ⟨network, rfl, by simpa [named, placed] using missing⟩
  · exact iff_of_true (derails_of_shapeless shaped) (.entry shaped)

/-- What no default is was given. -/
theorem exists_of_getD {found : Option Json} {default : Json} {p : Json → Prop} (fine : ¬ p default)
    (bad : p (found.getD default)) : ∃ v, found = some v ∧ p v := by
  cases found with
  | none => exact absurd bad fine
  | some v => exact ⟨v, rfl, bad⟩

theorem derails_watcherOf_iff : Derails (watcherOf v) ↔ MisshapenWatcher v := by
  by_cases shaped : v.IsObject
  · obtain ⟨fields, rfl⟩ := shaped
    unfold watcherOf
    simp only [Json.fieldOr_object, Json.textFieldOr_object, ok_bind, derails_bind_iff, derails_pathOf_iff,
      ← Option.getD_or, Json.derails_textField_iff, Json.textField_eq_ok_iff_text?, Json.derails_toReal_iff,
      not_derails_pure, and_false, exists_false, or_false]
    constructor
    · rintro (missing | ⟨kind, _, misshapen | ⟨path, _, misshapen⟩⟩)
      · exact .incomplete missing
      · obtain ⟨path, given, misshapen⟩ :=
          exists_of_getD (p := fun v => ∀ s, v ≠ .text s) (fun bad => bad "." rfl) misshapen
        exact .path given misshapen
      · have fine : ¬ defaultInterval.Unmeasurable := fun bad => by cases bad
        obtain ⟨interval, given, misshapen⟩ := exists_of_getD fine misshapen
        exact .interval given misshapen
    · intro misshapen
      cases kinded : Json.text? "kind" fields with
      | none => exact .inl rfl
      | some kind =>
          refine .inr ⟨kind, rfl, ?_⟩
          by_cases led : ∃ s, (Json.lookup? "path" fields).getD (.text ".") = .text s
          · obtain ⟨s, led⟩ := led
            refine .inr ⟨.ofText s, by rw [led]; rfl, ?_⟩
            rcases misshapen with misshapen | missing | ⟨given, misshapen⟩ | ⟨given, misshapen⟩
            · exact absurd Json.isObject_object misshapen
            · rw [kinded] at missing
              cases missing
            · rw [given] at led
              exact absurd led (misshapen s)
            · rw [given]
              exact misshapen
          · exact .inl fun s same => led ⟨s, same⟩
  · refine iff_of_true ?_ (.entry shaped)
    unfold watcherOf
    rw [Json.textFieldOr, Json.field?_of_shapeless shaped]
    exact derails_error_iff.mpr rfl

theorem derails_activationOf_iff : Derails (activationOf v) ↔ MisshapenActivation v := by
  cases v with
  | object fields =>
      unfold activationOf
      simp only [isObject, Bool.not_true, Bool.false_eq_true, ↓reduceIte, Json.fieldOr_object, Json.field?_object,
        ok_bind, throw_bind]
      cases given : Json.lookup? "timeout" fields with
      | none =>
          refine iff_of_false ?_ ?_
          · simp only [pure_bind]
            split <;> simp [Fault.isBad]
          · rintro ⟨given', _⟩
            rw [given] at given'
            cases given'
      | some timeout =>
          have checked (t : Timeout) {enabled : Bool} {interface : Json} : ¬ Derails (
              if (enabled && !interface.holds) = true then .error (.bad .activationInterface)
              else (pure ⟨enabled, interface, t⟩ : Except Fault ActivationSettings)) := by
            split <;> simp [Fault.isBad]
          simp only [derails_bind_iff, derails_map_iff, Json.derails_toReal_iff, checked, and_false, exists_false,
            or_false]
          constructor
          · exact .timeout given
          · rintro ⟨given', misshapen⟩
            rw [given] at given'
            cases given'
            exact misshapen
  | _ =>
      refine iff_of_false (fun derails => ?_) (fun misshapen => by cases misshapen)
      cases derails_error_iff.mp derails

end Entries

section Documents

structure Sections where
  networks : List Json
  subnets : List Json
  watchers : List Json
  records : Json
  activation : Json

/-- Whether a document has a node, and lists where there have to be lists. -/
structure Opens (fields : List (String × Json)) (s : Sections) : Prop where
  node : ((Json.lookup? "node" fields).getD .null).holds = true
  networks : (Json.lookup? "networks" fields).getD (.list []) = .list s.networks
  subnets : (Json.lookup? "subnets" fields).getD (.list []) = .list s.subnets
  watchers : (Json.lookup? "watchers" fields).getD (.list []) = .list s.watchers
  records : (Json.lookup? "records" fields).getD .null = s.records
  activation : (Json.lookup? "activation" fields).getD (.object []) = s.activation

def AllRead {α : Type} (read : Json → Except Fault α) (entries : List Json) : Prop :=
  ∀ entry ∈ entries, (read entry).isOk = true

theorem allRead_iff {α : Type} {read : Json → Except Fault α} {entries : List Json} :
    AllRead read entries ↔ ∃ xs, entries.mapM read = .ok xs := exists_mapM_eq_ok_iff.symm

/-- Whether an entry of a section has the wrong form, and all before it are read. -/
def Derailed {α : Type} (read : Json → Except Fault α) (Misshapen : Json → Prop) (entries : List Json) : Prop :=
  ∃ before entry after, entries = before ++ entry :: after ∧ AllRead read before ∧ Misshapen entry

def MisshapenPath (records : Json) : Prop :=
  ∃ fields path, records = .object fields ∧ Json.lookup? "path" fields = some path ∧ path.holds = true ∧
    ∀ s, path ≠ .text s

/-- Sections with something in the wrong form. What is bad before it is reported first. -/
inductive Sections.Misshapen (s : Sections) : Prop
  | records (holds : s.records.holds = true) (misshapen : ¬ s.records.IsObject)
  | network (misshapen : Derailed networkOf MisshapenNetwork s.networks)
  | subnet (networks : AllRead networkOf s.networks) (misshapen : Derailed subnetOf MisshapenSubnet s.subnets)
  | activation (networks : AllRead networkOf s.networks) (subnets : AllRead subnetOf s.subnets)
      (misshapen : MisshapenActivation s.activation)
  | path (networks : AllRead networkOf s.networks) (subnets : AllRead subnetOf s.subnets)
      (activation : ∃ a, activationOf s.activation = .ok a) (misshapen : MisshapenPath s.records)
  | watcher (networks : AllRead networkOf s.networks) (subnets : AllRead subnetOf s.subnets)
      (activation : ∃ a, activationOf s.activation = .ok a)
      (misshapen : Derailed watcherOf MisshapenWatcher s.watchers)

theorem derails_mapM_iff {α : Type} {read : Json → Except Fault α} {Misshapen : Json → Prop}
    (each : ∀ {v}, Derails (read v) ↔ Misshapen v) (entries : List Json) :
    Derails (entries.mapM read) ↔ Derailed read Misshapen entries := by
  unfold Derails at each ⊢
  simp only [fails_mapM_iff, each, Derailed, AllRead]

def namedPath (v : Json) : Except Fault (Option FilePath) := if v.holds then some <$> pathOf v else .ok none

theorem namedPath_bind {β : Type} {next : Option FilePath → Except Fault β} (v : Json) :
    (if v.holds then do next (← some <$> pathOf v) else do next (← pure none)) = namedPath v >>= next := by
  unfold namedPath
  split <;> rfl

def ofSections (node : String) (s : Sections) : Except Fault Settings := do
  let recordsPath ← recordsPathOf s.records
  let networks ← s.networks.mapM networkOf
  let subnets ← s.subnets.mapM subnetOf
  let activation ← activationOf s.activation
  let recordsPath ← namedPath recordsPath
  let watchers ← s.watchers.mapM watcherOf
  pure ⟨node, networks, subnets, activation, recordsPath, watchers⟩

theorem ofJson_of_opens {s : Sections} (opens : Opens fields s) :
    ofJson (.object fields) = ofSections ((Json.lookup? "node" fields).getD .null).describe s := by
  unfold ofJson ofSections
  simp only [isObject, Bool.not_true, Bool.false_eq_true, ↓reduceIte, Json.fieldOr_object, ok_bind, namedPath_bind,
    listOr, opens.node, opens.networks, opens.subnets, opens.watchers, opens.records, opens.activation]

theorem derails_recordsPathOf_iff : Derails (recordsPathOf v) ↔ v.holds = true ∧ ¬ v.IsObject := by
  unfold recordsPathOf
  cases holds : v.holds with
  | false => simp
  | true =>
      by_cases shaped : v.IsObject
      · obtain ⟨fields, rfl⟩ := shaped
        simp
      · simp [Json.fieldOr, Json.field?_of_shapeless shaped, Except.map, Fault.isBad, shaped]

theorem derails_namedPath_iff : Derails (namedPath v) ↔ v.holds = true ∧ ∀ s, v ≠ .text s := by
  unfold namedPath
  split
  case isTrue holds => rw [derails_map_iff, derails_pathOf_iff, and_iff_right holds]
  case isFalse nothing => simp [nothing]

theorem exists_recordsPathOf (shaped : ¬ Derails (recordsPathOf v)) : ∃ path, recordsPathOf v = .ok path := by
  rw [derails_recordsPathOf_iff] at shaped
  unfold recordsPathOf
  split
  case isTrue holds =>
    by_cases object : v.IsObject
    · obtain ⟨fields, rfl⟩ := object
      exact ⟨_, rfl⟩
    · exact absurd ⟨holds, object⟩ shaped
  case isFalse => exact ⟨_, rfl⟩

theorem exists_namedPath (shaped : ¬ Derails (namedPath v)) : ∃ path, namedPath v = .ok path := by
  rw [derails_namedPath_iff] at shaped
  unfold namedPath
  split
  case isTrue holds =>
    cases v with
    | text s => exact ⟨_, rfl⟩
    | _ => exact absurd ⟨holds, by simp⟩ shaped
  case isFalse => exact ⟨_, rfl⟩

theorem misshapenPath_iff : MisshapenPath v ↔ ∃ path, recordsPathOf v = .ok path ∧ Derails (namedPath path) := by
  simp only [derails_namedPath_iff]
  constructor
  · rintro ⟨fields, path, rfl, given, holds, misshapen⟩
    refine ⟨path, ?_, holds, misshapen⟩
    have held : (Json.object fields).holds = true := by
      cases fields with
      | nil => cases given
      | cons => rfl
    rw [recordsPathOf, if_pos held, Json.fieldOr_object, given, Option.getD_some]
  · rintro ⟨path, kept, holds, misshapen⟩
    unfold recordsPathOf at kept
    split at kept
    case isTrue =>
      obtain ⟨fields, rfl⟩ := Json.isObject_of_fieldOr kept
      rw [Json.fieldOr_object, Except.ok.injEq] at kept
      cases given : Json.lookup? "path" fields with
      | none =>
          rw [given] at kept
          cases kept
          cases holds
      | some path' =>
          rw [given] at kept
          cases kept
          exact ⟨fields, path', rfl, given, holds, misshapen⟩
    case isFalse =>
      cases kept
      cases holds

/-- What comes later in the order of reading is reached only if all before it gives something. -/
theorem misshapen_of_derails {node : String} {s : Sections} (derails : Derails (ofSections node s)) : s.Misshapen := by
  unfold ofSections at derails
  simp only [derails_bind_iff, derails_mapM_iff derails_networkOf_iff, derails_mapM_iff derails_subnetOf_iff,
    derails_mapM_iff derails_watcherOf_iff, derails_activationOf_iff, not_derails_pure, and_false, exists_false,
    or_false] at derails
  rcases derails with derails | ⟨path, kept, first | ⟨networks, nets, derails⟩⟩
  · obtain ⟨holds, misshapen⟩ := derails_recordsPathOf_iff.mp derails
    exact .records holds misshapen
  · exact .network first
  have nets := allRead_iff.mpr ⟨networks, nets⟩
  rcases derails with first | ⟨subnets, subs, derails⟩
  · exact .subnet nets first
  have subs := allRead_iff.mpr ⟨subnets, subs⟩
  rcases derails with misshapen | ⟨activation, active, derails | ⟨_, _, first⟩⟩
  · exact .activation nets subs misshapen
  · exact .path nets subs ⟨activation, active⟩ (misshapenPath_iff.mpr ⟨path, kept, derails⟩)
  · exact .watcher nets subs ⟨activation, active⟩ first

theorem derails_ofSections_iff {node : String} {s : Sections} : Derails (ofSections node s) ↔ s.Misshapen := by
  refine ⟨misshapen_of_derails, fun misshapen => ?_⟩
  unfold ofSections
  simp only [derails_bind_iff, derails_mapM_iff derails_networkOf_iff, derails_mapM_iff derails_subnetOf_iff,
    derails_mapM_iff derails_watcherOf_iff, derails_activationOf_iff, not_derails_pure, and_false, exists_false,
    or_false]
  by_cases derails : Derails (recordsPathOf s.records)
  · exact .inl derails
  obtain ⟨path, kept⟩ := exists_recordsPathOf derails
  refine .inr ⟨path, kept, ?_⟩
  rcases misshapen with ⟨holds, misshapen⟩ | first | ⟨nets, first⟩ | ⟨nets, subs, misshapen⟩ |
    ⟨nets, subs, active, misshapen⟩ | ⟨nets, subs, active, first⟩
  · exact absurd (derails_recordsPathOf_iff.mpr ⟨holds, misshapen⟩) derails
  · exact .inl first
  all_goals
    obtain ⟨networks, nets⟩ := allRead_iff.mp nets
    refine .inr ⟨networks, nets, ?_⟩
  · exact .inl first
  all_goals
    obtain ⟨subnets, subs⟩ := allRead_iff.mp subs
    refine .inr ⟨subnets, subs, ?_⟩
  · exact .inl misshapen
  all_goals
    obtain ⟨activation, active⟩ := active
    refine .inr ⟨activation, active, ?_⟩
  · obtain ⟨path', kept', derails⟩ := misshapenPath_iff.mp misshapen
    cases kept.symm.trans kept'
    exact .inl derails
  · by_cases lost : Derails (namedPath path)
    · exact .inl lost
    · obtain ⟨place, named⟩ := exists_namedPath lost
      exact .inr ⟨place, named, first⟩

theorem exists_opens (derails : Derails (ofJson v)) : ∃ fields s, v = .object fields ∧ Opens fields s := by
  cases v with
  | object fields =>
      unfold ofJson at derails
      simp only [isObject, Bool.not_true, Bool.false_eq_true, ↓reduceIte, Json.fieldOr_object, ok_bind, throw_bind]
        at derails
      split at derails
      case isTrue => cases derails_error_iff.mp derails
      case isFalse node =>
        simp only [derails_bind_iff, not_derails_listOr, listOr_eq_ok_iff, false_or] at derails
        obtain ⟨networks, nets, subnets, subs, watchers, watched, _⟩ := derails
        exact ⟨fields, ⟨networks, subnets, watchers, _, _⟩, rfl, by simpa using node, nets, subs, watched, rfl, rfl⟩
  | _ => cases derails_error_iff.mp derails

/-- A document gives settings or a bad value, unless it has the sections that it has to have and something in them has
the wrong form. -/
theorem read_unless_misshapen (v : Json) :
    ((∃ settings, ofJson v = .ok settings) ∨ ∃ value, ofJson v = .error (.bad value)) ↔
      ¬ ∃ fields s, v = .object fields ∧ Opens fields s ∧ s.Misshapen := by
  rw [← not_derails_iff]
  refine not_congr ?_
  constructor
  · intro derails
    obtain ⟨fields, s, rfl, opens⟩ := exists_opens derails
    rw [ofJson_of_opens opens, derails_ofSections_iff] at derails
    exact ⟨fields, s, rfl, opens, derails⟩
  · rintro ⟨fields, s, rfl, opens, misshapen⟩
    rw [ofJson_of_opens opens, derails_ofSections_iff]
    exact misshapen

def namelessNetwork : Json := .object [("node", .text "node-1"), ("networks", .list [.object []])]

/-- A nameless network is not reported as a bad value. -/
theorem namelessNetwork_missing :
    ofJson namelessNetwork = .error (.missing "name") ∧
      ¬ ((∃ settings, ofJson namelessNetwork = .ok settings) ∨ ∃ value, ofJson namelessNetwork = .error (.bad value)) := by
  have failed : ofJson namelessNetwork = .error (.missing "name") := rfl
  refine ⟨failed, ?_⟩
  rw [failed]
  rintro (⟨_, answered⟩ | ⟨_, bad⟩)
  · cases answered
  · cases bad

end Documents

end Settings
end PodAddressing
