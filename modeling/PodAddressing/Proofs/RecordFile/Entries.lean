import Mathlib.Tactic.MkIffOfInductiveProp
import PodAddressing.Agent.Basic
import PodAddressing.Proofs.Json.Field
import PodAddressing.Proofs.RecordFile
/-!
Entries of a record file that are no records. Most of them are left out when the file is loaded. Some end the loading
instead, and with them in its file the agent does not start.
-/

namespace PodAddressing

namespace Record
variable {name : String} {v : Json} {fields binding : List (String × Json)}

section Shapes

/-- What is in a field. What holds nothing there counts as an object without fields. -/
def content (name : String) (fields : List (String × Json)) : Json :=
  ((Json.lookup? name fields).filter Json.holds).getD (.object [])

/-- Whether all is there that a record cannot do without. A family that is left out is that of the address. -/
structure Complete (fields : List (String × Json)) : Prop where
  address : ∃ address, Json.lookup? "address" fields = some address ∧
    ∃ family, familyOf (Json.lookup? "family" fields) address.describe = .ok family
  mac : ∃ mac, Json.lookup? "mac" fields = some mac
  subnet : ∃ subnet, Json.lookup? "subnet" fields = some subnet
  network : ∃ network, Json.lookup? "network" fields = some network

def Boundless (binding : List (String × Json)) : Prop :=
  ∃ stateful negative, Json.lookup? "stateful" binding = some (.object stateful) ∧
    Json.lookup? "index" stateful = some (.real (.infinite negative))

/-- The entries that cannot even be left out: where an object has to be there is something else, or all is there and
the number is an infinity. -/
inductive Blocks : Json → Prop
  | entry {v : Json} (misshapen : ¬ v.IsObject) : Blocks v
  | binding {fields : List (String × Json)} (misshapen : ¬ (content "binding" fields).IsObject) :
      Blocks (.object fields)
  | owner {fields binding : List (String × Json)} (bound : content "binding" fields = .object binding)
      (complete : Complete fields) (misshapen : ¬ (content "referredObject" binding).IsObject) :
      Blocks (.object fields)
  | number {fields binding : List (String × Json)} (bound : content "binding" fields = .object binding)
      (complete : Complete fields) (boundless : Boundless binding) : Blocks (.object fields)

end Shapes

section Reading

theorem objectField_object : objectField name (.object fields) = .ok (content name fields) := by
  unfold objectField content Json.fieldOr Json.field?
  cases found : Json.lookup? name fields with
  | none => simp [found, Except.map, Json.holds]
  | some v => cases holds : v.holds <;> simp [found, Except.map, Option.filter, holds]

theorem objectField_of_shapeless (shapeless : ¬ v.IsObject) : objectField name v = .error .noFields := by
  rw [objectField, Json.fieldOr, Json.field?_of_shapeless shapeless]
  rfl

theorem not_fatal_familyOf {given : Option Json} {address : String} : ¬ Fatal (familyOf given address) := by
  unfold familyOf
  split
  case h_1 => exact mt derails_of_fatal Family.not_derails_ofJson
  case h_2 =>
    rw [fatal_map_iff]
    exact mt derails_of_fatal Address.not_derails_ofText

theorem fatal_ownerOf_iff {podName : String} : Fatal (ownerOf v podName) ↔ ¬ v.IsObject := by
  constructor
  · rintro fatal ⟨fields, rfl⟩
    exact not_fatal_ok fatal
  · intro shapeless
    refine fatal_bind_iff.mpr (.inl ?_)
    rw [Json.textFieldOr, Json.field?_of_shapeless shapeless]
    exact fatal_error_iff.mpr rfl

theorem fatal_indexOf_iff : Fatal (indexOf (Json.lookup? "stateful" binding)) ↔ Boundless binding := by
  unfold indexOf Boundless
  cases Json.lookup? "stateful" binding with
  | none => simp
  | some v =>
      cases holds : v.holds with
      | true =>
          rw [Option.filter_some_pos holds]
          simp only [fatal_bind_iff, Json.not_fatal_field, false_or, Json.field_eq_ok_iff, Option.some.injEq]
          constructor
          · rintro ⟨index, ⟨stateful, rfl, known⟩, fatal⟩
            obtain ⟨negative, rfl⟩ := Json.fatal_toInteger_iff.mp (fatal_map_iff.mp fatal)
            exact ⟨stateful, negative, rfl, known⟩
          · rintro ⟨stateful, negative, rfl, known⟩
            exact ⟨_, ⟨stateful, rfl, known⟩, fatal_map_iff.mpr (Json.fatal_toInteger_iff.mpr ⟨negative, rfl⟩)⟩
      | false =>
          rw [Option.filter_some_neg (by simp [holds])]
          refine iff_of_false not_fatal_ok ?_
          rintro ⟨stateful, negative, same, known⟩
          cases same
          cases stateful with
          | nil => cases known
          | cons => cases holds

/-- What the fields of an entry, of its binding and of the owner in it spell. -/
@[mk_iff] structure Spells (fields binding referred : List (String × Json)) (r : Record) : Prop where
  bound : content "binding" fields = .object binding
  owned : content "referredObject" binding = .object referred
  address : Json.text? "address" fields = some r.address
  family : familyOf (Json.lookup? "family" fields) r.address = .ok r.family
  mac : Json.text? "mac" fields = some r.mac
  subnet : Json.text? "subnet" fields = some r.subnet
  network : Json.text? "network" fields = some r.network
  ns : (Json.text? "namespace" fields).getD "default" = r.ns
  podUID : (Json.text? "podUID" binding).getD "" = r.binding.podUID
  podName : (Json.text? "podName" binding).getD "" = r.binding.podName
  nodeName : (Json.text? "nodeName" binding).getD "" = r.binding.nodeName
  ownerKind : (Json.text? "kind" referred).getD podKind = r.binding.owner.kind
  ownerName : (Json.text? "name" referred).getD r.binding.podName = r.binding.owner.name
  ownerUid : (Json.text? "uid" referred).getD "" = r.binding.owner.uid
  index : indexOf (Json.lookup? "stateful" binding) = .ok r.binding.index

theorem ofJson_eq_ok_iff {r : Record} :
    ofJson (.object fields) = .ok r ↔ ∃ binding referred, Spells fields binding referred r := by
  constructor
  · intro read
    unfold ofJson at read
    simp only [bind_eq_ok_iff, pure_eq_ok_iff, objectField_object, Json.textField_eq_ok_iff_text?, Except.ok.injEq,
      exists_eq_left'] at read
    obtain ⟨referred, owned, read⟩ := read
    have shaped : (content "binding" fields).IsObject := by
      by_contra shapeless
      rw [objectField_of_shapeless shapeless] at owned
      cases owned
    obtain ⟨binding, bound⟩ := shaped
    rw [bound, objectField_object, Except.ok.injEq] at owned
    simp only [bound, Json.field?_object, Json.textFieldOr_object, Except.ok.injEq, exists_eq_left'] at read
    obtain ⟨address, has_address, family, has_family, mac, has_mac, subnet, has_subnet, network, has_network, owner,
      has_owner, index, has_index, rfl⟩ := read
    have shaped : referred.IsObject := by
      by_contra shapeless
      rw [ownerOf, Json.textFieldOr, Json.field?_of_shapeless shapeless] at has_owner
      cases has_owner
    obtain ⟨referred, rfl⟩ := shaped
    cases has_owner
    exact ⟨binding, referred, bound, owned, has_address, has_family, has_mac, has_subnet, has_network, rfl, rfl, rfl,
      rfl, rfl, rfl, rfl, has_index⟩
  · rintro ⟨binding, referred, s⟩
    simp [ofJson, objectField_object, ownerOf, s.bound, s.owned, s.address,
      s.family, s.mac, s.subnet, s.network, s.ns, s.podUID, s.podName, s.nodeName, s.ownerKind, s.ownerName, s.ownerUid,
      s.index]

theorem exists_ofJson_iff : (∃ r, ofJson (.object fields) = .ok r) ↔
    (∃ address, Json.text? "address" fields = some address ∧
        ∃ family, familyOf (Json.lookup? "family" fields) address = .ok family) ∧
      (∃ mac, Json.text? "mac" fields = some mac) ∧ (∃ subnet, Json.text? "subnet" fields = some subnet) ∧
      (∃ network, Json.text? "network" fields = some network) ∧
      ∃ binding, content "binding" fields = .object binding ∧
        (∃ referred, content "referredObject" binding = .object referred) ∧
        ∃ index, indexOf (Json.lookup? "stateful" binding) = .ok index := by
  constructor
  · rintro ⟨r, read⟩
    obtain ⟨binding, referred, s⟩ := ofJson_eq_ok_iff.mp read
    exact ⟨⟨_, s.address, _, s.family⟩, ⟨_, s.mac⟩, ⟨_, s.subnet⟩, ⟨_, s.network⟩, binding, s.bound,
      ⟨referred, s.owned⟩, _, s.index⟩
  · rintro ⟨⟨address, located, family, known⟩, ⟨mac, has_mac⟩, ⟨subnet, has_subnet⟩, ⟨network, has_network⟩, binding,
      bound, ⟨referred, owned⟩, index, indexed⟩
    let podName := (Json.text? "podName" binding).getD ""
    let owner := (Json.text? "name" referred).getD podName
    exact ⟨⟨address, family, mac, subnet, network, _, ⟨_, podName, _, ⟨_, owner, _⟩, index⟩⟩, ofJson_eq_ok_iff.mpr
      ⟨binding, referred, bound, owned, located, known, has_mac, has_subnet, has_network, rfl, rfl, rfl, rfl, rfl, rfl,
        rfl, indexed⟩⟩

/-- Of an object the faults that end the reading come after all others. -/
theorem fatal_ofJson_iff (bound : content "binding" fields = .object binding) :
    Fatal (ofJson (.object fields)) ↔
      Complete fields ∧ (¬ (content "referredObject" binding).IsObject ∨ Boundless binding) := by
  have owned : (content "referredObject" binding).IsObject → ∀ podName,
      ∃ owner, ownerOf (content "referredObject" binding) podName = .ok owner := by
    rintro ⟨referred, same⟩ podName
    rw [same]
    exact ⟨_, rfl⟩
  unfold ofJson
  rw [objectField_object, bound]
  simp only [fatal_bind_iff, objectField_object, not_fatal_ok, false_or, Except.ok.injEq, exists_eq_left',
    Json.field?, not_fatal_familyOf, Json.not_fatal_textField, Json.textFieldOr, Json.textField_eq_ok_iff,
    fatal_ownerOf_iff, fatal_indexOf_iff, Except.map, not_fatal_pure, and_false, exists_false, or_false]
  constructor
  · rintro ⟨_, ⟨address, located, rfl⟩, family, known, _, ⟨mac, has_mac, _⟩, _, ⟨subnet, has_subnet, _⟩,
      _, ⟨network, has_network, _⟩, tail⟩
    refine ⟨⟨⟨address, located, family, known⟩, ⟨mac, has_mac⟩, ⟨subnet, has_subnet⟩, ⟨network, has_network⟩⟩, ?_⟩
    rcases tail with misshapen | ⟨_, _, boundless⟩
    · exact .inl misshapen
    · exact .inr boundless
  · rintro ⟨⟨⟨address, located, family, known⟩, ⟨mac, has_mac⟩, ⟨subnet, has_subnet⟩, ⟨network, has_network⟩⟩, tail⟩
    refine ⟨_, ⟨address, located, rfl⟩, family, known, _, ⟨mac, has_mac, rfl⟩, _, ⟨subnet, has_subnet, rfl⟩,
      _, ⟨network, has_network, rfl⟩, ?_⟩
    by_cases shaped : (content "referredObject" binding).IsObject
    · obtain ⟨owner, given⟩ := owned shaped _
      exact .inr ⟨owner, given, tail.resolve_left (not_not_intro shaped)⟩
    · exact .inl shaped

/-- What blocks is what cannot be read, and not left out either. -/
theorem blocks_iff : Blocks v ↔ Fatal (ofJson v) := by
  constructor
  · intro blocks
    cases blocks with
    | entry misshapen =>
        refine fatal_bind_iff.mpr (.inl ?_)
        rw [objectField_of_shapeless misshapen]
        exact fatal_error_iff.mpr rfl
    | binding misshapen =>
        refine fatal_bind_iff.mpr (.inr ⟨_, objectField_object, fatal_bind_iff.mpr (.inl ?_)⟩)
        rw [objectField_of_shapeless misshapen]
        exact fatal_error_iff.mpr rfl
    | owner bound complete misshapen => exact (fatal_ofJson_iff bound).mpr ⟨complete, .inl misshapen⟩
    | number bound complete boundless => exact (fatal_ofJson_iff bound).mpr ⟨complete, .inr boundless⟩
  · intro fatal
    by_cases shaped : v.IsObject
    · obtain ⟨fields, rfl⟩ := shaped
      by_cases bound : (content "binding" fields).IsObject
      · obtain ⟨binding, bound⟩ := bound
        obtain ⟨complete, misshapen | boundless⟩ := (fatal_ofJson_iff bound).mp fatal
        · exact .owner bound complete misshapen
        · exact .number bound complete boundless
      · exact .binding bound
    · exact .entry shaped

instance : DecidablePred Blocks := fun _ => decidable_of_iff _ blocks_iff.symm

end Reading

end Record

namespace Agent
variable {settings : Settings} {files : Files} {segment : Segment} {macs : MacSource} {path : FilePath} {a : Allocator}

theorem isOk_wire (named : settings.recordsPath = some path)
    (made : Allocator.create macs settings.networks settings.subnets = .ok a) :
    (wire settings files segment macs).isOk = (RecordFile.load files path).isOk := by
  unfold wire fresh
  rw [made]
  change (restored settings _ >>= _).isOk = _
  unfold restored
  rw [named]
  dsimp only
  cases RecordFile.load files path <;> rfl

end Agent

namespace RecordFile
variable {files : Files} {path : FilePath} {entry : Json} {entries : List Json} {bytes : ByteArray}
variable {document : Json} {records : List Record}

def recordsOf (entries : List Json) : List Record := entries.filterMap fun entry => (Record.ofJson entry).toOption

theorem readEntries_cons_of_free (free : ¬ Record.Blocks entry) :
    readEntries (entry :: entries) = (readEntries entries).map (recordsOf [entry] ++ ·) := by
  rw [Record.blocks_iff] at free
  rw [readEntries, recordsOf, List.filterMap_cons, List.filterMap_nil]
  cases read : Record.ofJson entry with
  | ok r => rfl
  | error fault =>
      rw [read, fatal_error_iff, Bool.not_eq_false] at free
      simp only [free, ↓reduceIte, Except.toOption, List.nil_append]
      cases readEntries entries <;> rfl

theorem readEntries_eq_ok_iff :
    readEntries entries = .ok records ↔ (∀ entry ∈ entries, ¬ Record.Blocks entry) ∧ records = recordsOf entries := by
  induction entries generalizing records with
  | nil =>
      simp only [List.not_mem_nil, false_implies, implies_true, true_and]
      exact ok_eq_ok_iff
  | cons entry rest ih =>
      have parts : recordsOf (entry :: rest) = recordsOf [entry] ++ recordsOf rest :=
        List.filterMap_append (l := [entry])
      rw [List.forall_mem_cons, parts]
      by_cases blocks : Record.Blocks entry
      · obtain ⟨fault, read, fatal⟩ := Record.blocks_iff.mp blocks
        simp [readEntries, read, fatal, blocks]
      · rw [readEntries_cons_of_free blocks]
        constructor
        · intro answered
          obtain ⟨others, read, rfl⟩ := ok_of_map answered
          obtain ⟨free, rfl⟩ := ih.mp read
          exact ⟨⟨blocks, free⟩, rfl⟩
        · rintro ⟨⟨_, free⟩, rfl⟩
          rw [ih.mpr ⟨free, rfl⟩]
          rfl

/-- A file with a list of entries is loaded if none of them blocks the others, and all that are records are. An agent
starts with the file just in that case. -/
theorem loaded_unless_blocked (present : files.content? path = .ok (some bytes))
    (spelled : Document.ofBytes bytes = .ok document) (listed : entries? document = some entries) :
    (∀ records, load files path = .ok records ↔
      (∀ entry ∈ entries, ¬ Record.Blocks entry) ∧ records = recordsOf entries) ∧
    ∀ settings segment macs a, settings.recordsPath = some path →
      Allocator.create macs settings.networks settings.subnets = .ok a →
      ((Agent.wire settings files segment macs).isOk = true ↔ ∀ entry ∈ entries, ¬ Record.Blocks entry) := by
  have loaded : load files path = readEntries entries := by
    rw [load_of_content present, spelled]
    change ofDocument path document = _
    rw [ofDocument, listed]
  refine ⟨fun records => loaded ▸ readEntries_eq_ok_iff, fun settings segment macs a named made => ?_⟩
  rw [Agent.isOk_wire named made, loaded]
  constructor
  · intro read
    exact (readEntries_eq_ok_iff.mp (eq_ok_of_isOk read [])).1
  · intro free
    rw [readEntries_eq_ok_iff.mpr ⟨free, rfl⟩]
    rfl

section Sample

def listing (entries : List Json) : Json := .object [("records", .list entries)]

def holding (document : Json) : Files where
  nodes := [(["var"], .directory), (["records.json", "var"], .file document.write.toUTF8)]

theorem content?_holding (document : Json) :
    (holding document).content? sampleFile = .ok (some document.write.toUTF8) :=
  Files.content?_of_find (Files.find_eq_ok_iff.mpr ⟨["records.json", "var"], rfl, rfl⟩)

theorem ofBytes_listing (each : ∀ entry ∈ entries, Json.Legible 983 entry) :
    Document.ofBytes (listing entries).write.toUTF8 = .ok (listing entries) :=
  Document.ofBytes_write (legible_listing each)

def bareSettings : Settings where
  node := "node-1"
  networks := []
  subnets := []
  activation := ⟨false, .text "", .whole 1⟩
  recordsPath := some sampleFile
  watchers := []

def noMacs : MacSource := { nth := fun _ => "" }

def freeRecord : Record :=
  ⟨"10.0.0.1", .v4, "02:00:00:00:00:09", "four", "pods", "shop", ⟨"", "web-0", "", ⟨"StatefulSet", "web", ""⟩, some 0⟩⟩

theorem legible_freeRecord : Json.Legible 983 freeRecord.toJson :=
  Record.legible_toJson (by decide +kernel) (by decide +kernel) 980

/-- A record among entries that have no address, one that is none, and an address alone. -/
def mixed : List Json := [
  .object [],
  .object [("address", .text "web-0")],
  freeRecord.toJson,
  .object [("address", .text "10.0.0.2")]]

theorem mixed_loaded :
    (∀ entry ∈ mixed, ¬ Record.Blocks entry) ∧ load (holding (listing mixed)) sampleFile = .ok [freeRecord] ∧
      (Agent.wire bareSettings (holding (listing mixed)) .isolated noMacs).isOk = true := by
  have legible (address : String) (whole : Text.isWhole address.toList = true) :
      Json.Legible 983 (.object [("address", .text address)]) :=
    ⟨by decide, by simp, by decide +kernel, whole, trivial⟩
  have each : ∀ entry ∈ mixed, Json.Legible 983 entry :=
    Json.legibleItems_iff.mp ⟨⟨by decide, by simp, trivial⟩, legible "web-0" (by decide +kernel),
      legible_freeRecord, legible "10.0.0.2" (by decide +kernel), trivial⟩
  have free : ∀ entry ∈ mixed, ¬ Record.Blocks entry := by decide +kernel
  obtain ⟨loaded, started⟩ := loaded_unless_blocked (content?_holding _) (ofBytes_listing each) rfl
  exact ⟨free, (loaded _).mpr ⟨free, by decide +kernel⟩, (started bareSettings .isolated _ _ rfl rfl).mpr free⟩

/-- Beside an entry that is no object a record is not loaded. -/
theorem unloaded_beside_null :
    recordsOf [.null, freeRecord.toJson] = [freeRecord] ∧
      load (holding (listing [.null, freeRecord.toJson])) sampleFile = .error .noFields ∧
      (Agent.wire bareSettings (holding (listing [.null, freeRecord.toJson])) .isolated noMacs).isOk = false := by
  have each : ∀ entry ∈ [.null, freeRecord.toJson], Json.Legible 983 entry :=
    Json.legibleItems_iff.mp ⟨trivial, legible_freeRecord, trivial⟩
  have failed : load (holding (listing [.null, freeRecord.toJson])) sampleFile = .error .noFields := by
    rw [load_of_content (content?_holding _), ofBytes_listing each]
    rfl
  have made : Allocator.create noMacs bareSettings.networks bareSettings.subnets = .ok { macs := noMacs } := rfl
  refine ⟨by decide +kernel, failed, ?_⟩
  rw [Agent.isOk_wire rfl made, failed]
  rfl

end Sample

end RecordFile

end PodAddressing
