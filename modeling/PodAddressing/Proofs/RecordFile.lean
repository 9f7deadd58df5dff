import Mathlib.Algebra.Order.BigOperators.Group.List
import PodAddressing.Proofs.Files
import PodAddressing.Proofs.Json.Roundtrip
import PodAddressing.RecordFile
/-!
Records written and read back. The document that is written has all records of the list, in an order of its own,
and reading it gives them back.
-/

namespace PodAddressing

namespace Record

def texts (r : Record) : List String := [
  r.address, r.mac, r.subnet, r.network, r.ns, r.binding.podUID, r.binding.podName, r.binding.nodeName,
  r.binding.owner.kind, r.binding.owner.name, r.binding.owner.uid]

def IsWhole (r : Record) : Prop := ∀ s ∈ r.texts, Text.isWhole s.toList = true

/-- A number with too many digits does not come back. -/
def IsShort (r : Record) : Prop := ∀ n ∈ r.binding.index, (Nat.toDigits 10 n.natAbs).length ≤ Number.digitLimit

instance : DecidablePred IsWhole := fun r =>
  inferInstanceAs (Decidable (∀ s ∈ r.texts, Text.isWhole s.toList = true))

instance : DecidablePred IsShort := fun r =>
  inferInstanceAs (Decidable (∀ n ∈ r.binding.index, (Nat.toDigits 10 n.natAbs).length ≤ Number.digitLimit))

/-- The record as it is read back: two halves that stand side by side come back as the one character that they are
halves of. -/
def rejoined (r : Record) : Record := {
  address := Json.rejoined r.address
  family := r.family
  mac := Json.rejoined r.mac
  subnet := Json.rejoined r.subnet
  network := Json.rejoined r.network
  ns := Json.rejoined r.ns
  binding := {
    podUID := Json.rejoined r.binding.podUID
    podName := Json.rejoined r.binding.podName
    nodeName := Json.rejoined r.binding.nodeName
    owner := {
      kind := Json.rejoined r.binding.owner.kind
      name := Json.rejoined r.binding.owner.name
      uid := Json.rejoined r.binding.owner.uid }
    index := r.binding.index } }

theorem texts_rejoined (r : Record) : r.rejoined.texts = r.texts.map Json.rejoined := rfl

theorem isWhole_rejoined (r : Record) : r.rejoined.IsWhole := by
  rw [IsWhole, texts_rejoined, List.forall_mem_map]
  exact fun s _ => Json.isWhole_rejoined s

theorem rejoined_of_whole {r : Record} (whole : r.IsWhole) : r.rejoined = r := by
  simp only [IsWhole, texts, List.forall_mem_cons] at whole
  simp only [rejoined, Json.rejoined_of_whole, whole]

def size (r : Record) : Nat := (r.texts.map String.length).sum

theorem size_rejoined (r : Record) : r.rejoined.size ≤ r.size ∧ (¬ r.IsWhole → r.rejoined.size < r.size) := by
  have shorter : ∀ s ∈ r.texts, (Json.rejoined s).length ≤ s.length := fun s _ => (Json.length_rejoined s).1
  rw [size, texts_rejoined, List.map_map, size]
  refine ⟨List.sum_le_sum shorter, fun broken => List.sum_lt_sum _ _ shorter ?_⟩
  unfold IsWhole at broken
  push Not at broken
  obtain ⟨s, listed, broken⟩ := broken
  exact ⟨s, listed, (Json.length_rejoined s).2 (Bool.eq_false_iff.mpr broken)⟩

/-- Records come back as they were if all their texts are whole, and only then. -/
theorem rejoined_perm_iff {records : List Record} :
    (records.map rejoined).Perm records ↔ ∀ r ∈ records, r.IsWhole := by
  constructor
  · intro same
    by_contra broken
    push Not at broken
    have less := List.sum_lt_sum (size ∘ rejoined) size (fun r (_ : r ∈ records) => (size_rejoined r).1)
      (broken.imp fun r ⟨listed, broken⟩ => ⟨listed, (size_rejoined r).2 broken⟩)
    rw [← List.map_map, (same.map size).sum_eq] at less
    exact Nat.lt_irrefl _ less
  · intro whole
    rw [List.map_congr_left fun r listed => rejoined_of_whole (whole r listed), List.map_id']

theorem familyOf_name (f : Family) (address : String) :
    familyOf (some (.text f.name)) address = .ok f := by
  cases f <;> exact rfl

theorem indexOf_indexFields (index : Option Int) :
    indexOf (Json.lookup? "stateful" (indexFields index)) = .ok index := by
  cases index <;> rfl

theorem ofJson_toJson (r : Record) : ofJson r.toJson = .ok r := by
  simp [ofJson, toJson, objectField, Json.fieldOr, Json.textField, Json.textFieldOr, Json.field, Json.field?,
    Json.lookup?, Json.holds, Json.describe, ownerOf, familyOf_name, indexOf_indexFields,
    Except.map, bind, Except.bind, pure, Except.pure]

theorem legible_familyName (room : Nat) (f : Family) : Json.Legible room (.text f.name) := by
  have names : Text.isWhole "IPv4".toList = true ∧ Text.isWhole "IPv6".toList = true := by decide +kernel
  cases f with
  | v4 => exact names.1
  | v6 => exact names.2

def ownerFields (r : Record) : List (String × Json) := [
  ("kind", .text r.binding.owner.kind),
  ("name", .text r.binding.owner.name),
  ("uid", .text r.binding.owner.uid)]

def bindingFields (r : Record) : List (String × Json) := [
  ("podUID", .text r.binding.podUID),
  ("podName", .text r.binding.podName),
  ("nodeName", .text r.binding.nodeName),
  ("referredObject", .object r.ownerFields)] ++ indexFields r.binding.index

theorem legible_owner {r : Record} (whole : r.IsWhole) (room : Nat) :
    Json.Legible (room + 1) (.object r.ownerFields) := by
  have names : ∀ name ∈ ["kind", "name", "uid"], Text.isWhole name.toList = true := by decide +kernel
  refine ⟨Nat.succ_pos room, by simp [ownerFields], Json.legibleFields_iff.mpr ⟨names, ?_⟩⟩
  intro v listed
  simp only [ownerFields, List.map_cons, List.map_nil, List.mem_cons, List.not_mem_nil, or_false] at listed
  rcases listed with rfl | rfl | rfl <;> exact whole _ (by simp [texts])

theorem legible_index {r : Record} (short : r.IsShort) (room : Nat) :
    Json.LegibleFields (room + 1) (indexFields r.binding.index) := by
  have names : Text.isWhole "stateful".toList = true ∧ Text.isWhole "index".toList = true := by
    decide +kernel
  cases known : r.binding.index with
  | none => trivial
  | some n =>
      have inner : Json.LegibleFields room [("index", .integer n)] := ⟨names.2, short n known, trivial⟩
      exact ⟨names.1, ⟨Nat.succ_pos room, by simp, inner⟩, trivial⟩

theorem legible_binding {r : Record} (whole : r.IsWhole) (short : r.IsShort) (room : Nat) :
    Json.Legible (room + 2) (.object r.bindingFields) := by
  have names : ∀ name ∈ ["podUID", "podName", "nodeName", "referredObject"],
      Text.isWhole name.toList = true := by
    decide +kernel
  have index := Json.legibleFields_iff.mp (legible_index short room)
  refine ⟨Nat.succ_pos _, ?_, ?_⟩
  · cases known : r.binding.index <;> simp [bindingFields, known, indexFields]
  · rw [Nat.add_sub_cancel (room + 1) 1, bindingFields, Json.legibleFields_iff, List.map_append, List.map_append,
      List.forall_mem_append, List.forall_mem_append]
    refine ⟨⟨names, index.1⟩, ?_, index.2⟩
    intro v listed
    simp only [List.map_cons, List.map_nil, List.mem_cons, List.not_mem_nil, or_false] at listed
    rcases listed with rfl | rfl | rfl | rfl
    · exact whole _ (by simp [texts])
    · exact whole _ (by simp [texts])
    · exact whole _ (by simp [texts])
    · exact legible_owner whole room

theorem legible_toJson {r : Record} (whole : r.IsWhole) (short : r.IsShort) (room : Nat) :
    Json.Legible (room + 3) r.toJson := by
  have names : ∀ name ∈ ["address", "family", "mac", "subnet", "network", "namespace", "binding"],
      Text.isWhole name.toList = true := by
    decide +kernel
  have family := legible_familyName (room + 2) r.family
  have binding := legible_binding whole short room
  refine ⟨Nat.succ_pos _, by simp, Json.legibleFields_iff.mpr ⟨names, ?_⟩⟩
  intro v listed
  simp only [List.map_cons, List.map_nil, List.mem_cons, List.not_mem_nil, or_false] at listed
  rcases listed with rfl | rfl | rfl | rfl | rfl | rfl | rfl
  · exact whole _ (by simp [texts])
  · exact family
  · exact whole _ (by simp [texts])
  · exact whole _ (by simp [texts])
  · exact whole _ (by simp [texts])
  · exact whole _ (by simp [texts])
  · exact binding

theorem writeAt_rejoined (r : Record) (depth : Nat) :
    Json.writeAt depth r.rejoined.toJson = Json.writeAt depth r.toJson := by
  simp only [toJson, rejoined, Json.writeAt, Json.writeFields, Json.writeText_rejoined, List.cons_append,
    List.nil_append]

end Record

namespace Document

theorem ofBytes_write {v : Json} (legible : Json.Legible Json.nestingLimit v) :
    ofBytes v.write.toUTF8 = .ok v := by
  have decoded : textOf v.write.toUTF8 = .ok v.write := by
    rw [textOf, String.toUTF8_eq_toByteArray, String.fromUTF8?, dif_pos v.write.isValidUTF8]
    rfl
  rw [ofBytes, decoded]
  change ofText v.write = _
  rw [ofText, Json.read_write legible]

end Document

namespace RecordFile

theorem readEntries_toJson (records : List Record) : readEntries (records.map Record.toJson) = .ok records := by
  induction records with
  | nil => rfl
  | cons r rest ih =>
      rw [List.map_cons, readEntries, Record.ofJson_toJson]
      dsimp only
      rw [ih]
      rfl

theorem legible_listing {entries : List Json} (each : ∀ entry ∈ entries, Json.Legible 983 entry) :
    Json.Legible Json.nestingLimit (.object [("records", .list entries)]) := by
  have name : Text.isWhole "records".toList = true := by decide +kernel
  exact ⟨by decide, by simp, name, ⟨by decide, Json.legibleItems_iff.mpr each⟩, trivial⟩

theorem legible_toDocument {records : List Record} (whole : ∀ r ∈ records, r.IsWhole)
    (short : ∀ r ∈ records, r.IsShort) :
    Json.Legible Json.nestingLimit (.object [("records", .list (records.map Record.toJson))]) :=
  legible_listing (List.forall_mem_map.mpr fun r listed => Record.legible_toJson (whole r listed) (short r listed) 980)

theorem writeItems_rejoined (depth : Nat) (records : List Record) :
    Json.writeItems depth ((records.map Record.rejoined).map Record.toJson) =
      Json.writeItems depth (records.map Record.toJson) := by
  induction records with
  | nil => rfl
  | cons r rest ih =>
      rw [List.map_cons, List.map_cons, List.map_cons, Json.writeItems, Json.writeItems, Record.writeAt_rejoined, ih]

/-- What is read of the document that records are written to is the records as they are read back, in the order of the
file. -/
theorem ofBytes_toDocument {records : List Record} (short : ∀ r ∈ records, r.IsShort) :
    Document.ofBytes (toDocument records).write.toUTF8 =
      .ok (.object [("records", .list (((records.mergeSort precedes).map Record.rejoined).map Record.toJson))]) := by
  have same : (toDocument records).write = (Json.object
      [("records", .list (((records.mergeSort precedes).map Record.rejoined).map Record.toJson))]).write := by
    simp only [toDocument, Json.write, Json.writeAt, Json.writeFields, writeItems_rejoined]
  rw [same]
  apply Document.ofBytes_write
  refine legible_toDocument (List.forall_mem_map.mpr fun r _ => r.isWhole_rejoined)
    (List.forall_mem_map.mpr fun r listed => ?_)
  exact short r (List.mem_mergeSort.mp listed)

section Order

theorem precedes_iff {r s : Record} :
    precedes r s = true ↔ r.subnet < s.subnet ∨ (r.subnet = s.subnet ∧ r.address ≤ s.address) := by
  unfold precedes
  by_cases same : r.subnet = s.subnet <;> simp [same]

theorem precedes_trans (r s t : Record) (first : precedes r s = true) (second : precedes s t = true) :
    precedes r t = true := by
  rw [precedes_iff] at first second ⊢
  rcases first with less | ⟨same, address⟩
  · rcases second with further | ⟨same', _⟩
    · exact .inl (String.lt_trans less further)
    · exact .inl (same' ▸ less)
  · rcases second with further | ⟨same', address'⟩
    · exact .inl (same ▸ further)
    · exact .inr ⟨same.trans same', String.le_trans address address'⟩

theorem precedes_total (r s : Record) : (precedes r s || precedes s r) = true := by
  rw [Bool.or_eq_true, precedes_iff, precedes_iff]
  by_cases same : r.subnet = s.subnet
  · rcases String.le_total r.address s.address with before | behind
    · exact .inl (.inr ⟨same, before⟩)
    · exact .inr (.inr ⟨same.symm, behind⟩)
  · rcases String.le_total r.subnet s.subnet with before | behind
    · exact .inl (.inl (Std.lt_of_le_of_ne before same))
    · exact .inr (.inl (Std.lt_of_le_of_ne behind (Ne.symm same)))

theorem precedes_antisymm {r s : Record} (before : precedes r s = true) (behind : precedes s r = true) :
    r.subnet = s.subnet ∧ r.address = s.address := by
  rw [precedes_iff] at before behind
  rcases before with less | ⟨subnet, address⟩
  · rcases behind with greater | ⟨subnet, _⟩
    · exact absurd (String.lt_trans less greater) (String.lt_irrefl _)
    · exact absurd (subnet ▸ less) (String.lt_irrefl _)
  · rcases behind with greater | ⟨_, address'⟩
    · exact absurd (subnet ▸ greater) (String.lt_irrefl _)
    · exact ⟨subnet, String.le_antisymm address address'⟩

def Apart (records : List Record) : Prop :=
  ∀ r ∈ records, ∀ s ∈ records, r.subnet = s.subnet → r.address = s.address → r = s

theorem toDocument_of_perm {records others : List Record} (apart : Apart records) (same : records.Perm others) :
    toDocument records = toDocument others := by
  have sorted : records.mergeSort precedes = others.mergeSort precedes := by
    refine @List.Perm.eq_of_pairwise Record (precedes · · = true) _ _ ?_
      (List.pairwise_mergeSort precedes_trans precedes_total records)
      (List.pairwise_mergeSort precedes_trans precedes_total others)
      ((List.mergeSort_perm _ _).trans (same.trans (List.mergeSort_perm _ _).symm))
    intro r s left right before behind
    obtain ⟨subnet, address⟩ := precedes_antisymm before behind
    exact apart r (List.mem_mergeSort.mp left) s (same.mem_iff.mpr (List.mem_mergeSort.mp right)) subnet address
  rw [toDocument, sorted, toDocument]

end Order

section Saving
variable {files after : Files} {path temporary : FilePath} {bytes : ByteArray} {left taken : Place}
variable {records : List Record} {fault : Fault}

/-- A file can be written under a temporary name and then moved to its path. -/
structure Replaceable (files : Files) (path temporary : FilePath) (left taken : Place) : Prop where
  led : files.place temporary = .ok left
  led' : files.place path = .ok taken
  onward : path.endsUpwards = false
  plain : files.node? left ≠ some .directory
  plain' : files.node? taken ≠ some .directory

def replaced (files : Files) (left taken : Place) (bytes : ByteArray) : Files :=
  ((files.put left (.file bytes)).erase left).put taken (.file bytes)

theorem replace_eq_ok_iff : replace files path temporary bytes = (.ok (), after) ↔
    ∃ left taken, Replaceable files path temporary left taken ∧ replaced files left taken bytes = after := by
  unfold replace
  constructor
  · intro done
    split at done
    case h_1 => cases done
    case h_2 written wrote =>
      split at done
      case h_1 => cases done
      case h_2 moved took =>
        cases done
        obtain ⟨left, led, plain, rfl⟩ := Files.write_eq_ok_iff.mp wrote
        obtain ⟨left', taken, node, again, led', there, onward, plain', rfl⟩ := Files.move_eq_ok_iff.mp took
        have kept := Files.Keeps.put plain (.file bytes)
        have back := Files.Keeps.of_put plain bytes
        cases (kept.leads led).symm.trans again
        rw [Files.node?_put files (Files.below_root plain), if_pos rfl] at there
        cases there
        have vacant : files.node? taken ≠ some .directory := fun directory => plain' (kept.2 _ directory)
        exact ⟨left, taken, ⟨led, back.leads led', onward, plain, vacant⟩, rfl⟩
  · rintro ⟨left, taken, ready, rfl⟩
    have kept := Files.Keeps.put ready.plain (.file bytes)
    have back := Files.Keeps.of_put ready.plain bytes
    have wrote : files.write temporary bytes = .ok (files.put left (.file bytes)) :=
      Files.write_eq_ok_iff.mpr ⟨left, ready.led, ready.plain, rfl⟩
    have there := Files.node?_put files (Files.below_root ready.plain) (.file bytes) left
    rw [if_pos rfl] at there
    have vacant : (files.put left (.file bytes)).node? taken ≠ some .directory :=
      fun directory => ready.plain' (back.2 _ directory)
    have took := Files.move_eq_ok_iff.mpr ⟨left, taken, _, kept.leads ready.led, kept.leads ready.led', there,
      ready.onward, vacant, rfl⟩
    rw [wrote]
    dsimp only
    rw [took]
    rfl

namespace Replaceable

theorem node?_replaced (ready : Replaceable files path temporary left taken) (bytes : ByteArray) (place : Place) :
    (replaced files left taken bytes).node? place =
      if taken = place then some (.file bytes) else if left = place then none else files.node? place := by
  have inside := Files.below_root ready.plain
  rw [replaced, Files.node?_put _ (Files.below_root ready.plain'), Files.node?_erase _ inside,
    Files.node?_put _ inside]
  split
  · rfl
  · split <;> rfl

theorem keeps (ready : Replaceable files path temporary left taken) (bytes : ByteArray) :
    Files.Keeps files (replaced files left taken bytes) := by
  refine ⟨rfl, fun place there => ?_⟩
  rw [ready.node?_replaced, if_neg, if_neg]
  · exact there
  · rintro rfl
    exact ready.plain there
  · rintro rfl
    exact ready.plain' there

theorem again (ready : Replaceable files path temporary left taken) (bytes : ByteArray) :
    Replaceable (replaced files left taken bytes) path temporary left taken where
  led := (ready.keeps bytes).leads ready.led
  led' := (ready.keeps bytes).leads ready.led'
  onward := ready.onward
  plain := by
    rw [ready.node?_replaced]
    split
    · simp
    · simp
  plain' := by
    rw [ready.node?_replaced, if_pos rfl]
    simp

theorem content?_replaced (ready : Replaceable files path temporary left taken) (bytes : ByteArray) :
    (replaced files left taken bytes).content? path = .ok (some bytes) := by
  have there := ready.node?_replaced bytes taken
  rw [if_pos rfl] at there
  exact Files.content?_of_find (Files.find_eq_ok_iff.mpr ⟨taken, (ready.again bytes).led', there⟩)

end Replaceable

theorem replaced_again (files : Files) (left taken : Place) (first second : ByteArray) :
    replaced (replaced files left taken first) left taken second = replaced files left taken second := by
  have erased (t : Table Place Node) : (t.erase left).erase left = t.erase left :=
    Table.erase_of_absent (by rw [Table.get?_erase, if_pos rfl])
  have nodes : ((((((files.nodes.put left (.file first)).erase left).put taken (.file first)).put left
      (.file second)).erase left).put taken (.file second)) =
      ((files.nodes.put left (.file second)).erase left).put taken (.file second) := by
    rw [Table.erase_put, Table.erase_put, Table.erase_put]
    by_cases same : taken = left
    · rw [same, Table.erase_put, erased]
    · rw [Table.erase_put_ne same, Table.put_put, erased]
  exact congrArg (fun nodes => { files with nodes }) nodes

theorem replace_eq_error (failed : replace files path temporary bytes = (.error fault, after)) :
    after = files ∨ ∃ left, files.place temporary = .ok left ∧ files.node? left ≠ some .directory ∧
      files.put left (.file bytes) = after := by
  unfold replace at failed
  split at failed
  case h_1 =>
    cases failed
    exact .inl rfl
  case h_2 written wrote =>
    split at failed
    case h_1 =>
      cases failed
      exact .inr (Files.write_eq_ok_iff.mp wrote)
    case h_2 => cases failed

/-- What is replaced again is replaced as if it had not been before, also if the file could not be moved. -/
theorem replace_again (files : Files) (path temporary : FilePath) (first second : ByteArray) :
    replace (replace files path temporary first).2 path temporary second = replace files path temporary second := by
  rcases done : replace files path temporary first with ⟨outcome, after⟩
  cases outcome with
  | ok =>
      obtain ⟨left, taken, ready, rfl⟩ := replace_eq_ok_iff.mp done
      have once : replace files path temporary second = (.ok (), replaced files left taken second) :=
        replace_eq_ok_iff.mpr ⟨left, taken, ready, rfl⟩
      rw [once]
      exact replace_eq_ok_iff.mpr ⟨left, taken, ready.again first, replaced_again files left taken first second⟩
  | error fault =>
      rcases replace_eq_error done with rfl | ⟨left, led, plain, rfl⟩
      · rfl
      · have kept := Files.Keeps.put plain (.file first)
        have back := Files.Keeps.of_put plain first
        have twice : (files.put left (.file first)).put left (.file second) = files.put left (.file second) :=
          congrArg (fun nodes => { files with nodes }) (Table.put_put files.nodes left _ _)
        have once : files.write temporary second = .ok (files.put left (.file second)) :=
          Files.write_eq_ok_iff.mpr ⟨left, led, plain, rfl⟩
        have again : (files.put left (.file first)).write temporary second = .ok (files.put left (.file second)) :=
          Files.write_eq_ok_iff.mpr ⟨left, kept.leads led, fun directory => plain (back.2 left directory), twice⟩
        unfold replace
        rw [once, again]

theorem keeps_replace (files : Files) (path temporary : FilePath) (bytes : ByteArray) :
    Files.Keeps files (replace files path temporary bytes).2 := by
  rcases done : replace files path temporary bytes with ⟨outcome, after⟩
  cases outcome with
  | ok =>
      obtain ⟨left, taken, ready, rfl⟩ := replace_eq_ok_iff.mp done
      exact ready.keeps bytes
  | error fault =>
      rcases replace_eq_error done with rfl | ⟨left, _, plain, rfl⟩
      · exact ⟨rfl, fun _ there => there⟩
      · exact Files.Keeps.put plain (.file bytes)

theorem save_eq_ok_iff : save files path records = (.ok (), after) ↔
    ∃ made temporary left taken, files.makeDirectories path.parent = (.ok (), made) ∧
      temporary? path = some temporary ∧ Replaceable made path temporary left taken ∧
      replaced made left taken (toDocument records).write.toUTF8 = after := by
  unfold save
  constructor
  · intro saved
    split at saved
    case h_1 => cases saved
    case h_2 => cases saved
    case h_3 made temporary making named =>
      obtain ⟨left, taken, ready, same⟩ := replace_eq_ok_iff.mp saved
      exact ⟨made, temporary, left, taken, making, named, ready, same⟩
  · rintro ⟨made, temporary, left, taken, making, named, ready, rfl⟩
    rw [making, named]
    exact replace_eq_ok_iff.mpr ⟨left, taken, ready, rfl⟩

theorem replaced_of_save (saved : (save files path records).1 = .ok ()) :
    ∃ made temporary left taken, files.makeDirectories path.parent = (.ok (), made) ∧
      temporary? path = some temporary ∧ Replaceable made path temporary left taken ∧
      (save files path records).2 = replaced made left taken (toDocument records).write.toUTF8 := by
  have whole : save files path records = (.ok (), (save files path records).2) := Prod.ext saved rfl
  obtain ⟨made, temporary, left, taken, making, named, ready, same⟩ := save_eq_ok_iff.mp whole
  exact ⟨made, temporary, left, taken, making, named, ready, same.symm⟩

def Placeable (files : Files) (path : FilePath) : Prop :=
  ∃ made temporary left taken, files.makeDirectories path.parent = (.ok (), made) ∧
    temporary? path = some temporary ∧ Replaceable made path temporary left taken

theorem placeable_of_save (saved : (save files path records).1 = .ok ()) : Placeable files path := by
  obtain ⟨made, temporary, left, taken, making, named, ready, _⟩ := replaced_of_save saved
  exact ⟨made, temporary, left, taken, making, named, ready⟩

/-- Whether records can be saved to a file, whichever these are. -/
def Writable (files : Files) (path : FilePath) : Prop :=
  ∀ records, (save files path records).1 = .ok ()

theorem writable_of_placeable (placeable : Placeable files path) : Writable files path := by
  obtain ⟨made, temporary, left, taken, making, named, ready⟩ := placeable
  intro records
  exact congrArg Prod.fst (save_eq_ok_iff.mpr ⟨made, temporary, left, taken, making, named, ready, rfl⟩)

theorem writable_of_save (saved : (save files path records).1 = .ok ()) : Writable files path :=
  writable_of_placeable (placeable_of_save saved)

theorem writable_after_save (writable : Writable files path) (records : List Record) :
    Writable (save files path records).2 path := by
  obtain ⟨made, temporary, left, taken, making, named, ready, after⟩ := replaced_of_save (writable records)
  have above := (ready.keeps (toDocument records).write.toUTF8).find (Files.find_of_makeDirectories making)
  rw [after]
  exact writable_of_placeable
    ⟨_, temporary, left, taken, Files.makeDirectories_of_there above, named, ready.again _⟩

/-- A save leaves what it leaves whether or not other records were saved before, and fails where it fails. -/
theorem save_again (files : Files) (path : FilePath) (first second : List Record) :
    (save (save files path first).2 path second).2 = (save files path second).2 ∧
      ((save (save files path first).2 path second).1 = .ok () ↔ (save files path second).1 = .ok ()) := by
  rcases making : files.makeDirectories path.parent with ⟨outcome, made⟩
  cases outcome with
  | error fault =>
      have once (records : List Record) : save files path records = (.error fault, made) := by
        rw [save, making]
      obtain ⟨fault', making'⟩ := Files.makeDirectories_again making
      have again : save made path second = (.error fault', made) := by rw [save, making']
      rw [once first, once second, again]
      simp
  | ok =>
      have there := Files.find_of_makeDirectories making
      cases named : temporary? path with
      | none =>
          have once (records : List Record) :
              save files path records = (.error (.bad (.noFileName path.text)), made) := by
            rw [save, making, named]
          have again : save made path second = (.error (.bad (.noFileName path.text)), made) := by
            rw [save, Files.makeDirectories_of_there there, named]
          rw [once first, once second, again]
          exact ⟨rfl, Iff.rfl⟩
      | some temporary =>
          have once (records : List Record) :
              save files path records = replace made path temporary (toDocument records).write.toUTF8 := by
            rw [save, making, named]
          have kept := (keeps_replace made path temporary (toDocument first).write.toUTF8).find there
          rw [once first, once second, save, Files.makeDirectories_of_there kept, named]
          dsimp only
          rw [replace_again]
          exact ⟨rfl, Iff.rfl⟩

theorem load_of_content (present : files.content? path = .ok (some bytes)) :
    load files path = Document.ofBytes bytes >>= ofDocument path := by
  rw [load, present]
  rfl

theorem load_of_save (short : ∀ r ∈ records, r.IsShort) (saved : (save files path records).1 = .ok ()) :
    load (save files path records).2 path = .ok ((records.mergeSort precedes).map Record.rejoined) := by
  obtain ⟨made, temporary, left, taken, _, _, ready, after⟩ := replaced_of_save saved
  rw [after, load_of_content (ready.content?_replaced _), ofBytes_toDocument short]
  exact readEntries_toJson _

theorem load_of_absent (absent : files.content? path = .ok none) : load files path = .ok [] := by
  rw [load, absent]
  rfl

end Saving

end RecordFile

/-!
Records that are saved to a file and loaded from it. They come back in the order of the file; records of one subnet and
one address stay in the order in which they were saved. Each comes back as it was, but for halves that stand side by
side.
-/

namespace RecordFile
variable {files : Files} {path : FilePath} {records sorted other : List Record} {r s : Record}

section Order

def position (r : Record) : String × String := (r.subnet, r.address)

/-- Whether a list has the records of another one in the order of a file, those of one position as they come there. -/
structure StableSort (records sorted : List Record) : Prop where
  perm : sorted.Perm records
  ordered : sorted.Pairwise (precedes · · = true)
  stable : ∀ r ∈ records, sorted.filter (position · = position r) = records.filter (position · = position r)

instance : Decidable (StableSort records sorted) :=
  decidable_of_iff (sorted.Perm records ∧ sorted.Pairwise (precedes · · = true) ∧
    ∀ r ∈ records, sorted.filter (position · = position r) = records.filter (position · = position r))
    ⟨fun parts => ⟨parts.1, parts.2.1, parts.2.2⟩, fun sort => ⟨sort.perm, sort.ordered, sort.stable⟩⟩

theorem precedes_of_position (same : position r = position s) : precedes r s = true := by
  obtain ⟨subnet, address⟩ := Prod.mk.inj same
  exact precedes_iff.mpr (.inr ⟨subnet, address ▸ String.le_refl _⟩)

theorem position_eq_of_precedes (before : precedes r s = true) (behind : precedes s r = true) :
    position r = position s := by
  obtain ⟨subnet, address⟩ := precedes_antisymm before behind
  exact Prod.ext subnet address

theorem stableSort_mergeSort (records : List Record) : StableSort records (records.mergeSort precedes) where
  perm := List.mergeSort_perm _ _
  ordered := List.pairwise_mergeSort precedes_trans precedes_total records
  stable := by
    intro r _
    have alike : (records.filter (position · = position r)).Pairwise (precedes · · = true) := by
      refine List.pairwise_of_forall_mem_list fun s left t right => precedes_of_position ?_
      simp only [List.mem_filter, decide_eq_true_eq] at left right
      exact left.2.trans right.2.symm
    have kept := (List.sublist_mergeSort precedes_trans precedes_total alike List.filter_sublist).filter
      (position · = position r)
    simp only [List.filter_filter, Bool.and_self] at kept
    exact (kept.eq_of_length ((List.mergeSort_perm _ _).filter _).length_eq.symm).symm

variable {left right : List Record}

theorem mem_iff_of_slots (same : ∀ slot, left.filter (position · = slot) = right.filter (position · = slot)) :
    r ∈ left ↔ r ∈ right := by
  simpa using congrArg (r ∈ ·) (same (position r))

theorem eq_of_ordered (ordered : left.Pairwise (precedes · · = true)) (ordered' : right.Pairwise (precedes · · = true))
    (same : ∀ slot, left.filter (position · = slot) = right.filter (position · = slot)) : left = right := by
  induction left generalizing right with
  | nil =>
      exact (List.eq_nil_iff_forall_not_mem.mpr fun r member =>
        List.not_mem_nil ((mem_iff_of_slots same).mpr member)).symm
  | cons r rest ih =>
      have listed := (mem_iff_of_slots same (r := r)).mp List.mem_cons_self
      obtain ⟨s, rest', rfl⟩ := List.exists_cons_of_ne_nil (List.ne_nil_of_mem listed)
      -- Each head precedes the other one, so they are of one position, and there each comes first.
      have before : precedes r s = true := by
        rcases List.mem_cons.mp ((mem_iff_of_slots same).mpr List.mem_cons_self) with rfl | later
        · exact precedes_of_position rfl
        · exact List.rel_of_pairwise_cons ordered later
      have behind : precedes s r = true := by
        rcases List.mem_cons.mp listed with rfl | later
        · exact precedes_of_position rfl
        · exact List.rel_of_pairwise_cons ordered' later
      have level : position s = position r := position_eq_of_precedes behind before
      have heads := same (position r)
      rw [List.filter_cons_of_pos (by simp), List.filter_cons_of_pos (by simpa using level)] at heads
      obtain rfl := (List.cons.inj heads).1
      have tails (slot : String × String) : rest.filter (position · = slot) = rest'.filter (position · = slot) := by
        have whole := same slot
        by_cases here : position r = slot
        · rw [List.filter_cons_of_pos (by simpa using here), List.filter_cons_of_pos (by simpa using here)] at whole
          exact (List.cons.inj whole).2
        · rwa [List.filter_cons_of_neg (by simpa using here), List.filter_cons_of_neg (by simpa using here)] at whole
      rw [ih ordered.of_cons ordered'.of_cons tails]

theorem StableSort.filter (sort : StableSort records sorted) (slot : String × String) :
    sorted.filter (position · = slot) = records.filter (position · = slot) := by
  by_cases held : ∃ r ∈ records, position r = slot
  · obtain ⟨r, member, rfl⟩ := held
    exact sort.stable r member
  · have nothing : records.filter (position · = slot) = [] :=
      List.filter_eq_nil_iff.mpr fun r member here => held ⟨r, member, of_decide_eq_true here⟩
    have left := sort.perm.filter (position · = slot)
    rw [nothing] at left ⊢
    exact left.eq_nil

theorem stableSort_iff : StableSort records other ↔ other = records.mergeSort precedes := by
  have sort := stableSort_mergeSort records
  constructor
  · intro sort'
    exact eq_of_ordered sort'.ordered sort.ordered fun slot => (sort'.filter slot).trans (sort.filter slot).symm
  · rintro rfl
    exact sort

end Order

section Saving

/-- Records that have been saved are all loaded again, in the one order that a file has for them. They are as they were
if no text has a first half before a second one, and only then. -/
theorem loaded_as_saved (placeable : Placeable files path) (short : ∀ r ∈ records, r.IsShort) :
    (save files path records).1 = .ok () ∧
      ∃ sorted, load (save files path records).2 path = .ok (sorted.map Record.rejoined) ∧
        (∀ other, StableSort records other ↔ other = sorted) ∧
        (sorted.map Record.rejoined = sorted ↔ ∀ r ∈ records, r.IsWhole) := by
  have saved := writable_of_placeable placeable records
  refine ⟨saved, _, load_of_save short saved, fun _ => stableSort_iff, ?_⟩
  have listed : (∀ r ∈ records.mergeSort precedes, r.IsWhole) ↔ ∀ r ∈ records, r.IsWhole := by
    simp only [List.mem_mergeSort]
  rw [← listed]
  constructor
  · intro same
    exact Record.rejoined_perm_iff.mp (.of_eq same)
  · intro whole
    rw [List.map_congr_left fun r member => Record.rejoined_of_whole (whole r member), List.map_id']

def sampleFile : FilePath := ⟨1, ["var", "records.json"]⟩

/-- Two halves that are not one character, but come back as one. -/
def splitText : String := String.ofList [Text.ofUnit 0xd83d, Text.ofUnit 0xde00]

/-- Records with quotes, backslashes, controls and characters beyond the first plane, with a number that is zero and one
that is less, and with nothing where a default would be; two of them are of one position. -/
def awkward : List Record := [
  ⟨"10.0.0.1", .v4, "\"02\"", "po\\ds", "under\nlay", "", ⟨"u\x001", "", "", ⟨"", "", ""⟩, none⟩⟩,
  ⟨"fd00::1", .v6, "", "kůň", "\t", "shop", ⟨"", "web-0", "", ⟨"StatefulSet", "😀", "\x7f"⟩, some 0⟩⟩,
  ⟨"10.0.0.1", .v6, "\"02\"", "po\\ds", "", "", ⟨"", "web--1", "", ⟨"StatefulSet", "web", ""⟩, some (-1)⟩⟩]

theorem awkward_loaded :
    Placeable {} sampleFile ∧ (∀ r ∈ awkward, r.IsShort ∧ r.IsWhole) ∧
      load (save {} sampleFile awkward).2 sampleFile = .ok (awkward.tail.take 1 ++ awkward.take 1 ++ awkward.drop 2) := by
  have saved : (save {} sampleFile []).1 = .ok () := by decide +kernel
  have placeable := placeable_of_save saved
  have short : ∀ r ∈ awkward, r.IsShort := by decide +kernel
  have whole : ∀ r ∈ awkward, r.IsWhole := by decide +kernel
  obtain ⟨_, sorted, answer, order, same⟩ := loaded_as_saved placeable short
  refine ⟨placeable, fun r member => ⟨short r member, whole r member⟩, ?_⟩
  rw [answer, same.mpr whole, ← (order _).mp]
  decide +kernel

/-- A record whose subnet is named by two halves comes back with another subnet. -/
def splitRecord : Record :=
  ⟨"10.0.0.1", .v4, "02:00:00:00:00:09", splitText, "pods", "shop", ⟨"u1", "web", "node-1", ⟨"Pod", "web", "u1"⟩, none⟩⟩

theorem split_altered : (save {} sampleFile [splitRecord]).1 = .ok () ∧
    load (save {} sampleFile [splitRecord]).2 sampleFile = .ok [{ splitRecord with subnet := "😀" }] ∧
      { splitRecord with subnet := "😀" } ≠ splitRecord := by
  have saved : (save {} sampleFile [splitRecord]).1 = .ok () := by decide +kernel
  refine ⟨saved, ?_, by decide +kernel⟩
  rw [load_of_save (by decide +kernel) saved, List.mergeSort_singleton]
  decide +kernel

end Saving

end RecordFile

end PodAddressing
