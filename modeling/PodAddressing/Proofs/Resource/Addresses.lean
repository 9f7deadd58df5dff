import Mathlib.Data.List.Forall2
import PodAddressing.Proofs.Address.Canonical
import PodAddressing.Proofs.Resource.Spelling
/-!
Lists of addresses as the addresses that they denote. A list is read just if each of its texts denotes an address, and
two lists that were read are equal just if they denote the same addresses in the same order.
-/

namespace PodAddressing

namespace AddressList

/-- The address that an item of a list denotes. Blanks around it do not count. -/
def Denotes (item : String) (a : Address) : Prop := Address.parse? (Text.trimmed item) = some a

instance (item : String) (a : Address) : Decidable (Denotes item a) :=
  inferInstanceAs (Decidable (Address.parse? (Text.trimmed item) = some a))

def textsOf : Json → Except Fault (List String)
  | .null => .ok []
  | .text s => .ok (if s = "" then [] else Text.pieces ',' s)
  | v => v.items.map (·.map Json.describe)

/-- The addresses that a value lists. -/
def Lists (v : Json) (as : List Address) : Prop := ∃ items, textsOf v = .ok items ∧ List.Forall₂ Denotes items as

instance (v : Json) (as : List Address) : Decidable (Lists v as) :=
  match listed : textsOf v with
  | .ok items => decidable_of_iff (List.Forall₂ Denotes items as) (by simp [Lists, listed])
  | .error _ => isFalse (by simp [Lists, listed])

variable {item : String} {items others found : List String} {a b : Address} {as bs : List Address} {v : Json}

theorem Denotes.proper (denotes : Denotes item a) : a.Proper := Address.proper_of_parse? denotes

theorem canonical_eq_ok_iff {s : String} : canonical item = .ok s ↔ ∃ a, Denotes item a ∧ a.text = s := by
  unfold canonical Address.ofText Denotes
  cases Address.parse? (Text.trimmed item) with
  | none => simp [Except.map]
  | some a => simp [Except.map]

theorem Denotes.scope_ends (denotes : Denotes item a) (scope : String) (has : a.scope = some scope) :
    ∀ c ∈ scope.toList.getLast?, Text.isBlank c = false := by
  intro c last
  unfold Denotes Address.parse? at denotes
  split at denotes
  case h_1 four =>
    cases denotes
    obtain ⟨n, _, rfl⟩ := Option.map_eq_some_iff.mp four
    cases has
  case h_2 =>
    obtain ⟨some_char, _, _, digits, spelled⟩ := Address.scope_of_v6? denotes has
    rw [Text.trimmed, String.toList_ofList] at spelled
    have trimmed_last : c ∈ (Text.trim item.toList).getLast? := by
      rw [spelled, Text.getLast?_append_mark some_char]
      exact last
    exact Text.isBlank_of_getLast?_trim trimmed_last

theorem Denotes.again (denotes : Denotes item a) : Denotes a.text a := by
  unfold Denotes
  rw [denotes.proper.trimmed_text denotes.scope_ends, denotes.proper.parse?_text]

theorem ofTexts_eq_ok_iff :
    ofTexts items = .ok found ↔ ∃ as, List.Forall₂ Denotes items as ∧ as.map Address.text = found := by
  unfold ofTexts
  rw [mapM_eq_ok_iff_forall₂]
  simp only [canonical_eq_ok_iff]
  constructor
  · intro read
    induction read with
    | nil => exact ⟨[], .nil, rfl⟩
    | cons first _ ih =>
        obtain ⟨a, denotes, rfl⟩ := first
        obtain ⟨as, rest, rfl⟩ := ih
        exact ⟨a :: as, .cons denotes rest, rfl⟩
  · rintro ⟨as, denoted, rfl⟩
    rw [List.forall₂_map_right_iff]
    exact denoted.imp fun _ a denotes => ⟨a, denotes, rfl⟩

theorem ofJson_eq (v : Json) : ofJson v = textsOf v >>= ofTexts := by
  cases v with
  | null => rfl
  | text s =>
      change (if s = "" then .ok [] else ofTexts (Text.pieces ',' s)) =
        ofTexts (if s = "" then [] else Text.pieces ',' s)
      split <;> rfl
  | _ => rfl

theorem ofJson_eq_ok_iff : ofJson v = .ok found ↔ ∃ as, Lists v as ∧ as.map Address.text = found := by
  rw [ofJson_eq, bind_eq_ok_iff]
  simp only [ofTexts_eq_ok_iff, Lists]
  constructor
  · rintro ⟨items, listed, as, denoted, same⟩
    exact ⟨as, ⟨items, listed, denoted⟩, same⟩
  · rintro ⟨as, ⟨items, listed, denoted⟩, same⟩
    exact ⟨items, listed, as, denoted, same⟩

theorem Lists.proper (lists : Lists v as) : ∀ a ∈ as, a.Proper := by
  obtain ⟨items, _, denoted⟩ := lists
  clear * - denoted
  induction denoted with
  | nil => exact List.forall_mem_nil _
  | cons first _ ih => exact List.forall_mem_cons.mpr ⟨first.proper, ih⟩

theorem Lists.unique (left : Lists v as) (right : Lists v bs) : as = bs := by
  obtain ⟨items, listed, denoted⟩ := left
  obtain ⟨items', listed', denoted'⟩ := right
  cases listed.symm.trans listed'
  have sole : Relator.RightUnique Denotes := fun _ _ _ denotes denotes' => Option.some.inj (denotes.symm.trans denotes')
  exact List.right_unique_forall₂' sole denoted denoted'

/-- Texts tell addresses that can be read apart, and lists of such texts lists of such addresses. -/
theorem texts_inj (left : ∀ a ∈ as, a.Proper) (right : ∀ b ∈ bs, b.Proper) :
    as.map Address.text = bs.map Address.text ↔ as = bs := by
  refine ⟨fun same => ?_, congrArg _⟩
  induction as generalizing bs with
  | nil => exact (List.map_eq_nil_iff.mp same.symm).symm
  | cons a rest ih =>
      cases bs with
      | nil => cases same
      | cons b others =>
          obtain ⟨proper, left⟩ := List.forall_mem_cons.mp left
          obtain ⟨proper', right⟩ := List.forall_mem_cons.mp right
          obtain ⟨first, same⟩ := List.cons.inj same
          rw [(proper.text_inj proper').mp first, ih left right same]

section Texts

abbrev given (items : List String) : Json := .list (items.map .text)

theorem textsOf_given : textsOf (given items) = .ok items := by
  change Except.ok ((items.map Json.text).map Json.describe) = _
  rw [List.map_map]
  exact congrArg _ (List.map_id _)

theorem lists_given_iff : Lists (given items) as ↔ List.Forall₂ Denotes items as := by
  simp only [Lists, textsOf_given, Except.ok.injEq, exists_eq_left']

theorem exists_given_iff : (∃ found, ofJson (given items) = .ok found) ↔ ∀ item ∈ items, ∃ a, Denotes item a := by
  simp only [ofJson_eq_ok_iff, lists_given_iff]
  constructor
  · rintro ⟨_, as, denoted, _⟩
    clear * - denoted
    induction denoted with
    | nil => exact List.forall_mem_nil _
    | cons first _ ih => exact List.forall_mem_cons.mpr ⟨⟨_, first⟩, ih⟩
  · intro denoted
    induction items with
    | nil => exact ⟨[], [], .nil, rfl⟩
    | cons item rest ih =>
        obtain ⟨⟨a, first⟩, others⟩ := List.forall_mem_cons.mp denoted
        obtain ⟨_, as, denoted, _⟩ := ih others
        exact ⟨_, a :: as, .cons first denoted, rfl⟩

/-- Two texts denote addresses of one family, value and scope. -/
def SameAddress (item other : String) : Prop :=
  ∃ a b, Denotes item a ∧ Denotes other b ∧ a.family = b.family ∧ a.value = b.value ∧ a.scope = b.scope

theorem sameAddress_iff {other : String} (denotes : Denotes item a) (denotes' : Denotes other b) :
    SameAddress item other ↔ a = b := by
  constructor
  · rintro ⟨⟨_, _, _⟩, ⟨_, _, _⟩, first, second, rfl, rfl, rfl⟩
    rw [← Option.some.inj (first.symm.trans denotes), ← Option.some.inj (second.symm.trans denotes')]
  · rintro rfl
    exact ⟨a, a, denotes, denotes', rfl, rfl, rfl⟩

theorem forall₂_sameAddress_iff (denoted : List.Forall₂ Denotes items as) (denoted' : List.Forall₂ Denotes others bs) :
    List.Forall₂ SameAddress items others ↔ as = bs := by
  induction denoted generalizing others bs with
  | nil => cases denoted' <;> simp
  | cons first _ ih =>
      cases denoted' with
      | nil => simp
      | cons first' rest' => rw [List.forall₂_cons, List.cons.injEq, sameAddress_iff first first', ih rest']

theorem given_eq_iff {found' : List String} (read : ofJson (given items) = .ok found)
    (read' : ofJson (given others) = .ok found') : found = found' ↔ List.Forall₂ SameAddress items others := by
  obtain ⟨as, listed, rfl⟩ := ofJson_eq_ok_iff.mp read
  obtain ⟨bs, listed', rfl⟩ := ofJson_eq_ok_iff.mp read'
  rw [texts_inj listed.proper listed'.proper]
  exact (forall₂_sameAddress_iff (lists_given_iff.mp listed) (lists_given_iff.mp listed')).symm

/-- What was read is read as it is. -/
theorem ofJson_found (read : ofJson v = .ok found) : ofJson (given found) = .ok found := by
  obtain ⟨as, ⟨items, _, denoted⟩, rfl⟩ := ofJson_eq_ok_iff.mp read
  refine ofJson_eq_ok_iff.mpr ⟨as, lists_given_iff.mpr ?_, rfl⟩
  rw [List.forall₂_map_left_iff]
  clear * - denoted
  induction denoted with
  | nil => exact .nil
  | cons first _ ih => exact .cons first.again ih

theorem ofJson_joined (read : ofJson (given items) = .ok found) (free : ∀ item ∈ items, ',' ∉ item.toList) :
    ofJson (.text (String.intercalate "," items)) = .ok found := by
  have joined : textsOf (.text (String.intercalate "," items)) = .ok items := by
    by_cases nothing : items = []
    · rw [nothing]
      rfl
    · have parts : Text.pieces ',' (String.intercalate "," items) = items := Text.pieces_join ',' free nothing
      have some_text : String.intercalate "," items ≠ "" := by
        intro empty
        rw [empty] at parts
        -- The empty text has one piece, and this one denotes no address.
        have piece : "" ∈ items := parts ▸ List.mem_singleton_self ""
        obtain ⟨a, denotes⟩ := exists_given_iff.mp ⟨found, read⟩ "" piece
        cases denotes
      rw [textsOf, if_neg some_text, parts]
  rw [ofJson_eq, joined, ← textsOf_given, ← ofJson_eq, read]

end Texts

end AddressList

namespace RemotePeer

/-- The addresses that the entry of a peer lists, and its hardware address as it is written. -/
structure Reach where
  vtep : Address
  mac : String
  nodeLocal : List Address
  endpoints : List Address
  deriving DecidableEq

variable {fields : List (String × Json)} {p : RemotePeer} {r r' : Reach}

structure Reaches (fields : List (String × Json)) (r : Reach) : Prop where
  vtep : ∃ v, Json.lookup? "vtepIP" fields = some v ∧ Address.ofJson v = .ok r.vtep
  mac : Json.text? "vtepMAC" fields = some r.mac
  nodeLocal : ∃ noted, annotated ((Json.lookup? "annotations" fields).getD .null) = .ok noted ∧
    AddressList.Lists ((Json.lookup? "nodeLocalVxlanIPs" fields).getD noted) r.nodeLocal
  endpoints : AddressList.Lists ((Json.lookup? "endpointIPs" fields).getD .null) r.endpoints

theorem Reaches.proper (reaches : Reaches fields r) : r.vtep.Proper := by
  obtain ⟨_, _, read⟩ := reaches.vtep
  exact Address.proper_of_ofJson read

theorem Reaches.unique (left : Reaches fields r) (right : Reaches fields r') : r = r' := by
  obtain ⟨vtep, mac, nodeLocal, endpoints⟩ := r
  obtain ⟨vtep', mac', nodeLocal', endpoints'⟩ := r'
  obtain ⟨⟨v, given, read⟩, written, ⟨noted, annotated, listed⟩, ended⟩ := left
  obtain ⟨⟨v', given', read'⟩, written', ⟨noted', annotated', listed'⟩, ended'⟩ := right
  rw [given] at given'
  cases given'
  rw [annotated] at annotated'
  cases annotated'
  rw [Reach.mk.injEq]
  exact ⟨Except.ok.inj (read.symm.trans read'), Option.some.inj (written.symm.trans written'),
    listed.unique listed', ended.unique ended'⟩

theorem Spells.reaches (spells : Spells fields p) : ∃ r, Reaches fields r ∧ r.vtep.text = p.vtepIP ∧
    Text.lower r.mac = p.vtepMAC ∧ r.nodeLocal.map Address.text = p.nodeLocalIPs ∧
    r.endpoints.map Address.text = p.endpointIPs := by
  obtain ⟨v, given, vtep, located, ip⟩ := spells.vtepIP
  obtain ⟨mac, written, small⟩ := Option.map_eq_some_iff.mp spells.vtepMAC
  obtain ⟨noted, annotated, read⟩ := spells.nodeLocalIPs
  obtain ⟨nodeLocal, listed, locals⟩ := AddressList.ofJson_eq_ok_iff.mp read
  obtain ⟨endpoints, ended, ends⟩ := AddressList.ofJson_eq_ok_iff.mp spells.endpointIPs
  exact ⟨⟨vtep, mac, nodeLocal, endpoints⟩, ⟨⟨v, given, located⟩, written, ⟨noted, annotated, listed⟩, ended⟩,
    ip, small, locals, ends⟩

theorem object_of_ofJson {v : Json} (read : ofJson v = .ok p) : ∃ fields, v = .object fields := by
  cases v with
  | object fields => exact ⟨fields, rfl⟩
  | _ => cases read

end RemotePeer

end PodAddressing
