import PodAddressing.Proofs.Json.Field
import PodAddressing.Proofs.RecordFile
import PodAddressing.Proofs.Watch.Withdrawals
/-!
Entries of a watched file that describe no resource. Most of them are left out when the file is looked at. Some end the
look instead, and with one of them in its file nothing is delivered, whatever the other entries say.
-/

namespace PodAddressing

section Resources
variable {v : Json} {fields : List (String × Json)}

theorem AddressList.not_fatal_ofJson : ¬ Fatal (AddressList.ofJson v) := by
  have texts (items : List String) : ¬ Fatal (AddressList.ofTexts items) := by
    refine not_fatal_mapM fun item _ => ?_
    rw [AddressList.canonical, fatal_map_iff]
    exact mt derails_of_fatal Address.not_derails_ofText
  unfold AddressList.ofJson
  split
  case h_1 => exact not_fatal_ok
  case h_2 =>
    split
    · exact not_fatal_ok
    · exact texts _
  case h_3 =>
    simp only [fatal_bind_iff, Json.not_fatal_items, texts, and_false, exists_false, or_self, not_false_eq_true]

theorem Pod.not_fatal_ownerOf : ¬ Fatal (Pod.ownerOf v) := by
  unfold Pod.ownerOf
  split
  · cases v with
    | object fields =>
        simp only [fatal_bind_iff, Json.not_fatal_textField, Json.textFieldOr_object, not_fatal_ok, not_fatal_pure,
          and_false, exists_false, or_self, not_false_eq_true]
    | _ => exact fun fatal => by cases fatal_error_iff.mp fatal
  · exact not_fatal_ok

theorem Pod.not_fatal_ofJson : ¬ Fatal (Pod.ofJson (.object fields)) := by
  have families (items : List Json) : ¬ Fatal (items.mapM Family.ofJson) :=
    not_fatal_mapM fun _ _ => mt derails_of_fatal Family.not_derails_ofJson
  have type (s : String) : ¬ Fatal (NetworkType.ofText s) := mt derails_of_fatal NetworkType.not_derails_ofText
  have subnets (v : Json) : ¬ Fatal (Pod.subnetsOf v) := by
    unfold Pod.subnetsOf
    split
    · simp only [fatal_bind_iff, Json.not_fatal_items, not_fatal_pure, and_false, exists_false, or_self,
        not_false_eq_true]
    · exact not_fatal_ok
  unfold Pod.ofJson
  simp only [fatal_bind_iff, Json.fieldOr_object, Json.textFieldOr_object, Json.not_fatal_textField,
    Pod.not_fatal_ownerOf, type, not_fatal_ok, false_or, not_exists, not_and]
  intros
  split <;> simp only [fatal_bind_iff, Json.not_fatal_items, families, subnets, not_fatal_pure, and_false, exists_false,
    or_self, not_false_eq_true]

theorem StatefulSet.fatal_ofJson_iff : Fatal (StatefulSet.ofJson (.object fields)) ↔
    (∃ name, Json.lookup? "name" fields = some name) ∧
      ∃ negative, Json.lookup? "replicas" fields = some (.real (.infinite negative)) := by
  have given (negative : Bool) : (Json.lookup? "replicas" fields).getD (.integer 0) = .real (.infinite negative) ↔
      Json.lookup? "replicas" fields = some (.real (.infinite negative)) := by
    cases Json.lookup? "replicas" fields <;> simp
  unfold StatefulSet.ofJson
  simp only [fatal_bind_iff, Json.fieldOr_object, Json.textFieldOr_object, Json.not_fatal_textField,
    Json.fatal_toInteger_iff, Json.textField_eq_ok_iff, not_fatal_ok, not_fatal_pure, and_false, exists_false,
    false_or, or_false, Except.ok.injEq, exists_eq_left', given]
  constructor
  · rintro ⟨_, ⟨name, named, _⟩, boundless⟩
    exact ⟨⟨name, named⟩, boundless⟩
  · rintro ⟨⟨name, named⟩, boundless⟩
    exact ⟨_, ⟨name, named, rfl⟩, boundless⟩

theorem RemotePeer.fatal_ofJson_iff : Fatal (RemotePeer.ofJson (.object fields)) ↔
    ∃ annotations, Json.lookup? "annotations" fields = some annotations ∧ annotations.holds = true ∧
      ¬ annotations.IsObject := by
  have address (v : Json) : ¬ Fatal (Address.ofJson v) := mt derails_of_fatal Address.not_derails_ofJson
  unfold RemotePeer.ofJson
  simp only [fatal_bind_iff, Json.fieldOr_object, Json.textFieldOr_object, Json.fatal_fieldOr_iff,
    Json.not_fatal_textField, Json.not_fatal_field, AddressList.not_fatal_ofJson, address, not_fatal_ok,
    not_fatal_pure, and_false, exists_false, or_self, false_or, or_false, Except.ok.injEq, exists_eq_left']
  cases Json.lookup? "annotations" fields with
  | none => simp [Json.holds]
  | some annotations => cases holds : annotations.holds <;> simp [holds]

theorem RemoteSubnet.not_fatal_ofJson : ¬ Fatal (RemoteSubnet.ofJson v) := by
  have type (s : String) : ¬ Fatal (NetworkType.ofText s) := mt derails_of_fatal NetworkType.not_derails_ofText
  have block (v : Json) : ¬ Fatal (Block.ofJson v) := mt derails_of_fatal Block.not_derails_ofJson
  unfold RemoteSubnet.ofJson
  cases v with
  | object fields =>
      simp only [fatal_bind_iff, Json.textFieldOr_object, Json.textField?_object, Json.not_fatal_textField,
        Json.not_fatal_field, type, block, not_fatal_ok, not_fatal_pure, and_false, exists_false, or_self,
        not_false_eq_true]
  | _ => exact fun fatal => by cases fatal_error_iff.mp fatal

end Resources

namespace Listing
variable {kind : Kind} {v : Json} {items : List Json}

/-- The entries that cannot even be left out: where an object has to be is something else, or the number of replicas is
an infinity. The entry of a remote subnet is asked for its name first, and can always be left out. -/
inductive Blocks : Kind → Json → Prop
  | entry {kind : Kind} {v : Json} (asked : kind ≠ .remoteSubnet) (misshapen : ¬ v.IsObject) : Blocks kind v
  | replicas {fields : List (String × Json)} {name : Json} {negative : Bool}
      (named : Json.lookup? "name" fields = some name)
      (boundless : Json.lookup? "replicas" fields = some (.real (.infinite negative))) :
      Blocks .statefulSet (.object fields)
  | annotations {fields : List (String × Json)} {annotations : Json}
      (given : Json.lookup? "annotations" fields = some annotations) (holds : annotations.holds = true)
      (misshapen : ¬ annotations.IsObject) : Blocks .remotePeer (.object fields)

theorem ofJson_of_shapeless (shapeless : ¬ v.IsObject) :
    Snapshot.ofJson kind v = .error (if kind = .remoteSubnet then .unsuitable else .noFields) := by
  cases v with
  | object fields => exact absurd Json.isObject_object shapeless
  | _ => cases kind <;> rfl

theorem fatal_ofJson_iff : Fatal (Snapshot.ofJson kind v) ↔ Blocks kind v := by
  by_cases shaped : v.IsObject
  · obtain ⟨fields, rfl⟩ := shaped
    cases kind with
    | pod =>
        refine iff_of_false (mt fatal_map_iff.mp Pod.not_fatal_ofJson) ?_
        rintro ⟨_, misshapen⟩
        exact misshapen Json.isObject_object
    | statefulSet =>
        refine (fatal_map_iff.trans StatefulSet.fatal_ofJson_iff).trans ⟨?_, ?_⟩
        · rintro ⟨⟨name, named⟩, negative, boundless⟩
          exact .replicas named boundless
        · rintro (⟨_, misshapen⟩ | ⟨named, boundless⟩)
          · exact absurd Json.isObject_object misshapen
          · exact ⟨⟨_, named⟩, _, boundless⟩
    | remotePeer =>
        refine (fatal_map_iff.trans RemotePeer.fatal_ofJson_iff).trans ⟨?_, ?_⟩
        · rintro ⟨annotations, given, holds, misshapen⟩
          exact .annotations given holds misshapen
        · rintro (⟨_, misshapen⟩ | _ | ⟨given, holds, misshapen⟩)
          · exact absurd Json.isObject_object misshapen
          · exact ⟨_, given, holds, misshapen⟩
    | remoteSubnet =>
        refine iff_of_false (mt fatal_map_iff.mp RemoteSubnet.not_fatal_ofJson) ?_
        rintro ⟨asked, _⟩
        exact asked rfl
  · rw [ofJson_of_shapeless shaped, fatal_error_iff]
    by_cases asked : kind = .remoteSubnet
    · subst asked
      refine iff_of_false (by simp [Fault.spoilsEntryOnly]) ?_
      rintro ⟨asked, _⟩
      exact asked rfl
    · exact iff_of_true (by simp [asked, Fault.spoilsEntryOnly]) (.entry asked shaped)

/-- What blocks is what cannot be read, and not left out either. -/
theorem blocks_iff : Blocks kind v ↔ Fatal (read kind v) := by
  have keyed (obj : Snapshot) (described : Snapshot.ofJson kind v = .ok obj) : ¬ Fatal (Snapshot.keyOf v) := by
    by_cases shaped : v.IsObject
    · obtain ⟨fields, rfl⟩ := shaped
      unfold Snapshot.keyOf
      simp only [fatal_bind_iff, Json.textField?_object, Json.not_fatal_textField, not_fatal_ok, not_fatal_pure,
        and_false, exists_false, or_self, not_false_eq_true]
    · rw [ofJson_of_shapeless shaped] at described
      cases described
  rw [← fatal_ofJson_iff, read, fatal_bind_iff]
  refine ⟨.inl, ?_⟩
  rintro (fatal | ⟨obj, described, fatal⟩)
  · exact fatal
  · simp only [fatal_bind_iff, keyed obj described, not_fatal_pure, and_false, exists_false, or_self] at fatal

instance : Decidable (Blocks kind v) := decidable_of_iff _ blocks_iff.symm

theorem tame_iff : Tame kind v ↔ ¬ Blocks kind v := by
  simp only [blocks_iff, Fatal, Tame, not_exists, not_and, Bool.not_eq_false]

def legible (kind : Kind) (items : List Json) : List Json := items.filter fun entry => (read kind entry).isOk

theorem entries_legible : entries kind (legible kind items) = entries kind items := by
  rw [entries, entries, legible, List.filterMap_filter]
  apply List.filterMap_congr
  intro entry _
  cases read kind entry <;> rfl

theorem tame_of_legible : ∀ entry ∈ legible kind items, Tame kind entry := by
  intro entry member fault failed
  have answered := (List.mem_filter.mp member).2
  rw [failed] at answered
  cases answered

end Listing

namespace Watcher
variable {σ : Type} {dispatch : Dispatch σ} {kind : Kind} {items : List Json} {file : Option ByteArray}
variable {known : Known} {state : σ}

def lookOver (dispatch : Dispatch σ) (kind : Kind) (items : List Json) (known : Known) (state : σ) :
    Except Fault (Known × σ) :=
  (Listing.ofItems kind items).map fun desired => compare dispatch desired known state

theorem poll_eq_lookOver (lists : Listing.itemsOf file = some items) :
    poll dispatch kind file known state = lookOver dispatch kind items known state := by
  cases file with
  | none => cases lists
  | some bytes =>
      change (Document.ofBytes bytes).toOption.bind Listing.items? = some items at lists
      obtain ⟨document, spelled, listed⟩ := Option.bind_eq_some_iff.mp lists
      have spelled := toOption_eq_some_iff.mp spelled
      unfold poll pollIn lookOver Listing.ofFile
      simp only [spelled, listed]
      cases Listing.ofItems kind items <;> rfl

/-- Whether a file is passed over if it lists nothing. A numeral that is too long, values that are nested too deeply and
bytes that are no text end the look. -/
def PassedOver : Option ByteArray → Prop
  | none => True
  | some bytes => ∀ fault, Document.ofBytes bytes = .error fault → fault = .malformed

theorem poll_eq_ok_iff_of_unlisted (unlisted : Listing.itemsOf file = none) {r : Known × σ} :
    poll dispatch kind file known state = .ok r ↔ PassedOver file ∧ r = (known, state) := by
  cases file with
  | none => exact ok_eq_ok_iff.trans (and_iff_right trivial).symm
  | some bytes =>
      change (Document.ofBytes bytes).toOption.bind Listing.items? = none at unlisted
      unfold poll pollIn Listing.ofFile PassedOver
      dsimp only
      cases read : Document.ofBytes bytes with
      | ok document =>
          rw [read] at unlisted
          have nothing : Listing.items? document = none := unlisted
          simp only [nothing]
          exact ok_eq_ok_iff.trans (and_iff_right fun _ failed => by cases failed).symm
      | error fault =>
          cases fault with
          | malformed =>
              refine ok_eq_ok_iff.trans (and_iff_right fun _ failed => ?_).symm
              cases failed
              rfl
          | _ =>
              refine iff_of_false (fun polled => by cases polled) fun ⟨passed, _⟩ => ?_
              cases passed _ rfl

/-- A file with a list of items is looked at just if none of them blocks the others. The look then changes what a look
at the entries that can be read changes, and so does one at a file with no other entries. Where nothing is listed
nothing is changed. -/
theorem polled_unless_blocked (dispatch : Dispatch σ) (kind : Kind) (file : Option ByteArray) (known : Known)
    (state : σ) :
    (∀ items, Listing.itemsOf file = some items →
      ((∃ r, poll (recorded dispatch) kind file known (state, []) = .ok r) ↔
        ∀ entry ∈ items, ¬ Listing.Blocks kind entry) ∧
      (∀ r, poll (recorded dispatch) kind file known (state, []) = .ok r →
        lookOver (recorded dispatch) kind (Listing.legible kind items) known (state, []) = .ok r) ∧
      ∀ file', Listing.itemsOf file' = some (Listing.legible kind items) →
        poll (recorded dispatch) kind file' known (state, []) =
          lookOver (recorded dispatch) kind (Listing.legible kind items) known (state, [])) ∧
    (Listing.itemsOf file = none → ∀ r,
      poll (recorded dispatch) kind file known (state, []) = .ok r ↔ PassedOver file ∧ r = (known, state, [])) := by
  have read {items : List Json} {desired : Known} : Listing.ofItems kind items = .ok desired ↔
      (∀ entry ∈ items, Listing.Tame kind entry) ∧ desired = .ofEntries (Listing.entries kind items) :=
    Listing.addAll_eq_ok_iff
  refine ⟨fun items lists => ⟨?_, fun r polled => ?_, fun file' lists' => poll_eq_lookOver lists'⟩,
    fun unlisted r => poll_eq_ok_iff_of_unlisted unlisted⟩
  · rw [poll_eq_lookOver lists]
    constructor
    · rintro ⟨_, looked⟩ entry member
      obtain ⟨desired, listed, _⟩ := ok_of_map looked
      exact Listing.tame_iff.mp ((read.mp listed).1 entry member)
    · intro free
      have tame : ∀ entry ∈ items, Listing.Tame kind entry := fun entry member =>
        Listing.tame_iff.mpr (free entry member)
      rw [lookOver, read.mpr ⟨tame, rfl⟩]
      exact ⟨_, rfl⟩
  · rw [poll_eq_lookOver lists] at polled
    obtain ⟨desired, listed, rfl⟩ := ok_of_map polled
    -- Both come to the same objects, since what cannot be read is in neither.
    obtain ⟨_, rfl⟩ := read.mp listed
    rw [lookOver, read.mpr ⟨Listing.tame_of_legible, rfl⟩, Listing.entries_legible]
    rfl

section Sample

def listing (items : List Json) : Option ByteArray := some (Json.object [("items", .list items)]).write.toUTF8

theorem itemsOf_listing (legible : Json.Legible Json.nestingLimit (.object [("items", .list items)])) :
    Listing.itemsOf (listing items) = some items := by
  change (Document.ofBytes _).toOption.bind Listing.items? = _
  rw [Document.ofBytes_write legible]
  rfl

def webPodItem : Json := .object [("name", .text "web"), ("uid", .text "u1"), ("nodeName", .text "node-1")]

/-- An entry that says nothing, one with an owner that is no object, and the one of a pod. -/
def mixedPods : List Json := [
  .object [],
  .object [("name", .text "db"), ("uid", .text "u2"), ("owner", .integer 5)],
  webPodItem]

theorem mixed_polled :
    Listing.itemsOf (listing mixedPods) = some mixedPods ∧
      (∀ entry ∈ mixedPods, ¬ Listing.Blocks .pod entry) ∧
      ∃ r, poll (recorded willing) .pod (listing mixedPods) [] ((), []) = .ok r ∧
        lookOver (recorded willing) .pod (Listing.legible .pod mixedPods) [] ((), []) = .ok r ∧
        r.2.2 = [(.created podListed, true)] := by
  have lists : Listing.itemsOf (listing mixedPods) = some mixedPods := itemsOf_listing (by decide +kernel)
  have free : ∀ entry ∈ mixedPods, ¬ Listing.Blocks .pod entry := by decide +kernel
  have listed : Listing.ofItems .pod (Listing.legible .pod mixedPods) = .ok [("web", podListed)] := by
    decide +kernel
  obtain ⟨polls, same, _⟩ := (polled_unless_blocked willing .pod (listing mixedPods) [] ()).1 mixedPods lists
  obtain ⟨r, polled⟩ := polls.mpr free
  have looked := same r polled
  refine ⟨lists, free, r, polled, looked, ?_⟩
  rw [lookOver, listed] at looked
  cases looked
  decide

/-- A pod that can be read is not delivered beside an entry that is no object. -/
theorem undelivered_beside_null :
    poll (recorded willing) .pod (listing [.null, webPodItem]) [] ((), []) = .error .noFields ∧
      lookOver (recorded willing) .pod (Listing.legible .pod [.null, webPodItem]) [] ((), []) =
        .ok ([("web", podListed)], (), [(.created podListed, true)]) := by
  have lists : Listing.itemsOf (listing [.null, webPodItem]) = some [.null, webPodItem] :=
    itemsOf_listing (by decide +kernel)
  have failed : Listing.ofItems .pod [.null, webPodItem] = .error .noFields := by decide +kernel
  have listed : Listing.ofItems .pod (Listing.legible .pod [.null, webPodItem]) = .ok [("web", podListed)] := by
    decide +kernel
  rw [poll_eq_lookOver lists, lookOver, failed, lookOver, listed]
  exact ⟨rfl, congrArg Except.ok (by decide)⟩

end Sample

end Watcher
end PodAddressing
