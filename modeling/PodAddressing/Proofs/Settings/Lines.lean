import PodAddressing.Proofs.Json.Field
import PodAddressing.Proofs.Text.Pieces
import PodAddressing.Settings
/-!
Lines that stand for networks. A line is documented as a name and a type, or as a name, a type and families, between
colons. All documented lines are read as what they say. Of the others those alone are read that go on after the
families, and what they go on with is passed over; all the rest are refused.
-/

namespace PodAddressing
open Text (SameButCase)

section Names
variable {s : String}

theorem NetworkType.ofText_eq_ok_iff {t : NetworkType} : ofText s = .ok t ↔ SameButCase s t.name := by
  have basic (t : NetworkType) : ∀ d ∈ (Text.lower t.name).toList, d.toNat < 128 ∧ d ≠ 'k' := by
    have all : ((Text.lower t.name).toList.all fun d => d.toNat < 128 && d ≠ 'k') = true := by
      cases t <;> decide +kernel
    simpa using all
  have distinct : ∀ t u : NetworkType, Text.lower t.name = Text.lower u.name → t = u := by
    intro t u
    cases t <;> cases u <;> decide +kernel
  have found : named? s = some t ↔ SameButCase s t.name :=
    Text.find?_named_eq_some_iff (fun t => by cases t <;> decide) distinct basic
  rw [← found, ofText]
  cases named? s <;> simp

theorem Family.ofText_eq_ok_iff {f : Family} : ofText s = .ok f ↔ SameButCase s f.name := by
  have basic (f : Family) : ∀ d ∈ (Text.lower f.name).toList, d.toNat < 128 ∧ d ≠ 'k' := by
    have all : ((Text.lower f.name).toList.all fun d => d.toNat < 128 && d ≠ 'k') = true := by
      cases f <;> decide +kernel
    simpa using all
  have distinct : ∀ f g : Family, Text.lower f.name = Text.lower g.name → f = g := by
    intro f g
    cases f <;> cases g <;> decide +kernel
  have found : named? s = some f ↔ SameButCase s f.name :=
    Text.find?_named_eq_some_iff (fun f => by cases f <;> decide) distinct basic
  rw [← found, ofText]
  cases named? s <;> simp

theorem NetworkType.mark_free {t : NetworkType} (named : SameButCase s t.name) : ':' ∉ s.toList :=
  Text.mark_free_of_sameButCase rfl named (by cases t <;> decide)

theorem Family.mark_free {f : Family} (named : SameButCase s f.name) {mark : Char} (listed : mark ∈ [':', '+']) :
    mark ∉ s.toList := by
  simp only [List.mem_cons, List.not_mem_nil, or_false] at listed
  rcases listed with rfl | rfl
  · exact Text.mark_free_of_sameButCase rfl named (by cases f <;> decide)
  · exact Text.mark_free_of_sameButCase rfl named (by cases f <;> decide)

end Names

namespace Specs
variable {spec given : String} {families : List Family} {n m : Network}

section Documentation

/-- A text stands for families: nothing for IPv4 alone, or their names with plus signs between them. -/
inductive SpellsFamilies : String → List Family → Prop
  | default : SpellsFamilies "" [.v4]
  | listed {names : List String} {families : List Family} (some_name : names ≠ [])
      (named : List.Forall₂ (fun name f => SameButCase name f.name) names families) :
      SpellsFamilies (String.intercalate "+" names) families

/-- The documented lines, and the network that each of them stands for. -/
inductive Documented : String → Network → Prop
  | brief {name type : String} {t : NetworkType} (free : ':' ∉ name.toList) (typed : SameButCase type t.name) :
      Documented (name ++ ":" ++ type) ⟨name, t, [.v4]⟩
  | full {name type given : String} {t : NetworkType} {families : List Family} (free : ':' ∉ name.toList)
      (typed : SameButCase type t.name) (listed : SpellsFamilies given families) :
      Documented (name ++ ":" ++ type ++ ":" ++ given) ⟨name, t, families⟩

/-- A line goes on after the families of a network. -/
inductive Trails : String → Network → Prop
  | more {name type given : String} {t : NetworkType} {families : List Family} (free : ':' ∉ name.toList)
      (typed : SameButCase type t.name) (listed : SpellsFamilies given families) (rest : String) :
      Trails (name ++ ":" ++ type ++ ":" ++ given ++ ":" ++ rest) ⟨name, t, families⟩

end Documentation

section Families

def familiesIn : List String → Except Fault (List Family)
  | [] => .ok [.v4]
  | given :: _ => if given = "" then .ok [.v4] else (Text.pieces '+' given).mapM Family.ofText

theorem mapM_ofText_eq_ok_iff {names : List String} :
    names.mapM Family.ofText = .ok families ↔ List.Forall₂ (fun name f => SameButCase name f.name) names families := by
  simp only [mapM_eq_ok_iff_forall₂, Family.ofText_eq_ok_iff]

theorem mark_free_of_named {names : List String}
    (named : List.Forall₂ (fun name f => SameButCase name (Family.name f)) names families) {mark : Char}
    (listed : mark ∈ [':', '+']) : ∀ name ∈ names, mark ∉ name.toList := by
  induction named with
  | nil => exact List.forall_mem_nil _
  | cons first _ ih => exact List.forall_mem_cons.mpr ⟨Family.mark_free first listed, ih⟩

theorem pieces_of_named {names : List String} (some_name : names ≠ [])
    (named : List.Forall₂ (fun name f => SameButCase name (Family.name f)) names families) :
    Text.pieces '+' (String.intercalate "+" names) = names :=
  (Text.pieces_eq_iff '+').mpr ⟨some_name, mark_free_of_named named (by simp), rfl⟩

theorem familiesIn_eq_ok_iff {rest : List String} :
    familiesIn (given :: rest) = .ok families ↔ SpellsFamilies given families := by
  rw [familiesIn]
  constructor
  · intro read
    split at read
    case isTrue nothing =>
      cases read
      rw [nothing]
      exact .default
    case isFalse =>
      obtain ⟨some_name, _, whole⟩ := (Text.pieces_eq_iff '+').mp (rfl : Text.pieces '+' given = _)
      rw [whole]
      exact .listed some_name (mapM_ofText_eq_ok_iff.mp read)
  · intro spells
    cases spells with
    | default => rfl
    | listed some_name named =>
        have parts := pieces_of_named some_name named
        split
        case isTrue nothing =>
          rw [nothing] at parts
          have bare : Text.pieces '+' "" = [""] := by decide
          rw [← parts, bare] at named
          obtain ⟨f, _, unnamed, _⟩ := List.forall₂_cons_left_iff.mp named
          exact absurd unnamed (by cases f <;> decide)
        case isFalse =>
          rw [parts]
          exact mapM_ofText_eq_ok_iff.mpr named

theorem SpellsFamilies.mark_free (spells : SpellsFamilies given families) : ':' ∉ given.toList := by
  cases spells with
  | default => simp
  | listed some_name named =>
      exact Text.mark_free_join ':' '+' (by decide) (mark_free_of_named named (by simp))

end Families

section Reading

theorem network_of_pieces {name type : String} {rest : List String}
    (parts : Text.pieces ':' spec = name :: type :: rest) : network spec = (do
      let families ← familiesIn rest
      let type ← NetworkType.ofText type
      pure ⟨name, type, families⟩) := by
  rw [network, parts]
  dsimp only
  split
  case h_1 => rfl
  case h_2 => rfl
  case h_3 some_text => rw [familiesIn, if_neg some_text]

theorem network_of_undivided (undivided : ∀ name type rest, Text.pieces ':' spec ≠ name :: type :: rest) :
    network spec = .error (.bad (.networkSpec spec)) := by
  rw [network]
  split
  case h_1 name type rest parts => exact absurd parts (undivided name type rest)
  case h_2 => rfl

theorem network_eq_ok_iff_pieces : network spec = .ok n ↔ ∃ type rest, Text.pieces ':' spec = n.name :: type :: rest ∧
    SameButCase type n.type.name ∧ familiesIn rest = .ok n.families := by
  constructor
  · intro read
    by_cases divided : ∃ name type rest, Text.pieces ':' spec = name :: type :: rest
    · obtain ⟨name, type, rest, parts⟩ := divided
      rw [network_of_pieces parts] at read
      obtain ⟨families, listed, read⟩ := ok_of_bind read
      obtain ⟨t, typed, read⟩ := ok_of_bind read
      cases read
      exact ⟨type, rest, parts, NetworkType.ofText_eq_ok_iff.mp typed, listed⟩
    · simp only [not_exists] at divided
      rw [network_of_undivided divided] at read
      cases read
  · rintro ⟨type, rest, parts, typed, listed⟩
    rw [network_of_pieces parts, listed, NetworkType.ofText_eq_ok_iff.mpr typed]
    rfl

theorem not_derails_network : ¬ Derails (network spec) := by
  by_cases divided : ∃ name type rest, Text.pieces ':' spec = name :: type :: rest
  · obtain ⟨name, type, rest, parts⟩ := divided
    have families : ¬ Derails (familiesIn rest) := by
      cases rest with
      | nil => exact not_derails_ok
      | cons given rest =>
          rw [familiesIn]
          split
          · exact not_derails_ok
          · exact Family.not_derails_ofTexts _
    rw [network_of_pieces parts]
    simp only [derails_bind_iff, families, NetworkType.not_derails_ofText, not_derails_pure, and_false, exists_false,
      or_self, not_false_eq_true]
  · simp only [not_exists] at divided
    rw [network_of_undivided divided, derails_error_iff]
    exact Bool.noConfusion

end Reading

section Forms

theorem pieces_brief {name type : String} {t : NetworkType} (free : ':' ∉ name.toList)
    (typed : SameButCase type t.name) : Text.pieces ':' (name ++ ":" ++ type) = [name, type] := by
  rw [Text.pieces_append_colon, Text.pieces_of_free ':' free, Text.pieces_of_free ':' (NetworkType.mark_free typed)]
  rfl

theorem pieces_full {name type given : String} {t : NetworkType} {families : List Family} (free : ':' ∉ name.toList)
    (typed : SameButCase type t.name) (listed : SpellsFamilies given families) :
    Text.pieces ':' (name ++ ":" ++ type ++ ":" ++ given) = [name, type, given] := by
  rw [Text.pieces_append_colon, pieces_brief free typed, Text.pieces_of_free ':' listed.mark_free]
  rfl

theorem network_of_documented (documented : Documented spec n) : network spec = .ok n := by
  apply network_eq_ok_iff_pieces.mpr
  cases documented with
  | brief free typed => exact ⟨_, [], pieces_brief free typed, typed, rfl⟩
  | full free typed listed => exact ⟨_, _, pieces_full free typed listed, typed, familiesIn_eq_ok_iff.mpr listed⟩

theorem network_of_trails (trails : Trails spec n) : network spec = .ok n := by
  apply network_eq_ok_iff_pieces.mpr
  cases trails with
  | more free typed listed rest =>
      refine ⟨_, _ :: Text.pieces ':' rest, ?_, typed, familiesIn_eq_ok_iff.mpr listed⟩
      rw [Text.pieces_append_colon, pieces_full free typed listed]
      rfl

/-- The lines that are read are the documented ones and those that go on after the families. -/
theorem network_eq_ok_iff : network spec = .ok n ↔ Documented spec n ∨ Trails spec n := by
  refine ⟨fun read => ?_, fun either => either.elim network_of_documented network_of_trails⟩
  obtain ⟨type, rest, parts, typed, listed⟩ := network_eq_ok_iff_pieces.mp read
  obtain ⟨_, undivided, whole⟩ := (Text.pieces_eq_iff ':').mp parts
  have free := undivided n.name List.mem_cons_self
  obtain ⟨name, t, families⟩ := n
  cases rest with
  | nil =>
      cases listed
      have line : spec = name ++ ":" ++ type := by
        rw [whole, String.intercalate_cons_cons, String.intercalate_singleton]
        rfl
      exact .inl (line ▸ .brief free typed)
  | cons given rest =>
      have spells := familiesIn_eq_ok_iff.mp listed
      cases rest with
      | nil =>
          have line : spec = name ++ ":" ++ type ++ ":" ++ given := by
            rw [whole, String.intercalate_cons_cons, String.intercalate_cons_cons, String.intercalate_singleton,
              ← String.append_assoc, ← String.append_assoc]
            rfl
          exact .inl (line ▸ .full free typed spells)
      | cons more rest =>
          have line : spec = name ++ ":" ++ type ++ ":" ++ given ++ ":" ++ String.intercalate ":" (more :: rest) := by
            rw [whole, String.intercalate_cons_cons, String.intercalate_cons_cons, String.intercalate_cons_cons]
            simp only [← String.append_assoc]
            rfl
          exact .inr (line ▸ .more free typed spells _)

theorem Documented.not_trails (documented : Documented spec n) : ¬ Trails spec m := by
  have few : (Text.pieces ':' spec).length ≤ 3 := by
    cases documented with
    | brief free typed => simp [pieces_brief free typed]
    | full free typed listed => simp [pieces_full free typed listed]
  intro trails
  cases trails with
  | more free typed listed rest =>
      rw [Text.pieces_append_colon, pieces_full free typed listed] at few
      have some_piece : Text.pieces ':' rest ≠ [] := ((Text.pieces_eq_iff ':').mp rfl).1
      have positive := List.length_pos_iff.mpr some_piece
      simp only [List.length_append, List.length_cons, List.length_nil] at few
      omega

end Forms

section Lists
variable {specs : List String} {networks : List Network}

/-- Lines give networks just if each is documented as one, and are refused as a bad value otherwise. -/
structure ReadAsDocumented (specs : List String) : Prop where
  accepted : ∀ networks, Specs.networks specs = .ok networks ↔ List.Forall₂ Documented specs networks
  refused : (∀ networks, ¬ List.Forall₂ Documented specs networks) →
    ∃ value, Specs.networks specs = .error (.bad value)

theorem networks_eq_ok_iff : Specs.networks specs = .ok networks ↔
    List.Forall₂ (fun spec n => Documented spec n ∨ Trails spec n) specs networks := by
  simp only [Specs.networks, mapM_eq_ok_iff_forall₂, network_eq_ok_iff]

theorem bad_of_unread (unread : ∀ networks, Specs.networks specs ≠ .ok networks) :
    ∃ value, Specs.networks specs = .error (.bad value) := by
  have bad : ¬ Derails (Specs.networks specs) := not_fails_mapM fun _ _ => not_derails_network
  exact (not_derails_iff.mp bad).resolve_left fun ⟨networks, read⟩ => unread networks read

/-- Lines are documented just if they are read and none of them goes on. -/
theorem forall₂_documented_iff : List.Forall₂ Documented specs networks ↔
    (∀ spec ∈ specs, ∀ n, ¬ Trails spec n) ∧ Specs.networks specs = .ok networks := by
  rw [networks_eq_ok_iff, ← List.forall₂_and_left]
  exact ⟨List.Forall₂.imp fun _ _ documented => ⟨fun _ => documented.not_trails, .inl documented⟩,
    List.Forall₂.imp fun _ n ⟨untrailed, either⟩ => either.resolve_right (untrailed n)⟩

theorem exists_networks_iff : (∃ networks, Specs.networks specs = .ok networks) ↔
    ∀ spec ∈ specs, ∃ n, Documented spec n ∨ Trails spec n := by
  simp only [Specs.networks, exists_mapM_eq_ok_iff, ← network_eq_ok_iff]
  refine forall₂_congr fun spec _ => ?_
  cases network spec <;> simp [Except.isOk, Except.toBool]

/-- All lists of lines are read as documented, but for those that could all be read and of which one goes on after its
families. -/
theorem read_as_documented_iff (specs : List String) :
    (ReadAsDocumented specs ↔ ((∀ spec ∈ specs, ∃ n, Documented spec n ∨ Trails spec n) →
      ∀ spec ∈ specs, ∀ n, ¬ Trails spec n)) ∧
    (∀ networks, Specs.networks specs = .ok networks ↔
      List.Forall₂ (fun spec n => Documented spec n ∨ Trails spec n) specs networks) ∧
    ((∀ networks, Specs.networks specs ≠ .ok networks) → ∃ value, Specs.networks specs = .error (.bad value)) := by
  refine ⟨?_, fun _ => networks_eq_ok_iff, bad_of_unread⟩
  rw [← exists_networks_iff]
  constructor
  · rintro ⟨accepted, _⟩ ⟨networks, read⟩
    exact (forall₂_documented_iff.mp ((accepted networks).mp read)).1
  · intro untrailed
    have accepted (networks : List Network) :
        Specs.networks specs = .ok networks ↔ List.Forall₂ Documented specs networks := by
      rw [forall₂_documented_iff]
      exact ⟨fun read => ⟨untrailed ⟨networks, read⟩, read⟩, And.right⟩
    exact ⟨accepted, fun undocumented =>
      bad_of_unread fun networks read => undocumented networks ((accepted networks).mp read)⟩

/-- A family behind the wrong mark is passed over. -/
theorem misplaced_family_dropped :
    Specs.networks ["pods:Underlay:IPv4:IPv6"] = .ok [⟨"pods", .underlay, [.v4]⟩] ∧
      ¬ ReadAsDocumented ["pods:Underlay:IPv4:IPv6"] := by
  have read : Specs.networks ["pods:Underlay:IPv4:IPv6"] = .ok [⟨"pods", .underlay, [.v4]⟩] := by decide +kernel
  have listed : SpellsFamilies "IPv4" [.v4] := .listed (List.cons_ne_nil "IPv4" []) (.cons rfl .nil)
  have free : ':' ∉ "pods".toList := by decide
  have typed : SameButCase "Underlay" NetworkType.underlay.name := rfl
  have trails : Trails "pods:Underlay:IPv4:IPv6" ⟨"pods", .underlay, [.v4]⟩ := .more free typed listed "IPv6"
  refine ⟨read, fun documented => ?_⟩
  have whole := forall₂_documented_iff.mp ((documented.accepted _).mp read)
  exact whole.1 _ List.mem_cons_self _ trails

end Lists
end Specs
end PodAddressing
