import Mathlib.Data.List.Basic
import Mathlib.Data.List.TakeWhile
import PodAddressing.Text.Basic
import PodAddressing.Text.Lower
/-!
Cutting a text and joining its pieces again. Pieces that are free of the mark come back as they were joined.
-/

namespace PodAddressing.Text
variable (mark : Char)

theorem cut_eq_splitOn (cs : List Char) : cut mark cs = cs.splitOn mark := by
  induction cs with
  | nil => rfl
  | cons c rest ih =>
      rw [cut, List.splitOn_cons_eq_if_modifyHead, ih]
      by_cases hit : c = mark
      · simp [hit]
      · obtain ⟨piece, pieces, parts⟩ := List.exists_cons_of_ne_nil (List.splitOn_ne_nil mark rest)
        simp [hit, parts]

theorem cut_of_free {cs : List Char} (free : mark ∉ cs) : cut mark cs = [cs] := by
  rw [cut_eq_splitOn]
  exact List.splitOn_eq_singleton free

theorem cut_append_mark (before after : List Char) :
    cut mark (before ++ mark :: after) = cut mark before ++ cut mark after := by
  simp only [cut_eq_splitOn]
  exact List.splitOn_append_cons_self before after

theorem cut_join {pieces : List (List Char)} (free : ∀ piece ∈ pieces, mark ∉ piece)
    (some_piece : pieces ≠ []) : cut mark (List.intercalate [mark] pieces) = pieces := by
  rw [cut_eq_splitOn]
  exact List.splitOn_intercalate mark free some_piece

theorem cut_map_mark {other : Char} {f : Char → Char} {cs : List Char} (replaced : f mark = other)
    (kept : ∀ c ∈ cs, c = mark ∨ f c = c ∧ c ≠ other) : cut other (cs.map f) = cut mark cs := by
  induction cs with
  | nil => rfl
  | cons c rest ih =>
      obtain ⟨first, others⟩ := List.forall_mem_cons.mp kept
      rw [List.map_cons, cut, cut, ih others]
      by_cases hit : c = mark
      · rw [if_pos hit, if_pos (hit ▸ replaced)]
      · obtain ⟨same, apart⟩ := first.resolve_left hit
        rw [same, if_neg apart, if_neg hit]

theorem mark_free_of_mem_cut {cs piece : List Char} (member : piece ∈ cut mark cs) : mark ∉ piece := by
  induction cs generalizing piece with
  | nil =>
      rw [cut, List.mem_singleton] at member
      simp [member]
  | cons c rest ih =>
      rw [cut] at member
      split at member
      case isTrue =>
        rcases List.mem_cons.mp member with rfl | later
        · exact List.not_mem_nil
        · exact ih later
      case isFalse other =>
        split at member
        case h_1 =>
          rw [List.mem_singleton.mp member, List.mem_singleton]
          exact Ne.symm other
        case h_2 first others parts =>
          rw [parts] at ih
          rcases List.mem_cons.mp member with rfl | later
          · exact List.not_mem_cons_of_ne_of_not_mem (Ne.symm other) (ih List.mem_cons_self)
          · exact ih (List.mem_cons_of_mem _ later)

theorem join_cut (cs : List Char) : List.intercalate [mark] (cut mark cs) = cs := by
  rw [cut_eq_splitOn]
  exact List.intercalate_splitOn mark

theorem pieces_join {items : List String} (free : ∀ item ∈ items, mark ∉ item.toList) (some_item : items ≠ []) :
    pieces mark (String.intercalate (String.singleton mark) items) = items := by
  have whole := cut_join mark (List.forall_mem_map.mpr free) (mt List.map_eq_nil_iff.mp some_item)
  rw [pieces, String.toList_intercalate, String.toList_singleton, whole, List.map_map]
  exact (List.map_congr_left fun item _ => String.ofList_toList).trans (List.map_id items)

/-- The pieces of a text are the texts without the mark that it joins. -/
theorem pieces_eq_iff {s : String} {items : List String} : pieces mark s = items ↔
    items ≠ [] ∧ (∀ item ∈ items, mark ∉ item.toList) ∧ s = String.intercalate (String.singleton mark) items := by
  constructor
  · rintro rfl
    refine ⟨?_, ?_, ?_⟩
    · rw [pieces, cut_eq_splitOn]
      exact mt List.map_eq_nil_iff.mp (List.splitOn_ne_nil mark _)
    · intro item listed
      obtain ⟨piece, member, rfl⟩ := List.mem_map.mp listed
      rw [String.toList_ofList]
      exact mark_free_of_mem_cut mark member
    · have same : (pieces mark s).map String.toList = cut mark s.toList := by
        rw [pieces, List.map_map]
        exact (List.map_congr_left fun piece _ => String.toList_ofList).trans (List.map_id _)
      rw [← String.toList_inj, String.toList_intercalate, String.toList_singleton, same, join_cut]
  · rintro ⟨some_item, free, rfl⟩
    exact pieces_join mark free some_item

theorem pieces_of_free {s : String} (free : mark ∉ s.toList) : pieces mark s = [s] := by
  rw [pieces, cut_of_free mark free, List.map_singleton, String.ofList_toList]

theorem pieces_append_mark (s t : String) :
    pieces mark (s ++ String.singleton mark ++ t) = pieces mark s ++ pieces mark t := by
  have parts : (s ++ String.singleton mark ++ t).toList = s.toList ++ mark :: t.toList := by
    simp only [String.toList_append, String.toList_singleton, List.append_assoc, List.singleton_append]
  rw [pieces, parts, cut_append_mark, List.map_append]
  rfl

theorem pieces_append_colon (s t : String) : pieces ':' (s ++ ":" ++ t) = pieces ':' s ++ pieces ':' t :=
  pieces_append_mark ':' s t

theorem cutFirst_of_free {cs : List Char} (free : mark ∉ cs) : cutFirst mark cs = (cs, none) := by
  induction cs with
  | nil => rfl
  | cons c rest ih =>
      simp only [List.mem_cons, not_or] at free
      simp [cutFirst, Ne.symm free.1, ih free.2]

theorem cutFirst_append_mark {before : List Char} (free : mark ∉ before) (after : List Char) :
    cutFirst mark (before ++ mark :: after) = (before, some after) := by
  induction before with
  | nil => simp [cutFirst]
  | cons c rest ih =>
      simp only [List.mem_cons, not_or] at free
      simp [cutFirst, Ne.symm free.1, ih free.2]

theorem eq_of_cutFirst {cs before after : List Char} (divided : cutFirst mark cs = (before, some after)) :
    cs = before ++ mark :: after := by
  induction cs generalizing before with
  | nil => simp [cutFirst] at divided
  | cons c rest ih =>
      unfold cutFirst at divided
      split at divided
      case isTrue hit =>
        cases divided
        rw [hit, List.nil_append]
      case isFalse =>
        obtain ⟨first, others⟩ := Prod.mk.inj divided
        rw [← first, List.cons_append, ← ih (Prod.ext rfl others)]

theorem afterLast?_eq_none_iff {cs : List Char} : afterLast? mark cs = none ↔ mark ∉ cs := by
  induction cs with
  | nil => simp [afterLast?]
  | cons c rest ih =>
      rw [List.mem_cons, not_or, ← ih, afterLast?]
      cases afterLast? mark rest with
      | some suffix => simp
      | none => simp [eq_comm]

theorem afterLast?_eq_some_iff {cs suffix : List Char} :
    afterLast? mark cs = some suffix ↔ mark ∉ suffix ∧ ∃ before, cs = before ++ mark :: suffix := by
  induction cs with
  | nil => simp [afterLast?]
  | cons c rest ih =>
      rw [afterLast?]
      cases later : afterLast? mark rest with
      | some found =>
          rw [later] at ih
          rw [ih]
          refine and_congr_right fun free => ⟨?_, ?_⟩
          · rintro ⟨before, rfl⟩
            exact ⟨c :: before, rfl⟩
          · rintro ⟨before, same⟩
            cases before with
            | cons _ before => exact ⟨before, (List.cons.inj same).2⟩
            | nil =>
                -- The rest has a mark, so it does not follow the last one.
                have whole : rest = suffix := (List.cons.inj same).2
                rw [whole, (afterLast?_eq_none_iff mark).mpr free] at later
                cases later
      | none =>
          have free := (afterLast?_eq_none_iff mark).mp later
          dsimp only
          constructor
          · intro here
            split at here
            case isTrue hit =>
              cases here
              exact ⟨free, [], by rw [hit, List.nil_append]⟩
            case isFalse => cases here
          · rintro ⟨_, before, same⟩
            cases before with
            | nil =>
                obtain ⟨hit, whole⟩ := List.cons.inj same
                rw [if_pos hit, whole]
            | cons _ before =>
                have member : mark ∈ rest := by
                  rw [(List.cons.inj same).2]
                  exact List.mem_append_right _ List.mem_cons_self
                exact absurd member free

theorem join_concat {sep last : List Char} {pieces : List (List Char)} (some_piece : pieces ≠ []) :
    List.intercalate sep (pieces ++ [last]) = List.intercalate sep pieces ++ sep ++ last := by
  induction pieces with
  | nil => exact absurd rfl some_piece
  | cons piece rest ih =>
      cases rest with
      | nil => simp [List.intercalate_cons_cons]
      | cons next rest =>
          have others := ih (List.cons_ne_nil next rest)
          rw [List.cons_append, List.cons_append, List.intercalate_cons_cons, ← List.cons_append, others,
            List.intercalate_cons_cons]
          simp only [List.append_assoc]

theorem mem_join {sep c : Char} {pieces : List (List Char)}
    (member : c ∈ List.intercalate [sep] pieces) : c = sep ∨ ∃ piece ∈ pieces, c ∈ piece := by
  induction pieces with
  | nil => simp at member
  | cons piece rest ih =>
      match rest with
      | [] => exact .inr ⟨piece, by simp, by simpa using member⟩
      | next :: rest =>
          rw [List.intercalate_cons_cons, List.append_assoc, List.mem_append] at member
          rcases member with here | there
          · exact .inr ⟨piece, by simp, here⟩
          · rcases List.mem_cons.mp there with same | later
            · exact .inl same
            · rcases ih later with same | ⟨found, inside, holds⟩
              · exact .inl same
              · exact .inr ⟨found, List.mem_cons_of_mem _ inside, holds⟩

theorem mark_free_join (sep : Char) {items : List String} (apart : mark ≠ sep)
    (free : ∀ item ∈ items, mark ∉ item.toList) : mark ∉ (String.intercalate (String.singleton sep) items).toList := by
  intro member
  rw [String.toList_intercalate, String.toList_singleton] at member
  rcases mem_join member with same | ⟨_, listed, inside⟩
  · exact apart same
  · obtain ⟨item, given, rfl⟩ := List.mem_map.mp listed
    exact free item given inside

/-!
Trimmed and lower-case forms. A text that neither begins nor ends with a blank is trimmed already, and the case of the
basic letters is lost with the case of all others.
-/

section Trimming
variable {cs : List Char} {c : Char}

theorem trim_eq_self (first : ∀ c ∈ cs.head?, isBlank c = false) (last : ∀ c ∈ cs.getLast?, isBlank c = false) :
    trim cs = cs := by
  have kept {ds : List Char} (edge : ∀ c ∈ ds.head?, isBlank c = false) : ds.dropWhile isBlank = ds := by
    cases ds with
    | nil => rfl
    | cons d rest =>
        rw [List.dropWhile_cons_of_neg]
        simp [edge d rfl]
  have edge : ∀ c ∈ cs.reverse.head?, isBlank c = false := by
    rw [List.head?_reverse]
    exact last
  rw [trim, kept first, kept edge, List.reverse_reverse]

theorem getLast?_append_mark {mark : Char} {before after : List Char} (some_char : after ≠ []) :
    (before ++ mark :: after).getLast? = after.getLast? := by
  rw [List.getLast?_append_of_ne_nil _ (List.cons_ne_nil _ _), ← List.singleton_append,
    List.getLast?_append_of_ne_nil _ some_char]

theorem isBlank_of_getLast?_trim (last : c ∈ (trim cs).getLast?) : isBlank c = false := by
  rw [trim, List.getLast?_reverse] at last
  have stopped := List.head?_dropWhile_not isBlank (cs.dropWhile isBlank).reverse
  rw [last] at stopped
  simpa using stopped

end Trimming

section Case
variable {c : Char}

theorem toLower_cases (c : Char) : c.toLower = c ∨ ∃ k < 26, c = Char.ofNat (65 + k) := by
  unfold Char.toLower
  split
  case isTrue capital =>
    have within : 65 ≤ c.toNat ∧ c.toNat ≤ 90 := by
      simpa [UInt32.le_iff_toNat_le] using capital
    refine .inr ⟨c.toNat - 65, by omega, ?_⟩
    rw [Nat.add_sub_cancel' within.1, Char.ofNat_toNat]
  case isFalse => exact .inl rfl

/-- A function that does not tell the basic capitals from their small letters does not look at the case of these. -/
theorem toLower_invariant {α : Type} {f : Char → α}
    (capitals : ∀ k < 26, f (Char.ofNat (65 + k)).toLower = f (Char.ofNat (65 + k))) (c : Char) :
    f c.toLower = f c := by
  rcases toLower_cases c with same | ⟨k, small, rfl⟩
  · rw [same]
  · exact capitals k small

theorem lowerChar_toLower : ∀ c : Char, lowerChar c.toLower = lowerChar c :=
  toLower_invariant (by decide +kernel)

theorem isCased_toLower : ∀ c : Char, isCased c.toLower = isCased c :=
  toLower_invariant (by decide +kernel)

theorem isPassedOver_toLower : ∀ c : Char, isPassedOver c.toLower = isPassedOver c :=
  toLower_invariant (by decide +kernel)

theorem meetsCased_toLower (cs : List Char) : meetsCased (cs.map Char.toLower) = meetsCased cs := by
  have passed : isPassedOver ∘ Char.toLower = isPassedOver := funext isPassedOver_toLower
  unfold meetsCased
  rw [List.dropWhile_map, passed]
  cases cs.dropWhile isPassedOver with
  | nil => rfl
  | cons c rest => exact isCased_toLower c

/-- The case of the basic letters counts neither for a letter itself nor for those around it. -/
theorem lowerAfter_toLower (before cs : List Char) :
    lowerAfter (before.map Char.toLower) (cs.map Char.toLower) = lowerAfter before cs := by
  induction cs generalizing before with
  | nil => rfl
  | cons c rest ih =>
      have sigma : (c.toLower = '\u03a3') = (c = '\u03a3') :=
        toLower_invariant (f := (· = '\u03a3')) (fun k small => propext (by revert k; decide +kernel)) c
      have dotted : (c.toLower = '\u0130') = (c = '\u0130') :=
        toLower_invariant (f := (· = '\u0130')) (fun k small => propext (by revert k; decide +kernel)) c
      have others := ih (c :: before)
      rw [List.map_cons] at others
      simp only [List.map_cons, lowerAfter, sigma, dotted, meetsCased_toLower, lowerChar_toLower, others]

/-- Two texts are the same but for the case of basic letters. -/
def SameButCase (s t : String) : Prop := s.toList.map Char.toLower = t.toList.map Char.toLower

instance (s t : String) : Decidable (SameButCase s t) :=
  inferInstanceAs (Decidable (s.toList.map Char.toLower = t.toList.map Char.toLower))

theorem lower_eq_of_sameButCase {s t : String} (same : SameButCase s t) : lower s = lower t := by
  have left := lowerAfter_toLower [] s.toList
  have right := lowerAfter_toLower [] t.toList
  rw [same] at left
  rw [lower, lower, ← left, right]

theorem capitals_basic : ∃ rest, capitals = ⟨65, 90, 1, 32⟩ :: rest ∧ ∀ run ∈ rest, 128 ≤ run.first :=
  ⟨capitals.tail, rfl, by decide +kernel⟩

theorem lowerChar_basic (small : c.toNat < 128) : lowerChar c = c.toLower := by
  obtain ⟨rest, table, beyond⟩ := capitals_basic
  have none_beyond : (rest.find? fun run =>
      run.first ≤ c.toNat && c.toNat ≤ run.last && (c.toNat - run.first) % run.step == 0) = none := by
    apply List.find?_eq_none.mpr
    intro run member
    have above := beyond run member
    simp only [Bool.and_eq_true, decide_eq_true_eq]
    omega
  have letters : ∀ n < 128,
      (if 65 ≤ n ∧ n ≤ 90 then Char.ofNat (n + 32) else Char.ofNat n) = (Char.ofNat n).toLower := by
    decide
  have lowered := letters c.toNat small
  rw [Char.ofNat_toNat] at lowered
  rw [← lowered, lowerChar, table, List.find?_cons, none_beyond]
  by_cases capital : 65 ≤ c.toNat ∧ c.toNat ≤ 90
  · have within : (65 ≤ c.toNat && c.toNat ≤ 90 && (c.toNat - 65) % 1 == 0) = true := by simp [capital, Nat.mod_one]
    rw [if_pos capital, within]
    rfl
  · have without : (65 ≤ c.toNat && c.toNat ≤ 90) = false := by simpa using capital
    rw [if_neg capital, without]
    rfl

/-- Beyond the basic letters one capital alone, the sign of the kelvin, has a basic letter for its lower-case form. -/
theorem lowered_beyond : ∀ run ∈ capitals, run.last < 128 ∨ run.first = 0x212a ∧ run.last = 0x212a ∨
    128 ≤ run.first + run.shift ∧
      (run.last + run.shift < 0xd800 ∨ 0xdfff < run.first + run.shift ∧ run.last + run.shift < 0x110000) := by
  decide +kernel

theorem toLower_of_lowerChar {d : Char} (low : lowerChar c = d) (basic : d.toNat < 128) (other : d ≠ 'k') :
    c.toLower = d := by
  by_cases small : c.toNat < 128
  · rw [← lowerChar_basic small, low]
  · exfalso
    have shifted := low
    unfold lowerChar at shifted
    split at shifted
    case h_2 => exact small (shifted ▸ basic)
    case h_1 run found =>
      have within := List.find?_some found
      simp only [Bool.and_eq_true, decide_eq_true_eq] at within
      rcases lowered_beyond run (List.mem_of_find?_eq_some found) with below | ⟨first, last⟩ | ⟨wide, valid⟩
      · omega
      -- Its letter is the k, which is left out.
      · have kelvin : c.toNat = '\u212a'.toNat := by
          change c.toNat = 0x212a
          omega
        rw [Char.toNat_inj.mp kelvin] at low
        exact other (low.symm.trans (by decide +kernel))
      · have real : (c.toNat + run.shift).toNat.isValidChar := by
          unfold Nat.isValidChar
          omega
        rw [← shifted, Char.ofNat, dif_pos real] at basic
        change (c.toNat + run.shift).toNat < 128 at basic
        omega

/-- A text whose lower-case form has basic characters only, and no k among them, is that form but for case. -/
theorem map_toLower_of_lowerAfter {before cs ds : List Char} (low : lowerAfter before cs = ds)
    (basic : ∀ d ∈ ds, d.toNat < 128 ∧ d ≠ 'k') : cs.map Char.toLower = ds := by
  induction cs generalizing before ds with
  | nil => exact low
  | cons c rest ih =>
      rw [lowerAfter] at low
      -- The two letters with a form of their own have one that is not basic.
      split at low
      case isTrue =>
        have foreign : ∃ d ∈ ds, 128 ≤ d.toNat := by
          rw [← low]
          split
          · exact ⟨_, List.mem_cons_self, by decide⟩
          · exact ⟨_, List.mem_cons_self, by decide⟩
        obtain ⟨d, member, wide⟩ := foreign
        exact absurd (basic d member).1 (by omega)
      case isFalse =>
        split at low
        case isTrue =>
          have member : '\u0307' ∈ ds := by
            rw [← low]
            exact List.mem_cons_of_mem _ List.mem_cons_self
          exact absurd (basic _ member).1 (by decide)
        case isFalse =>
          rw [← low, List.singleton_append, List.forall_mem_cons] at basic
          rw [List.map_cons, toLower_of_lowerChar rfl basic.1.1 basic.1.2, ih rfl basic.2]
          exact low

theorem lower_eq_iff_sameButCase {s t : String} (basic : ∀ d ∈ (lower t).toList, d.toNat < 128 ∧ d ≠ 'k') :
    lower s = lower t ↔ SameButCase s t := by
  refine ⟨fun same => ?_, lower_eq_of_sameButCase⟩
  have whole (u : String) (same : lower u = lower t) : u.toList.map Char.toLower = (lower t).toList := by
    have low : lowerAfter [] u.toList = (lower t).toList := by rw [← same, lower, String.toList_ofList]
    exact map_toLower_of_lowerAfter low basic
  rw [SameButCase, whole s same, whole t rfl]

theorem find?_named_eq_some_iff {α : Type} {items : List α} {name : α → String} {s : String} {a : α}
    (listed : ∀ a, a ∈ items) (distinct : ∀ a b, lower (name a) = lower (name b) → a = b)
    (basic : ∀ a, ∀ d ∈ (lower (name a)).toList, d.toNat < 128 ∧ d ≠ 'k') :
    (items.find? fun a => lower (name a) == lower s) = some a ↔ SameButCase s (name a) := by
  have named {b : α} (found : (items.find? fun a => lower (name a) == lower s) = some b) : lower (name b) = lower s := by
    have hit := List.find?_some found
    exact beq_iff_eq.mp hit
  rw [← lower_eq_iff_sameButCase (basic a)]
  constructor
  · intro found
    exact (named found).symm
  · intro same
    have answered : (items.find? fun a => lower (name a) == lower s).isSome = true :=
      List.find?_isSome.mpr ⟨a, listed a, beq_iff_eq.mpr same.symm⟩
    obtain ⟨b, found⟩ := Option.isSome_iff_exists.mp answered
    rw [found, distinct b a ((named found).trans same)]

theorem mark_free_of_sameButCase {mark : Char} {s t : String} (fixed : mark.toLower = mark) (same : SameButCase s t)
    (absent : mark ∉ t.toList.map Char.toLower) : mark ∉ s.toList := by
  intro member
  apply absent
  rw [← same, ← fixed]
  exact List.mem_map_of_mem member

end Case

end PodAddressing.Text
