import PodAddressing.Proofs.Json.Text
/-!
Values written and read back. A value without binary numbers is read as it was written, as long as its numerals are
not too long, its texts are whole, its fields have names of their own and it is not nested too deeply. What stands
behind a value is a comma or a new line, so where its text ends is never in doubt.
-/

namespace PodAddressing.Json

open Number Text

mutual

/-- What is read as it was written where `room` lists and objects may be nested. -/
def Legible (room : Nat) : Json → Prop
  | .null | .boolean _ => True
  | .integer n => (Nat.toDigits 10 n.natAbs).length ≤ digitLimit
  | .real _ => False
  | .text s => isWhole s.toList = true
  | .list items => 0 < room ∧ LegibleItems (room - 1) items
  | .object fields => 0 < room ∧ (fields.map (·.1)).Nodup ∧ LegibleFields (room - 1) fields

def LegibleItems (room : Nat) : List Json → Prop
  | [] => True
  | item :: rest => Legible room item ∧ LegibleItems room rest

def LegibleFields (room : Nat) : List (String × Json) → Prop
  | [] => True
  | (name, v) :: rest => isWhole name.toList = true ∧ Legible room v ∧ LegibleFields room rest

end

section Legible
variable {room : Nat}

theorem legibleItems_iff {items : List Json} : LegibleItems room items ↔ ∀ item ∈ items, Legible room item := by
  induction items with
  | nil => simp [LegibleItems]
  | cons item rest ih => rw [LegibleItems, ih, List.forall_mem_cons]

theorem legibleFields_iff {fields : List (String × Json)} :
    LegibleFields room fields ↔
      (∀ name ∈ fields.map (·.1), isWhole name.toList = true) ∧ ∀ v ∈ fields.map (·.2), Legible room v := by
  induction fields with
  | nil => simp [LegibleFields]
  | cons field rest ih =>
      rw [LegibleFields, ih, List.map_cons, List.map_cons, List.forall_mem_cons, List.forall_mem_cons]
      tauto

mutual

instance decidableLegible (room : Nat) : (v : Json) → Decidable (Legible room v)
  | .null | .boolean _ => isTrue trivial
  | .integer _ => Nat.decLe _ _
  | .real _ => isFalse id
  | .text s => instDecidableEqBool (isWhole s.toList) true
  | .list items => @instDecidableAnd _ _ (Nat.decLt 0 room) (decidableLegibleItems (room - 1) items)
  | .object fields =>
      @instDecidableAnd _ _ (Nat.decLt 0 room)
        (@instDecidableAnd _ _ inferInstance (decidableLegibleFields (room - 1) fields))

instance decidableLegibleItems (room : Nat) : (items : List Json) → Decidable (LegibleItems room items)
  | [] => isTrue trivial
  | item :: rest => @instDecidableAnd _ _ (decidableLegible room item) (decidableLegibleItems room rest)

instance decidableLegibleFields (room : Nat) :
    (fields : List (String × Json)) → Decidable (LegibleFields room fields)
  | [] => isTrue trivial
  | (_, v) :: rest =>
      @instDecidableAnd _ _ inferInstance
        (@instDecidableAnd _ _ (decidableLegible room v) (decidableLegibleFields room rest))

end

end Legible

section Numerals

def Ends (rest : List Char) : Prop := ∀ c ∈ rest.head?, c = ',' ∨ c = '\n'

variable {rest : List Char}

theorem digitRun_append {ds : List Char} (digits : ∀ c ∈ ds, c.isDigit = true) (ends : Ends rest) :
    digitRun (ds ++ rest) = (ds.map (·.toNat - '0'.toNat), rest) := by
  have stops (c : Char) (first : c ∈ rest.head?) : c.isDigit = false := by
    rcases ends c first with rfl | rfl <;> rfl
  have behind : rest.takeWhile Char.isDigit = [] ∧ rest.dropWhile Char.isDigit = rest := by
    cases rest with
    | nil => exact ⟨rfl, rfl⟩
    | cons c rest => simp [stops c rfl]
  rw [digitRun, List.takeWhile_append_of_pos digits, List.dropWhile_append_of_pos digits, behind.1,
    behind.2, List.append_nil]

theorem readWhole_toDigits (ends : Ends rest) (n : Nat) :
    readWhole (Nat.toDigits 10 n ++ rest) = ((Nat.toDigits 10 n).map (·.toNat - '0'.toNat), rest) := by
  by_cases positive : 0 < n
  · obtain ⟨c, cs, spelled⟩ := List.exists_cons_of_ne_nil (Nat.toDigits_ne_nil (n := n) (b := 10))
    have lead := head_toDigits_ne_zero positive
    have run := digitRun_append (List.all_eq_true.mp (all_isDigit_toDigits n)) ends
    rw [spelled] at lead run ⊢
    rw [← run, List.cons_append, readWhole]
    rintro rest' same
    simp [(List.cons.inj same).1] at lead
  · have nothing : n = 0 := by omega
    subst nothing
    rfl

theorem toDigits_head (n : Nat) : ∃ c cs, Nat.toDigits 10 n = c :: cs ∧ c.isDigit = true := by
  obtain ⟨c, cs, spelled⟩ := List.exists_cons_of_ne_nil (Nat.toDigits_ne_nil (n := n) (b := 10))
  refine ⟨c, cs, spelled, List.all_eq_true.mp (all_isDigit_toDigits n) c ?_⟩
  rw [spelled]
  exact List.mem_cons_self

theorem readNumber_toDigits {n : Nat} (ends : Ends rest) (short : (Nat.toDigits 10 n).length ≤ digitLimit) :
    readNumber (Nat.toDigits 10 n ++ rest) = .ok (.integer n, rest) ∧
      readNumber ('-' :: Nat.toDigits 10 n ++ rest) = .ok (.integer (-n), rest) := by
  have whole := readWhole_toDigits ends n
  have value := ofDigits_toDigits n
  have fraction : readFraction rest = none := by
    cases rest with
    | nil => rfl
    | cons c rest => rcases ends c rfl with rfl | rfl <;> rfl
  have power : readExponent rest = none := by
    cases rest with
    | nil => rfl
    | cons c rest => rcases ends c rfl with rfl | rfl <;> rfl
  have count : ((Nat.toDigits 10 n).map (·.toNat - '0'.toNat)).length = (Nat.toDigits 10 n).length :=
    List.length_map _
  obtain ⟨c, cs, spelled, digit⟩ := toDigits_head n
  have unsigned : c ≠ '-' := by
    rintro rfl
    cases digit
  obtain ⟨d, ds, valued⟩ : ∃ d ds, (Nat.toDigits 10 n).map (·.toNat - '0'.toNat) = d :: ds := by
    rw [spelled]
    exact ⟨_, _, rfl⟩
  rw [valued] at whole value count
  have few : ¬ digitLimit < ds.length + 1 := by
    rw [← List.length_cons (a := d), count]
    exact Nat.not_lt.mpr short
  rw [spelled] at whole ⊢
  simp only [List.cons_append] at whole
  constructor
  · simp [readNumber, unsigned, whole, fraction, power, few, value, signed]
  · simp [readNumber, whole, fraction, power, few, value, signed]

theorem integerText_toList (n : Int) :
    (n = n.natAbs ∧ (integerText n).toList = Nat.toDigits 10 n.natAbs) ∨
      (n = -n.natAbs ∧ (integerText n).toList = '-' :: Nat.toDigits 10 n.natAbs) := by
  cases n with
  | ofNat m => exact .inl ⟨rfl, Nat.toList_repr⟩
  | negSucc m =>
      refine .inr ⟨rfl, ?_⟩
      change ("-" ++ Nat.repr (m + 1)).toList = _
      rw [String.toList_append, Nat.toList_repr]
      rfl

theorem readValue_digit {room steps : Nat} {c : Char} (digit : c.isDigit = true) (cs : List Char) :
    readValue room (steps + 1) (c :: cs) = readNumber (c :: cs) ∧
      readValue room (steps + 1) ('-' :: c :: cs) = readNumber ('-' :: c :: cs) := by
  have other (d : Char) (plain : d.isDigit = false) : c ≠ d := by
    rintro rfl
    rw [plain] at digit
    cases digit
  constructor
  · rw [readValue]
    all_goals exact fun _ same => other _ rfl (List.cons.inj same).1
  · rw [readValue]
    case x_10 => exact fun _ same => other _ rfl (List.cons.inj (List.cons.inj same).2).1
    all_goals exact fun _ same => absurd (List.cons.inj same).1 (by decide)

theorem readValue_integerText {room steps : Nat} {n : Int} (ends : Ends rest)
    (short : (Nat.toDigits 10 n.natAbs).length ≤ digitLimit) :
    readValue room (steps + 1) ((integerText n).toList ++ rest) = .ok (.integer n, rest) := by
  obtain ⟨plain, negative⟩ := readNumber_toDigits ends short
  obtain ⟨c, cs, spelled, digit⟩ := toDigits_head n.natAbs
  rcases integerText_toList n with ⟨same, written⟩ | ⟨same, written⟩
  · rw [written, spelled, List.cons_append, (readValue_digit digit _).1, ← List.cons_append, ← spelled,
      plain, ← same]
  · rw [written, spelled, List.cons_append, List.cons_append, (readValue_digit digit _).2,
      ← List.cons_append, ← List.cons_append, ← spelled, negative, ← same]

end Numerals

section Layout
variable {depth room steps : Nat} {rest : List Char}

theorem skipSpace_newLine (depth : Nat) (cs : List Char) : skipSpace (newLine depth ++ cs) = skipSpace cs := by
  apply List.dropWhile_append_of_pos
  intro c member
  rcases List.mem_cons.mp member with rfl | blank
  · rfl
  · rw [List.eq_of_mem_replicate blank]
    rfl

theorem skipSpace_cons {c : Char} (visible : isSpace c = false) (cs : List Char) :
    skipSpace (c :: cs) = c :: cs := by
  rw [skipSpace, List.dropWhile_cons_of_neg (by simp [visible])]

def layLines (depth : Nat) (entries : List (List Char)) : List Char :=
  List.intercalate [','] (entries.map (newLine depth ++ ·))

theorem layLines_singleton (depth : Nat) (entry : List Char) :
    layLines depth [entry] = newLine depth ++ entry := by
  simp [layLines]

theorem layLines_cons (depth : Nat) (entry next : List Char) (entries : List (List Char)) :
    layLines depth (entry :: next :: entries) =
      newLine depth ++ entry ++ ',' :: layLines depth (next :: entries) := by
  simp [layLines, List.intercalate]

theorem layEntries_cons (depth : Nat) (opening closing : Char) (entry : List Char) (entries : List (List Char)) :
    layEntries depth opening closing (entry :: entries) =
      opening :: layLines (depth + 1) (entry :: entries) ++ newLine depth ++ [closing] := rfl

theorem writeAt_head (depth : Nat) (v : Json) (legible : Legible room v) :
    ∃ c cs, writeAt depth v = c :: cs ∧ isSpace c = false ∧ c ≠ ']' := by
  cases v with
  | null => exact ⟨_, _, rfl, rfl, by decide⟩
  | boolean b => cases b <;> exact ⟨_, _, rfl, rfl, by decide⟩
  | integer n =>
      obtain ⟨c, cs, spelled, digit⟩ := toDigits_head n.natAbs
      rcases integerText_toList n with ⟨_, written⟩ | ⟨_, written⟩
      · refine ⟨c, cs, written.trans spelled, ?_⟩
        constructor
        · simp only [isSpace, Bool.or_eq_false_iff, decide_eq_false_iff_not]
          refine ⟨⟨⟨?_, ?_⟩, ?_⟩, ?_⟩ <;> rintro rfl <;> cases digit
        · rintro rfl
          cases digit
      · exact ⟨_, _, written, rfl, by decide⟩
  | real x => exact legible.elim
  | text s => exact ⟨_, _, rfl, rfl, by decide⟩
  | list items =>
      cases items with
      | nil => exact ⟨_, _, rfl, rfl, by decide⟩
      | cons item items => exact ⟨_, _, rfl, rfl, by decide⟩
  | object fields =>
      cases fields with
      | nil => exact ⟨_, _, rfl, rfl, by decide⟩
      | cons field fields => exact ⟨_, _, rfl, rfl, by decide⟩

theorem skipSpace_writeAt {v : Json} (legible : Legible room v) (depth : Nat) (cs : List Char) :
    skipSpace (writeAt depth v ++ cs) = writeAt depth v ++ cs := by
  obtain ⟨c, tail, written, visible, _⟩ := writeAt_head depth v legible
  rw [written, List.cons_append, skipSpace_cons visible]

theorem layLines_prefix (depth : Nat) (entry : List Char) (entries : List (List Char)) :
    ∃ more, layLines depth (entry :: entries) = newLine depth ++ (entry ++ more) := by
  cases entries with
  | nil => exact ⟨[], by rw [layLines_singleton, List.append_nil]⟩
  | cons next entries => exact ⟨_, by rw [layLines_cons, List.append_assoc]⟩

theorem layLines_head {v : Json} (legible : Legible room v) (depth : Nat) (items : List Json) (cs : List Char) :
    ∀ rest, skipSpace (layLines depth (writeItems depth (v :: items)) ++ cs) ≠ ']' :: rest := by
  obtain ⟨c, tail, written, visible, other⟩ := writeAt_head depth v legible
  obtain ⟨more, shape⟩ := layLines_prefix depth (writeAt depth v) (writeItems depth items)
  rw [writeItems, shape, List.append_assoc, skipSpace_newLine, written, List.cons_append, List.cons_append,
    skipSpace_cons visible]
  rintro rest same
  exact other (List.cons.inj same).1

theorem ends_newLine (depth : Nat) (cs : List Char) : Ends (newLine depth ++ cs) := by
  intro c first
  cases first
  exact .inr rfl

theorem ends_comma (cs : List Char) : Ends (',' :: cs) := by
  intro c first
  cases first
  exact .inl rfl

end Layout

section Objects

theorem setField_of_absent {fields : List (String × Json)} {name : String}
    (absent : name ∉ fields.map (·.1)) (v : Json) : setField name v fields = fields ++ [(name, v)] := by
  induction fields with
  | nil => rfl
  | cons field rest ih =>
      obtain ⟨k, old⟩ := field
      rw [List.map_cons, List.mem_cons, not_or] at absent
      rw [setField, if_neg (Ne.symm absent.1), ih absent.2, List.cons_append]

theorem ofFields_of_nodup {fields : List (String × Json)} (single : (fields.map (·.1)).Nodup) :
    ofFields fields = .object fields := by
  have gathered (known : List (String × Json)) (apart : ((known ++ fields).map (·.1)).Nodup) :
      fields.foldl (fun known field => setField field.1 field.2 known) known = known ++ fields := by
    induction fields generalizing known with
    | nil => simp
    | cons field rest ih =>
        have fresh : field.1 ∉ known.map (·.1) := by
          rw [List.map_append, List.nodup_append] at apart
          exact fun listed => apart.2.2 _ listed _ List.mem_cons_self rfl
        rw [List.foldl_cons, setField_of_absent fresh]
        rw [List.map_cons, List.nodup_cons] at single
        have moved : known ++ field :: rest = known ++ [field] ++ rest := by simp
        rw [moved] at apart ⊢
        exact ih single.2 _ apart
  exact congrArg Json.object (gathered [] single)

end Objects

section Values

/-- A value is read from its text as it was written, with twice the length of the text in steps. -/
def ReadsBack (room : Nat) (v : Json) : Prop :=
  ∀ depth steps rest, Ends rest → 2 * (writeAt depth v).length ≤ steps →
    readValue room steps (writeAt depth v ++ rest) = .ok (v, rest)

variable {room depth steps : Nat} {rest : List Char}

theorem exists_step {n : Nat} (enough : 2 * (n + 1) ≤ steps) : ∃ left, steps = left + 1 ∧ 2 * n < left := by
  exact ⟨steps - 1, by omega, by omega⟩

theorem readsBack_null : ReadsBack room .null := by
  intro depth steps rest ends enough
  obtain ⟨left, rfl, _⟩ := exists_step (n := 3) enough
  rfl

theorem readsBack_boolean (b : Bool) : ReadsBack room (.boolean b) := by
  intro depth steps rest ends enough
  cases b with
  | true =>
      obtain ⟨left, rfl, _⟩ := exists_step (n := 3) enough
      rfl
  | false =>
      obtain ⟨left, rfl, _⟩ := exists_step (n := 4) enough
      rfl

theorem readsBack_integer {n : Int} (short : (Nat.toDigits 10 n.natAbs).length ≤ digitLimit) :
    ReadsBack room (.integer n) := by
  intro depth steps rest ends enough
  have legible : Legible room (.integer n) := short
  obtain ⟨c, cs, written, _⟩ := writeAt_head depth (.integer n) legible
  rw [written] at enough
  obtain ⟨left, rfl, _⟩ := exists_step enough
  exact readValue_integerText ends short

theorem readsBack_text {s : String} (whole : isWhole s.toList = true) : ReadsBack room (.text s) := by
  intro depth steps rest ends enough
  obtain ⟨left, rfl, _⟩ := exists_step enough
  have written : writeAt depth (.text s) ++ rest = '"' :: (s.toList.flatMap escape ++ '"' :: rest) := by
    simp [writeAt, writeText]
  rw [written, readValue, readText_writeText whole]
  rfl

/-- Lines of items are read one after the other, up to the bracket that closes them. -/
theorem readItems_layLines (depth steps : Nat) (rest : List Char) {items : List Json} (some_item : items ≠ [])
    (each : ∀ item ∈ items, Legible room item ∧ ReadsBack room item)
    (enough : 2 * (layLines (depth + 1) (writeItems (depth + 1) items)).length < steps) :
    readItems room steps (skipSpace (layLines (depth + 1) (writeItems (depth + 1) items) ++
      (newLine depth ++ ']' :: rest))) = .ok (items, rest) := by
  induction items generalizing steps with
  | nil => exact absurd rfl some_item
  | cons item more ih =>
      obtain ⟨⟨legible, back⟩, others⟩ := List.forall_mem_cons.mp each
      obtain ⟨left, rfl⟩ := Nat.exists_eq_add_one_of_ne_zero (Nat.ne_zero_of_lt enough)
      cases more with
      | nil =>
          rw [writeItems, writeItems, layLines_singleton, List.length_append] at enough
          have read := back (depth + 1) left _ (ends_newLine depth (']' :: rest)) (by omega)
          rw [writeItems, writeItems, layLines_singleton, List.append_assoc, skipSpace_newLine,
            skipSpace_writeAt legible, readItems, read]
          dsimp only
          rw [skipSpace_newLine, skipSpace_cons (c := ']') rfl]
          rfl
      | cons next more =>
          rw [writeItems, writeItems, layLines_cons, ← writeItems, List.length_append, List.length_append,
            List.length_cons] at enough
          have read := back (depth + 1) left _ (ends_comma (layLines (depth + 1)
            (writeItems (depth + 1) (next :: more)) ++ (newLine depth ++ ']' :: rest))) (by omega)
          rw [writeItems, writeItems, layLines_cons, ← writeItems, List.append_assoc, List.append_assoc,
            skipSpace_newLine, skipSpace_writeAt legible, List.cons_append, readItems, read]
          dsimp only
          rw [skipSpace_cons (c := ',') rfl]
          have tail := ih left (List.cons_ne_nil _ _) others (by omega)
          exact congrArg (Except.map fun read => (item :: read.1, read.2)) tail

theorem readsBack_list {items : List Json} (nested : 0 < room)
    (each : ∀ item ∈ items, Legible (room - 1) item ∧ ReadsBack (room - 1) item) :
    ReadsBack room (.list items) := by
  intro depth steps rest ends enough
  cases items with
  | nil =>
      obtain ⟨left, rfl, _⟩ := exists_step (n := 1) enough
      change readValue room (left + 1) ('[' :: ']' :: rest) = _
      rw [readValue, if_neg (Nat.ne_of_gt nested), skipSpace_cons (c := ']') rfl]
      rfl
  | cons item items =>
      have written : writeAt depth (.list (item :: items)) = '[' ::
          (layLines (depth + 1) (writeItems (depth + 1) (item :: items)) ++ (newLine depth ++ [']'])) := by
        simp [writeAt, writeItems, layEntries_cons]
      rw [written, List.length_cons, List.length_append] at enough
      obtain ⟨left, rfl, left_over⟩ := exists_step enough
      have inner := readItems_layLines depth left rest (List.cons_ne_nil _ _) each (by omega)
      have open_ := layLines_head (each item List.mem_cons_self).1 (depth + 1) items (newLine depth ++ ']' :: rest)
      rw [written, List.cons_append, List.append_assoc, List.append_assoc, List.singleton_append, readValue,
        if_neg (Nat.ne_of_gt nested)]
      generalize skipSpace _ = text at inner open_
      split
      case h_1 closed => exact absurd rfl (open_ _)
      case h_2 =>
        rw [inner]
        rfl

theorem writeFields_cons (depth : Nat) (field : String × Json) (fields : List (String × Json)) :
    writeFields depth (field :: fields) =
      ('"' :: (field.1.toList.flatMap escape ++ '"' :: ':' :: ' ' :: writeAt depth field.2)) ::
        writeFields depth fields := by
  simp [writeFields, writeText]

theorem skipSpace_blank (cs : List Char) : skipSpace (' ' :: cs) = skipSpace cs := rfl

theorem readFields_layLines (depth steps : Nat) (rest : List Char) {fields : List (String × Json)}
    (some_field : fields ≠ [])
    (each : ∀ field ∈ fields, isWhole field.1.toList = true ∧ Legible room field.2 ∧ ReadsBack room field.2)
    (enough : 2 * (layLines (depth + 1) (writeFields (depth + 1) fields)).length < steps) :
    readFields room steps (skipSpace (layLines (depth + 1) (writeFields (depth + 1) fields) ++
      (newLine depth ++ '}' :: rest))) = .ok (fields, rest) := by
  induction fields generalizing steps with
  | nil => exact absurd rfl some_field
  | cons field more ih =>
      obtain ⟨⟨whole, legible, back⟩, others⟩ := List.forall_mem_cons.mp each
      obtain ⟨left, rfl⟩ := Nat.exists_eq_add_one_of_ne_zero (Nat.ne_zero_of_lt enough)
      cases more with
      | nil =>
          rw [writeFields_cons, writeFields, layLines_singleton] at enough ⊢
          simp only [List.length_append, List.length_cons] at enough
          have read := back (depth + 1) left _ (ends_newLine depth ('}' :: rest)) (by omega)
          rw [List.append_assoc, skipSpace_newLine, List.cons_append, skipSpace_cons rfl, List.append_assoc,
            readFields, List.cons_append, readText_writeText whole]
          simp only [List.cons_append, skipSpace_cons (c := ':') rfl, skipSpace_blank,
            skipSpace_writeAt legible, read, skipSpace_newLine, skipSpace_cons (c := '}') rfl]
      | cons next more =>
          rw [writeFields_cons, writeFields_cons, layLines_cons, ← writeFields_cons] at enough ⊢
          simp only [List.length_append, List.length_cons] at enough
          have read := back (depth + 1) left _ (ends_comma (layLines (depth + 1)
            (writeFields (depth + 1) (next :: more)) ++ (newLine depth ++ '}' :: rest))) (by omega)
          have tail := ih left (List.cons_ne_nil _ _) others (by omega)
          rw [List.append_assoc, List.append_assoc, skipSpace_newLine, List.cons_append, skipSpace_cons rfl,
            List.append_assoc, readFields, List.cons_append, readText_writeText whole]
          simp only [List.cons_append, skipSpace_cons (c := ':') rfl, skipSpace_blank,
            skipSpace_writeAt legible, read, skipSpace_cons (c := ',') rfl, tail, Except.map]

theorem layFields_head (depth : Nat) (field : String × Json) (fields : List (String × Json)) (cs : List Char) :
    ∀ rest, skipSpace (layLines depth (writeFields depth (field :: fields)) ++ cs) ≠ '}' :: rest := by
  rw [writeFields_cons]
  obtain ⟨more, shape⟩ := layLines_prefix depth ('"' :: (field.1.toList.flatMap escape ++
    '"' :: ':' :: ' ' :: writeAt depth field.2)) (writeFields depth fields)
  rw [shape, List.append_assoc, skipSpace_newLine, List.cons_append, List.cons_append, skipSpace_cons rfl]
  intro rest same
  exact absurd (List.cons.inj same).1 (by decide)

theorem readsBack_object {fields : List (String × Json)} (nested : 0 < room)
    (single : (fields.map (·.1)).Nodup)
    (each : ∀ field ∈ fields, isWhole field.1.toList = true ∧ Legible (room - 1) field.2 ∧
      ReadsBack (room - 1) field.2) :
    ReadsBack room (.object fields) := by
  intro depth steps rest ends enough
  cases fields with
  | nil =>
      obtain ⟨left, rfl, _⟩ := exists_step (n := 1) enough
      change readValue room (left + 1) ('{' :: '}' :: rest) = _
      rw [readValue, if_neg (Nat.ne_of_gt nested), skipSpace_cons (c := '}') rfl]
      rfl
  | cons field fields =>
      have written : writeAt depth (.object (field :: fields)) = '{' ::
          (layLines (depth + 1) (writeFields (depth + 1) (field :: fields)) ++ (newLine depth ++ ['}'])) := by
        simp [writeAt, writeFields, layEntries_cons]
      rw [written, List.length_cons, List.length_append] at enough
      obtain ⟨left, rfl, left_over⟩ := exists_step enough
      have inner := readFields_layLines depth left rest (List.cons_ne_nil _ _) each (by omega)
      have open_ := layFields_head (depth + 1) field fields (newLine depth ++ '}' :: rest)
      rw [written, List.cons_append, List.append_assoc, List.append_assoc, List.singleton_append, readValue,
        if_neg (Nat.ne_of_gt nested)]
      generalize skipSpace _ = text at inner open_
      split
      case h_1 closed => exact absurd rfl (open_ _)
      case h_2 =>
        rw [inner]
        exact congrArg (fun v => Except.ok (v, rest)) (ofFields_of_nodup single)

mutual

/-- Legible values are read as they were written. -/
theorem readsBack : (v : Json) → {room : Nat} → Legible room v → ReadsBack room v
  | .null, _, _ => readsBack_null
  | .boolean b, _, _ => readsBack_boolean b
  | .integer _, _, short => readsBack_integer short
  | .text _, _, whole => readsBack_text whole
  | .list items, _, ⟨nested, legible⟩ => readsBack_list nested (itemsReadBack items legible)
  | .object fields, _, ⟨nested, single, legible⟩ =>
      readsBack_object nested single (fieldsReadBack fields legible)

theorem itemsReadBack : (items : List Json) → {room : Nat} → LegibleItems room items →
    ∀ item ∈ items, Legible room item ∧ ReadsBack room item
  | [], _, _ => by simp
  | item :: items, _, ⟨legible, others⟩ =>
      List.forall_mem_cons.mpr ⟨⟨legible, readsBack item legible⟩, itemsReadBack items others⟩

theorem fieldsReadBack : (fields : List (String × Json)) → {room : Nat} → LegibleFields room fields →
    ∀ field ∈ fields, isWhole field.1.toList = true ∧ Legible room field.2 ∧ ReadsBack room field.2
  | [], _, _ => by simp
  | (_, v) :: fields, _, ⟨whole, legible, others⟩ =>
      List.forall_mem_cons.mpr ⟨⟨whole, legible, readsBack v legible⟩, fieldsReadBack fields others⟩

end

theorem read_write {v : Json} (legible : Legible nestingLimit v) : read (write v) = .ok v := by
  have ends : Ends [] := by
    intro c first
    cases first
  have spaced := skipSpace_writeAt legible 0 []
  have back := readsBack v legible 0 (2 * (writeAt 0 v).length + 2) [] ends (by omega)
  rw [List.append_nil] at spaced back
  rw [read, write, String.toList_ofList, readAll, spaced, back]
  rfl

end Values

end PodAddressing.Json
