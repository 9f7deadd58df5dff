import PodAddressing.Files
import PodAddressing.Proofs.Basic
import PodAddressing.Proofs.Table
import PodAddressing.Proofs.Text.Pieces
/-!
The tree of files while files are written and moved. Where a path leads is decided by the directories alone, and
these stay as they are; so what has been written once can be written again, and is found where it was put.
-/

theorem PodAddressing.FilePath.fault?_above {slashes : Nat} {names : List String} (some_name : names ≠ [])
    {name : String} (sound : fault? ⟨slashes, names ++ [name]⟩ = none) : fault? ⟨slashes, names⟩ = none := by
  have longer : text ⟨slashes, names ++ [name]⟩ = text ⟨slashes, names⟩ ++ ("/" ++ name) := by
    apply String.toList_inj.mp
    simp [text, some_name, String.toList_intercalate, Text.join_concat]
  unfold fault? at sound ⊢
  dsimp only at sound ⊢
  rw [longer] at sound
  generalize text ⟨slashes, names⟩ = s at sound ⊢
  split at sound
  case isTrue => cases sound
  case isFalse whole =>
    split at sound
    case isTrue => cases sound
    case isFalse unterminated =>
      split at sound
      case isTrue => cases sound
      case isFalse short =>
        rw [String.toList_append, List.any_append, Bool.or_eq_true, not_or] at whole
        rw [String.toList_append, List.mem_append, not_or] at unterminated
        rw [String.utf8ByteSize_append] at short
        rw [if_neg whole.1, if_neg unterminated.1, if_neg (by omega)]

namespace PodAddressing.Files
variable {f g h : Files} {place dir : Place} {node : Node} {p : FilePath} {bytes : ByteArray}

section Places

theorem below_root (plain : f.node? place ≠ some .directory) : place ≠ [] := by
  rintro rfl
  exact plain rfl

theorem node?_put (f : Files) {place : Place} (inside : place ≠ []) (node : Node) (other : Place) :
    (f.put place node).node? other = if place = other then some node else f.node? other := by
  cases other with
  | nil => simp [node?, inside]
  | cons name above => exact Table.get?_put _ _ _ _

theorem node?_erase (f : Files) {place : Place} (inside : place ≠ []) (other : Place) :
    (f.erase place).node? other = if place = other then none else f.node? other := by
  cases other with
  | nil => simp [node?, inside]
  | cons name above => exact Table.get?_erase _ _ _

theorem enter_eq_ok_iff {name : String} :
    f.enter dir name = .ok place ↔ below dir name = .ok place ∧ f.node? place = some .directory := by
  constructor
  · intro entered
    obtain ⟨next, below, entered⟩ := ok_of_bind entered
    split at entered
    case h_1 found =>
      cases entered
      exact ⟨below, found⟩
    case h_2 => cases entered
    case h_3 => cases entered
  · rintro ⟨below, there⟩
    simp only [Files.enter, below, bind, Except.bind, there]
    rfl

/-- Directories stay, and relative paths start from the same one. -/
def Keeps (f g : Files) : Prop :=
  g.here = f.here ∧ ∀ place, f.node? place = some .directory → g.node? place = some .directory

namespace Keeps

theorem put (plain : f.node? place ≠ some .directory) (node : Node) : Keeps f (f.put place node) := by
  refine ⟨rfl, fun other there => ?_⟩
  rw [node?_put f (below_root plain), if_neg]
  · exact there
  · rintro rfl
    exact plain there

theorem of_put (plain : f.node? place ≠ some .directory) (bytes : ByteArray) :
    Keeps (f.put place (.file bytes)) f := by
  refine ⟨rfl, fun other there => ?_⟩
  rw [node?_put f (below_root plain)] at there
  split at there
  · cases there
  · exact there

theorem enter {name : String} (keeps : Keeps f g) (entered : f.enter dir name = .ok place) :
    g.enter dir name = .ok place := by
  obtain ⟨below, there⟩ := enter_eq_ok_iff.mp entered
  exact enter_eq_ok_iff.mpr ⟨below, keeps.2 place there⟩

theorem follow {names : List String} (keeps : Keeps f g) (led : f.follow dir names = .ok place) :
    g.follow dir names = .ok place := by
  induction names generalizing dir with
  | nil => exact led
  | cons name rest ih =>
      cases rest with
      | nil => exact led
      | cons next rest =>
          obtain ⟨inner, entered, led⟩ := ok_of_bind led
          change (g.enter dir name >>= fun inner => g.follow inner (next :: rest)) = _
          rw [keeps.enter entered]
          exact ih led

end Keeps

theorem place_eq_ok_iff : f.place p = .ok place ↔ p.fault? = none ∧ f.follow (f.start p) p.names = .ok place := by
  unfold Files.place
  cases p.fault? with
  | some fault => simp
  | none =>
      cases led : f.follow (f.start p) p.names with
      | error fault => simp [Except.mapError]
      | ok dir => simp [Except.mapError]

/-- A path leads to the same place where the directories are kept. -/
theorem Keeps.leads (keeps : Keeps f g) (led : f.place p = .ok place) :
    g.place p = .ok place := by
  obtain ⟨sound, led⟩ := place_eq_ok_iff.mp led
  have start : g.start p = f.start p := by rw [Files.start, keeps.1, Files.start]
  exact place_eq_ok_iff.mpr ⟨sound, start ▸ keeps.follow led⟩

end Places

section Finding

theorem find_eq_ok_iff : f.find p = .ok node ↔ ∃ place, f.place p = .ok place ∧ f.node? place = some node := by
  constructor
  · intro found
    obtain ⟨place, led, found⟩ := ok_of_bind found
    refine ⟨place, led, ?_⟩
    split at found
    case h_1 there =>
      cases found
      exact there
    case h_2 => cases found
  · rintro ⟨place, led, there⟩
    simp only [find, led, bind, Except.bind, there]
    rfl

theorem content?_of_find (found : f.find p = .ok (.file bytes)) : f.content? p = .ok (some bytes) := by
  have has : f.has p = .ok true := by
    rw [has, find?, found]
    rfl
  have read : f.read p = .ok bytes := by
    rw [read, found]
    rfl
  simp only [content?, has, read, bind, Except.bind]
  rfl

theorem hasDirectory_iff : f.hasDirectory p = .ok true ↔ f.find p = .ok .directory := by
  constructor
  · intro there
    obtain ⟨found, answered, directory⟩ := ok_of_map there
    obtain ⟨node, rfl, kind⟩ := Option.any_eq_true .. |>.mp directory
    cases node with
    | file bytes => cases kind
    | directory =>
        unfold find? at answered
        split at answered
        case h_1 node there =>
          cases answered
          exact there
        all_goals cases answered
  · intro found
    rw [hasDirectory, find?, found]
    rfl

theorem Keeps.find (keeps : Keeps f g) (found : f.find p = .ok .directory) : g.find p = .ok .directory := by
  obtain ⟨place, led, there⟩ := find_eq_ok_iff.mp found
  exact find_eq_ok_iff.mpr ⟨place, keeps.leads led, keeps.2 place there⟩

end Finding

section Directories

theorem makeDirectory_of_there (there : f.find p = .ok .directory) :
    f.makeDirectory p = .error (.file .occupied p.text) := by
  obtain ⟨place, led, there⟩ := find_eq_ok_iff.mp there
  simp only [makeDirectory, led, bind, Except.bind, there]
  rfl

theorem find_of_makeDirectory (made : f.makeDirectory p = .ok g) : g.find p = .ok .directory := by
  obtain ⟨place, led, made⟩ := ok_of_bind made
  cases there : f.node? place with
  | some node =>
      rw [there] at made
      cases made
  | none =>
      rw [there] at made
      cases made
      have plain : f.node? place ≠ some .directory := by
        rw [there]
        exact Option.some_ne_none _ |>.symm
      refine find_eq_ok_iff.mpr ⟨place, (Keeps.put plain .directory).leads led, ?_⟩
      rw [node?_put f (below_root plain), if_pos rfl]

theorem find_of_accept {result : Except Fault Files} (accepted : f.accept p result = (.ok (), g))
    (made : ∀ after, result = .ok after → after.find p = .ok .directory) : g.find p = .ok .directory := by
  unfold accept at accepted
  split at accepted
  case h_1 after =>
    cases accepted
    exact made g rfl
  case h_2 =>
    split at accepted
    case h_1 there =>
      cases accepted
      exact hasDirectory_iff.mp there
    all_goals cases accepted

theorem makeDirectories_of_there (there : f.find p = .ok .directory) : f.makeDirectories p = (.ok (), f) := by
  have accepted : f.accept p (f.makeDirectory p) = (.ok (), f) := by
    rw [makeDirectory_of_there there, accept, hasDirectory_iff.mpr there]
  obtain ⟨slashes, names⟩ := p
  cases turned : names.reverse with
  | nil =>
      have nothing : names = [] := List.reverse_eq_nil_iff.mp turned
      subst nothing
      exact accepted
  | cons name above =>
      have back : (name :: above).reverse = names := by rw [← turned, List.reverse_reverse]
      rw [makeDirectories, turned, makeAll, back, makeDirectory_of_there there]
      rw [makeDirectory_of_there there] at accepted
      exact accepted

theorem find_of_makeDirectories (made : f.makeDirectories p = (.ok (), g)) : g.find p = .ok .directory := by
  obtain ⟨slashes, names⟩ := p
  have own (f : Files) (accepted : f.accept ⟨slashes, names⟩ (f.makeDirectory ⟨slashes, names⟩) = (.ok (), g)) :
      g.find ⟨slashes, names⟩ = .ok .directory :=
    find_of_accept accepted fun _ => find_of_makeDirectory
  cases turned : names.reverse with
  | nil =>
      have nothing : names = [] := List.reverse_eq_nil_iff.mp turned
      subst nothing
      exact own f made
  | cons name above =>
      have back : (name :: above).reverse = names := by rw [← turned, List.reverse_reverse]
      rw [makeDirectories, turned, makeAll, back] at made
      dsimp only at made
      split at made
      case h_1 =>
        split at made
        case h_1 => cases made
        case h_2 after _ => exact own after made
      case h_2 => exact own f made

end Directories

section Failing
variable {slashes : Nat} {names : List String} {name : String} {fault : Fault}

theorem accept_eq_error (failed : f.accept p result = (.error fault, g)) :
    g = f ∧ (∃ fault, result = .error fault) ∧ f.find p ≠ .ok .directory := by
  unfold accept at failed
  split at failed
  case h_1 => cases failed
  case h_2 refused =>
    have absent : f.hasDirectory p ≠ .ok true := by
      intro there
      rw [there] at failed
      cases failed
    have same : g = f := by
      split at failed
      case h_1 there => exact absurd there absent
      all_goals
        cases failed
        rfl
    exact ⟨same, ⟨refused, rfl⟩, fun found => absent (hasDirectory_iff.mpr found)⟩

theorem accept_of_error (refused : Fault) (absent : f.find p ≠ .ok .directory) :
    ∃ fault, f.accept p (.error refused) = (.error fault, f) := by
  unfold accept
  split
  case h_1 directory => cases directory
  case h_2 answered =>
    split
    case h_1 there => exact absurd (hasDirectory_iff.mp there) absent
    all_goals exact ⟨_, rfl⟩

theorem follow_above (some_name : names ≠ []) (led : f.follow dir (names ++ [name]) = .ok place) :
    ∃ inner, f.follow dir names = .ok inner ∧ f.node? inner = some .directory := by
  induction names generalizing dir with
  | nil => exact absurd rfl some_name
  | cons first rest ih =>
      cases rest with
      | nil =>
          obtain ⟨inner, entered, _⟩ := ok_of_bind led
          obtain ⟨below, there⟩ := enter_eq_ok_iff.mp entered
          exact ⟨inner, below, there⟩
      | cons next rest =>
          obtain ⟨inner, entered, led⟩ := ok_of_bind led
          obtain ⟨last, others, there⟩ := ih (List.cons_ne_nil next rest) led
          refine ⟨last, ?_, there⟩
          change (f.enter dir first >>= fun inner => f.follow inner (next :: rest)) = _
          rw [entered]
          exact others

theorem find_above (some_name : names ≠ []) (led : f.place ⟨slashes, names ++ [name]⟩ = .ok place) :
    f.find ⟨slashes, names⟩ = .ok .directory := by
  obtain ⟨sound, led⟩ := place_eq_ok_iff.mp led
  obtain ⟨inner, led, there⟩ := follow_above some_name led
  exact find_eq_ok_iff.mpr ⟨inner, place_eq_ok_iff.mpr ⟨FilePath.fault?_above some_name sound, led⟩, there⟩

theorem fault?_ne_missing (p : FilePath) (text : String) : p.fault? ≠ some (.file .missing text) := by
  unfold FilePath.fault?
  dsimp only
  split
  · simp
  · split
    · simp
    · split <;> simp

theorem makeDirectory_ne_missing (f : Files) (slashes : Nat) (name text : String) :
    f.makeDirectory ⟨slashes, [name]⟩ ≠ .error (.file .missing text) := by
  intro missing
  rcases error_of_bind missing with unled | ⟨place, _, refused⟩
  · unfold Files.place at unled
    split at unled
    case h_1 fault faulty =>
      cases unled
      exact fault?_ne_missing _ _ faulty
    case h_2 =>
      unfold follow below at unled
      split at unled
      · cases unled
      · split at unled <;> cases unled
  · split at refused <;> cases refused

theorem refused_of_unled (unled : f.place p = .error fault) :
    f.makeDirectory p = .error fault ∧ f.find p ≠ .ok .directory := by
  refine ⟨by simp only [makeDirectory, unled, bind, Except.bind], fun found => ?_⟩
  obtain ⟨place, led, _⟩ := find_eq_ok_iff.mp found
  rw [unled] at led
  cases led

theorem makeAll_again {above : List String}
    (stuck : (∃ fault, f.makeAll slashes above = (.error fault, f)) ∨ f.makeAll slashes above = (.ok (), f))
    (refused : f.makeDirectory ⟨slashes, (name :: above).reverse⟩ = .error fault)
    (absent : f.find ⟨slashes, (name :: above).reverse⟩ ≠ .ok .directory) :
    ∃ fault, f.makeAll slashes (name :: above) = (.error fault, f) := by
  obtain ⟨left, accepted⟩ := accept_of_error fault absent
  unfold makeAll
  dsimp only
  rw [refused]
  split
  case h_1 =>
    rcases stuck with ⟨fault, stuck⟩ | made
    · rw [stuck]
      exact ⟨fault, rfl⟩
    · rw [made]
      dsimp only
      rw [refused]
      exact ⟨left, accepted⟩
  case h_2 => exact ⟨left, accepted⟩

/-- Where directories cannot be made, what has been made of them stays, and no more is made of them later. -/
theorem makeAll_eq_error (failed : f.makeAll slashes names = (.error fault, g)) :
    (∃ fault, g.makeAll slashes names = (.error fault, g)) ∧ g.find ⟨slashes, names.reverse⟩ ≠ .ok .directory := by
  induction names generalizing f g fault with
  | nil =>
      obtain ⟨rfl, _, absent⟩ := accept_eq_error failed
      exact ⟨⟨fault, failed⟩, absent⟩
  | cons name above ih =>
      have whole := failed
      unfold makeAll at failed
      dsimp only at failed
      split at failed
      case h_1 text missing =>
        split at failed
        case h_1 refusal after blocked =>
          cases failed
          obtain ⟨again, nowhere⟩ := ih blocked
          have some_name : above.reverse ≠ [] := by
            intro alone
            rw [List.reverse_eq_nil_iff] at alone
            subst alone
            exact makeDirectory_ne_missing f slashes name text missing
          -- Nothing is found below what is no directory.
          cases led : g.place ⟨slashes, (name :: above).reverse⟩ with
          | ok place =>
              rw [List.reverse_cons] at led
              exact absurd (find_above some_name led) nowhere
          | error unled =>
              obtain ⟨refused, absent⟩ := refused_of_unled led
              exact ⟨makeAll_again (.inl again) refused absent, absent⟩
        case h_2 after made =>
          obtain ⟨rfl, ⟨refusal, refused⟩, absent⟩ := accept_eq_error failed
          have both (f : Files) : f.makeDirectories ⟨slashes, above.reverse⟩ = f.makeAll slashes above := by
            rw [makeDirectories, List.reverse_reverse]
          rw [← both] at made
          have there := makeDirectories_of_there (find_of_makeDirectories made)
          rw [both] at there
          exact ⟨makeAll_again (.inr there) refused absent, absent⟩
      case h_2 =>
        obtain ⟨rfl, _, absent⟩ := accept_eq_error failed
        exact ⟨⟨fault, whole⟩, absent⟩

theorem makeDirectories_again (failed : f.makeDirectories p = (.error fault, g)) :
    ∃ fault, g.makeDirectories p = (.error fault, g) :=
  (makeAll_eq_error failed).1

end Failing

section Changes
variable {source target : FilePath}

theorem write_eq_ok_iff : f.write p bytes = .ok g ↔
    ∃ place, f.place p = .ok place ∧ f.node? place ≠ some .directory ∧ f.put place (.file bytes) = g := by
  constructor
  · intro written
    obtain ⟨place, led, written⟩ := ok_of_bind written
    refine ⟨place, led, ?_⟩
    split at written
    case h_1 => cases written
    case h_2 plain =>
      cases written
      exact ⟨plain, rfl⟩
  · rintro ⟨place, led, plain, rfl⟩
    simp only [write, led, bind, Except.bind]
    rfl

theorem move_eq_ok_iff : f.move source target = .ok g ↔
    ∃ left taken node, f.place source = .ok left ∧ f.place target = .ok taken ∧ f.node? left = some node ∧
      target.endsUpwards = false ∧ f.node? taken ≠ some .directory ∧ (f.erase left).put taken node = g := by
  have plain_iff (place : Place) :
      (f.node? place).any Node.isDirectory = false ↔ f.node? place ≠ some .directory := by
    cases f.node? place with
    | none => simp
    | some node => cases node <;> simp [Node.isDirectory]
  constructor
  · intro moved
    obtain ⟨left, led, moved⟩ := ok_of_bind moved
    obtain ⟨taken, led', moved⟩ := ok_of_bind moved
    cases there : f.node? left with
    | none =>
        rw [there] at moved
        cases moved
    | some node =>
        rw [there] at moved
        dsimp only at moved
        cases upwards : target.endsUpwards with
        | true =>
            rw [upwards] at moved
            cases moved
        | false =>
            cases occupied : (f.node? taken).any Node.isDirectory with
            | true =>
                rw [upwards, occupied] at moved
                cases moved
            | false =>
                rw [upwards, occupied] at moved
                cases moved
                exact ⟨left, taken, node, led, led', there, rfl, (plain_iff taken).mp occupied, rfl⟩
  · rintro ⟨left, taken, node, led, led', there, upwards, plain, rfl⟩
    simp only [move, led, led', there, upwards, (plain_iff taken).mpr plain, bind, Except.bind]
    rfl

end Changes

end PodAddressing.Files
