import PodAddressing.Proofs.Agent.Lifetime
import PodAddressing.Proofs.Allocator.Departure
import PodAddressing.Proofs.Allocator.Restart
/-!
The record file and the allocator. An operation that has changed the records answers with some, and whoever is
answered with records saves; so after every event the file has the records of the allocator, whatever failed.
-/

namespace PodAddressing

namespace Allocator
variable {a : Allocator} {stray : List Spot}

section Telling

/-- Whether an operation that has changed the records has answered with some. -/
def Tells (a : Allocator) (outcome : Outcome (List Record)) : Prop :=
  outcome.2.records.Perm a.records ∨ ∃ records, outcome.1 = .ok records ∧ records ≠ []

theorem tells_allocate (valid : Consistent a) (w : Identity) (c : Criteria)
    (eligible : Option (List String)) : a.Tells (a.allocate w c eligible) := by
  have outcome := allocate_cases a w c eligible
  generalize a.allocate w c eligible = result at outcome
  cases outcome with
  | kept had some_record => exact .inr ⟨_, rfl, some_record⟩
  | refused fault => exact .inl (.refl _)
  | failed index fresh frame =>
      left
      rw [frame.records]
      exact .refl _
  | rebound named had stateful vacant retained fits =>
      have some_record := (valid.kept _ _ retained).1
      exact .inr ⟨_, rfl, by simpa using some_record⟩
  | fresh named had stateful vacant unretained some_family given frame =>
      refine .inr ⟨_, rfl, ?_⟩
      rintro rfl
      exact some_family (allocateFresh_records given).1.symm

theorem tells_release (valid : Consistent a) (alike : Alike OneKey a) (accounts : Accounts a stray)
    (w : Identity) : a.Tells (a.release w) := by
  have outcome := release_cases a w
  generalize a.release w = result at outcome
  cases outcome with
  | refused fault no_bytes => exact .inl (.refl _)
  | idle none_had =>
      left
      rw [Table.erase_of_absent (valid.recordsFor_eq_nil none_had)]
  | freed some_record ends bytes =>
      obtain ⟨a', done, _⟩ :=
        booked_freeAll (a := a.without w) (accounts.split (records_without valid some_record))
      rw [freed, done]
      exact .inr ⟨_, rfl, some_record⟩
  | retained some_record stays known vacant => exact .inr ⟨_, rfl, by simpa using some_record⟩
  -- What a pod has is of one ordinal, and an ordinal that a pod has retains nothing.
  | clashed answer some_record known occupied stays =>
      rw [vacant_of_known valid some_record known] at occupied
      cases occupied
  | lost fault some_record stateful mixed bytes stays =>
      exact absurd (loses_of_mixed bytes stays some_record stateful mixed) (not_loses_of_alike valid alike w)

theorem tells_purgeOwner (accounts : Accounts a stray) (ns : String) (owner : Owner) (keep : Option Int) :
    a.Tells (a.purgeOwner ns owner keep) := by
  let noted : Allocator := { a with
    limits := a.limits.put (ownerName ns owner) ⟨owner.uid, keep.getD 0⟩
    retention := (a.retention.purgeOwner ns owner keep).2 }
  have parted : a.records.Perm ((a.retention.purgeOwner ns owner keep).1 ++ noted.records) :=
    records_filter_groups a (Retention.isPurged ns owner keep)
  obtain ⟨a', done, _⟩ := booked_freeAll (a := noted) (accounts.split parted)
  have frame := freeAll_frame noted (a.retention.purgeOwner ns owner keep).1
  rw [done] at frame
  change a.Tells (noted.freed (a.retention.purgeOwner ns owner keep).1)
  rw [freed, done]
  by_cases nothing : (a.retention.purgeOwner ns owner keep).1 = []
  · left
    rw [nothing, List.nil_append] at parted
    rw [frame.records]
    exact parted.symm
  · exact .inr ⟨_, rfl, nothing⟩

end Telling

section Sound

/-- All that keeps an allocator from failing half way, and its records from being unreadable. -/
structure Sound (a : Allocator) : Prop where
  consistent : Consistent a
  one_key : Alike OneKey a
  accounts : ∃ stray, Accounts a stray
  registered : Registered a.pools
  short : ∀ r ∈ a.records, r.IsShort

theorem sound_apply (sound : Sound a) (op : Op) (brought : op.rebuilt = []) : Sound (a.apply op).2 := by
  obtain ⟨stray, accounts⟩ := sound.accounts
  exact {
    consistent := consistent_apply sound.consistent op
    one_key := alike_apply (fun _ _ => .of_key) sound.consistent sound.one_key (brought ▸ alikePerPod_nil)
    accounts := ⟨_, accounts_apply sound.consistent accounts op⟩
    registered := registered_apply sound.registered op
    short := short_apply sound.consistent sound.short (brought ▸ List.forall_mem_nil _) }

theorem sound_of_run (start : Started a) (ops : List Op) (unused : (a.run ops).records = []) : Sound (a.run ops) := by
  obtain ⟨valid, accounts⟩ := accounts_of_run start ops
  have nobody (r : Record) : r ∉ (a.run ops).records := by
    rw [unused]
    exact List.not_mem_nil
  exact {
    consistent := valid
    one_key := fun uid group found r member => absurd (valid.mem_records found member) (nobody r)
    accounts
    registered := registered_of_reachable (reachable_run (reachable_of_started start) ops)
    short := fun r member => absurd member (nobody r) }

end Sound
end Allocator

/-- The record file has the records of the allocator, as they are read back, and further ones can be saved. -/
structure Site.Mirrors (path : FilePath) (s : Site) : Prop where
  loaded : ∃ records, RecordFile.load s.files path = .ok records ∧
    records.Perm (s.allocator.records.map Record.rejoined)
  writable : RecordFile.Writable s.files path
  sound : s.allocator.Sound

namespace Site.Mirrors
variable {path : FilePath} {s : Site}

/-- Records that have been saved are in the file, whatever it had before. -/
theorem given (writable : RecordFile.Writable s.files path) (sound : s.allocator.Sound) :
    Mirrors path ((Notice.save path).give s).2 where
  loaded := ⟨_, RecordFile.load_of_save sound.short (writable _), (List.mergeSort_perm _ _).map _⟩
  writable := RecordFile.writable_after_save writable _
  sound := sound

/-- An operation that answers with no records leaves the file right, and no operation harms it. -/
theorem operated (mirrors : Mirrors path s) {op : Allocator → Allocator.Outcome (List Record)}
    (sound : (op s.allocator).2.Sound) (tells : s.allocator.Tells (op s.allocator))
    {answer : Except Fault (List Record)} {s' : Site} (done : s.withAllocator op = (answer, s')) :
    RecordFile.Writable s'.files path ∧ s'.allocator.Sound ∧
      (Mirrors path s' ∨ ∃ records, answer = .ok records ∧ records ≠ []) := by
  cases done
  refine ⟨mirrors.writable, sound, ?_⟩
  rcases tells with same | answered
  · left
    obtain ⟨records, loaded, alike⟩ := mirrors.loaded
    exact ⟨⟨records, loaded, alike.trans (same.symm.map _)⟩, mirrors.writable, sound⟩
  · exact .inr answered

theorem answered (mirrors : Mirrors path s) {op : Allocator → Allocator.Outcome (List Record)}
    (sound : (op s.allocator).2.Sound) (tells : s.allocator.Tells (op s.allocator)) :
    Mirrors path (match s.withAllocator op with
      | (.error fault, s) => ((.error fault, s) : Site.Outcome Unit)
      | (.ok records, s) => (Notice.save path).giveOf s records).2 := by
  split
  case h_1 done =>
    obtain ⟨_, _, right | ⟨records, answer, _⟩⟩ := mirrors.operated sound tells done
    · exact right
    · cases answer
  case h_2 records s' done =>
    obtain ⟨writable, sound, kept⟩ := mirrors.operated sound tells done
    unfold Notice.giveOf
    split
    case isTrue nothing =>
      rcases kept with right | ⟨others, answer, some_record⟩
      · exact right
      · cases answer
        exact absurd (List.isEmpty_iff.mp nothing) some_record
    case isFalse => exact given writable sound

section Handlers

theorem purged (mirrors : Mirrors path s) (set : StatefulSet) (keep : Option Int) :
    Mirrors path (set.purged (.save path) s keep).2 := by
  obtain ⟨stray, accounts⟩ := mirrors.sound.accounts
  have sound := Allocator.sound_apply mirrors.sound (.purgeOwner set.ns set.reference keep) rfl
  exact mirrors.answered sound (Allocator.tells_purgeOwner accounts _ _ _)

theorem deleted (mirrors : Mirrors path s) (checks : Option Checks) (p : Pod) :
    Mirrors path (PodHandler.deleted ⟨checks, .save path⟩ s p).2 := by
  obtain ⟨stray, accounts⟩ := mirrors.sound.accounts
  have sound := Allocator.sound_apply mirrors.sound (.release p.identity) rfl
  exact mirrors.answered sound
    (Allocator.tells_release mirrors.sound.consistent mirrors.sound.one_key accounts _)

theorem ensured (mirrors : Mirrors path s) (checks : Option Checks) (p : Pod) :
    Mirrors path (PodHandler.ensured ⟨checks, .save path⟩ s p).2 := by
  change Mirrors path (PodHandler.ensure ⟨checks, .save path⟩ s p).2
  unfold PodHandler.ensure
  split
  · exact mirrors
  · have sound := Allocator.sound_apply mirrors.sound (.allocate p.identity p.criteria p.subnets) rfl
    have tells := Allocator.tells_allocate mirrors.sound.consistent p.identity p.criteria p.subnets
    split
    case h_1 done =>
      obtain ⟨_, _, right | ⟨records, answer, _⟩⟩ := mirrors.operated sound tells done
      · exact right
      · cases answer
    case h_2 records s' done =>
      obtain ⟨writable, sound, _⟩ := mirrors.operated sound tells done
      have saved := given writable sound
      split
      case h_1 failed =>
        change (Notice.save path).give s' = _ at failed
        rw [failed] at saved
        exact saved
      case h_2 s'' noticed =>
        change (Notice.save path).give s' = _ at noticed
        rw [noticed] at saved
        obtain ⟨sent, same⟩ := PodHandler.activate_frame ⟨checks, .save path⟩ s'' p records
        change Mirrors path (PodHandler.activate ⟨checks, .save path⟩ s'' p records).2
        rw [same]
        exact ⟨saved.loaded, saved.writable, saved.sound⟩

theorem updated (mirrors : Mirrors path s) (checks : Option Checks) (old new : Pod) :
    Mirrors path (PodHandler.updated ⟨checks, .save path⟩ s old new).2 := by
  have outcome := PodHandler.updated_cases ⟨checks, .save path⟩ s old new
  generalize PodHandler.updated ⟨checks, .save path⟩ s old new = result at outcome
  cases outcome with
  | kept same => exact mirrors
  | scheduled same => exact mirrors.ensured checks new
  | left other => exact mirrors.deleted checks old
  | renewed other done => exact (mirrors.deleted checks old).ensured checks new

end Handlers
end Site.Mirrors

def Handler.Saves (path : FilePath) : Handler → Prop
  | .pod h => h.notice = .save path
  | .statefulSet notice => notice = .save path
  | _ => True

theorem Site.Mirrors.handled {path : FilePath} {s : Site} (mirrors : s.Mirrors path) {handler : Handler}
    (saves : handler.Saves path) (change : Change Snapshot) : (handler.handle s change).2.Mirrors path := by
  have requested (key : String) (needed : Bool) : (s.request key needed).2.Mirrors path := by
    cases needed <;> exact ⟨mirrors.loaded, mirrors.writable, mirrors.sound⟩
  unfold Handler.handle
  split
  case h_1 h p =>
    obtain ⟨checks, _⟩ := h
    cases saves
    exact mirrors.ensured checks p
  case h_2 h old new =>
    obtain ⟨checks, _⟩ := h
    cases saves
    exact mirrors.updated checks old new
  case h_3 h p =>
    obtain ⟨checks, _⟩ := h
    cases saves
    exact mirrors.deleted checks p
  case h_4 notice set =>
    cases saves
    exact mirrors.purged set _
  case h_5 notice old new =>
    cases saves
    unfold StatefulSet.updated
    split
    · exact mirrors
    · exact mirrors.purged new _
  case h_6 notice set =>
    cases saves
    exact mirrors.purged set _
  case h_13 => exact mirrors
  all_goals exact requested _ _

namespace Agent
variable {a : Agent} {settings : Settings} {path : FilePath}

def onSegment (a : Agent) (segment : Segment) : Agent := { a with site := { a.site with segment } }

def handleAll (a : Agent) (events : List (Segment × Event Snapshot)) : Agent :=
  events.foldl (fun a e => ((a.onSegment e.1).handle e.2).2) a

theorem saves_handlersWith (saves : settings.recordsPath = some path) :
    ∀ entry ∈ handlersWith settings (podHandler settings), entry.2.Saves path := by
  have noticed : notice settings = .save path := by rw [notice, saves, Option.elim_some]
  simp [handlersWith, podHandler, Handler.Saves, noticed]

theorem mirrors_handle (mirrors : a.site.Mirrors path) (saves : ∀ entry ∈ a.handlers, entry.2.Saves path)
    (segment : Segment) (e : Event Snapshot) :
    ((a.onSegment segment).handle e).2.site.Mirrors path ∧
      ((a.onSegment segment).handle e).2.handlers = a.handlers := by
  have moved : (a.onSegment segment).site.Mirrors path := ⟨mirrors.loaded, mirrors.writable, mirrors.sound⟩
  unfold handle
  split
  case h_1 => exact ⟨moved, rfl⟩
  case h_2 => exact ⟨moved, rfl⟩
  case h_3 handler change routed =>
    refine ⟨?_, rfl⟩
    unfold Registry.route at routed
    split at routed
    case h_1 => cases routed
    case h_2 known present =>
      cases routed
      exact moved.handled (saves _ (Table.mem_of_get? known)) change
    case h_3 => cases routed

theorem mirrors_handleAll (mirrors : a.site.Mirrors path) (saves : ∀ entry ∈ a.handlers, entry.2.Saves path)
    (events : List (Segment × Event Snapshot)) : (a.handleAll events).site.Mirrors path := by
  induction events generalizing a with
  | nil => exact mirrors
  | cons e rest ih =>
      obtain ⟨after, same⟩ := mirrors_handle mirrors saves e.1 e.2
      exact ih after (same ▸ saves)

/-- An agent that starts without records and without a record file, and can write one, has all its records in the
file after every event, whether the event was handled or failed and whatever the network did. They are there as they are
if none has a text that the file alters, and only then. -/
theorem records_mirrored {b : Allocator} (start : Allocator.Started b) (ops : List Allocator.Op)
    (reached : a.site.allocator = b.run ops) (unused : a.site.allocator.records = [])
    (wired : a.handlers = handlersWith settings (podHandler settings))
    (saves : settings.recordsPath = some path) (absent : a.site.files.content? path = .ok none)
    (writable : RecordFile.Writable a.site.files path) (events : List (Segment × Event Snapshot)) :
    ∃ loaded, RecordFile.load (a.handleAll events).site.files path = .ok loaded ∧
      loaded.Perm ((a.handleAll events).site.allocator.records.map Record.rejoined) ∧
      (loaded.Perm (a.handleAll events).site.allocator.records ↔
        ∀ r ∈ (a.handleAll events).site.allocator.records, r.IsWhole) := by
  have sound : a.site.allocator.Sound := by
    rw [reached] at unused ⊢
    exact Allocator.sound_of_run start ops unused
  have mirrors : a.site.Mirrors path := {
    loaded := ⟨[], RecordFile.load_of_absent absent, by rw [unused, List.map_nil]⟩
    writable
    sound }
  have saves : ∀ entry ∈ a.handlers, entry.2.Saves path := wired ▸ saves_handlersWith saves
  obtain ⟨loaded, answer, alike⟩ := (mirrors_handleAll mirrors saves events).loaded
  refine ⟨loaded, answer, alike, ?_⟩
  rw [← Record.rejoined_perm_iff]
  exact ⟨fun same => alike.symm.trans same, fun same => alike.trans same⟩

section Sample

def recordsPath : FilePath := ⟨1, ["var", "lib", "records.json"]⟩

def savingSettings : Settings := { checkedSettings with recordsPath := some recordsPath }

def savingAgent : Agent where
  handlers := handlersWith savingSettings (podHandler savingSettings)
  site := { allocator := gated, files := {}, segment := .isolated }

def setPod : Pod :=
  { listedPod with name := "db-0", uid := "u2", owner := some ⟨"StatefulSet", "db", "set-1"⟩ }

/-- One creation fails since the gateway does not answer, and one since the ordinal is still held. -/
def troubled : List (Segment × Event Snapshot) :=
  let answering : Segment := .ofNeighbours [("10.0.0.1", "02:00:00:00:00:63")]
  [(.isolated, ⟨"Pod", some (.created (.pod listedPod))⟩),
    (answering, ⟨"Pod", some (.created (.pod setPod))⟩),
    (answering, ⟨"Pod", some (.created (.pod { setPod with uid := "u3" }))⟩),
    (answering, ⟨"StatefulSet", some (.created (.statefulSet ⟨"shop", "db", "set-1", 1⟩))⟩),
    (.isolated, ⟨"Pod", some (.deleted (.pod setPod))⟩)]

theorem troubled_mirrored :
    (savingAgent.handle ⟨"Pod", some (.created (.pod listedPod))⟩).1.isOk = false ∧
    (savingAgent.handleAll troubled).site.allocator.records.map (·.address) = ["10.0.0.2", "10.0.0.3"] ∧
      ∃ records, RecordFile.load (savingAgent.handleAll troubled).site.files recordsPath = .ok records ∧
        records.Perm (savingAgent.handleAll troubled).site.allocator.records := by
  have saved : (RecordFile.save savingAgent.site.files recordsPath []).1 = .ok () := by decide +kernel
  have whole : ∀ r ∈ (savingAgent.handleAll troubled).site.allocator.records, r.IsWhole := by decide +kernel
  obtain ⟨loaded, answer, _, same⟩ := records_mirrored gated_started [] rfl (by decide +kernel) rfl rfl rfl
    (RecordFile.writable_of_save saved) troubled
  exact ⟨by decide +kernel, by decide +kernel, loaded, answer, same.mpr whole⟩

/-- An agent whose only subnet is named by two halves that a record file joins. -/
def splitAllocator : Allocator :=
  (Allocator.create Allocator.sampleMacs [Allocator.sampleNetwork]
    [{ name := RecordFile.splitText, network := "pods", cidr := "10.0.1.0/30" }]).toOption.getD
      { macs := Allocator.sampleMacs }

def splitAgent : Agent := { savingAgent with site := { savingAgent.site with allocator := splitAllocator } }

def splitEvents : List (Segment × Event Snapshot) := [(.isolated, ⟨"Pod", some (.created (.pod listedPod))⟩)]

theorem split_not_mirrored :
    splitAgent.site.allocator.records = [] ∧ splitAgent.site.files.content? recordsPath = .ok none ∧
      RecordFile.Writable splitAgent.site.files recordsPath ∧
      ∃ loaded, RecordFile.load (splitAgent.handleAll splitEvents).site.files recordsPath = .ok loaded ∧
        ¬ loaded.Perm (splitAgent.handleAll splitEvents).site.allocator.records := by
  have started : Allocator.Started splitAllocator := Allocator.started_of_made (by decide +kernel) _
  have saved : (RecordFile.save splitAgent.site.files recordsPath []).1 = .ok () := by decide +kernel
  have unused : splitAgent.site.allocator.records = [] := by decide +kernel
  have broken : ¬ ∀ r ∈ (splitAgent.handleAll splitEvents).site.allocator.records, r.IsWhole := by decide +kernel
  have writable := RecordFile.writable_of_save saved
  have sound : splitAgent.site.allocator.Sound := Allocator.sound_of_run started [] unused
  have mirrors : splitAgent.site.Mirrors recordsPath := {
    loaded := ⟨[], RecordFile.load_of_absent rfl, by rw [unused, List.map_nil]⟩
    writable
    sound }
  obtain ⟨loaded, answer, alike⟩ := (mirrors_handleAll mirrors (saves_handlersWith rfl) splitEvents).loaded
  refine ⟨unused, rfl, writable, loaded, answer, fun same => broken ?_⟩
  exact Record.rejoined_perm_iff.mp (alike.symm.trans same)

end Sample

end Agent
end PodAddressing
