import PodAddressing.Agent.Basic
import PodAddressing.Proofs.Agent.Tracking
import PodAddressing.Proofs.Watch.Deliveries
/-!
Polls of an agent. A poll compares what a file lists with what its watcher knows; a file that lists nothing
changes nothing. Between two polls the files and the network may become anything.
-/

namespace PodAddressing

section Watching
open Watcher

def WatchedFile.listing (w : WatchedFile) (files : Files) : Except Fault (Option Known) := do
  let content ← files.content? w.path
  Listing.ofFile w.kind content

theorem WatchedFile.unique_listing {w : WatchedFile} {files : Files} {desired : Known}
    (listed : w.listing files = .ok (some desired)) : desired.Unique := by
  obtain ⟨_, _, read⟩ := ok_of_bind listed
  exact Listing.unique_ofFile read

def WatchedFile.listed? (w : WatchedFile) (files : Files) : Option Known := (w.listing files).toOption.join

theorem WatchedFile.listed?_eq_some_iff {w : WatchedFile} {files : Files} {desired : Known} :
    w.listed? files = some desired ↔ w.listing files = .ok (some desired) := by
  unfold listed?
  cases w.listing files with
  | error fault => simp [Except.toOption]
  | ok listed => simp [Except.toOption]

theorem WatchedFile.listed?_of_unlisted {w : WatchedFile} {files : Files}
    (unlisted : ∀ desired, w.listing files ≠ .ok (some desired)) : w.listed? files = none :=
  Option.eq_none_iff_forall_ne_some.mpr fun desired listed => unlisted desired (listed?_eq_some_iff.mp listed)

/-- What an agent meets when it looks at a file: the files as they are then, and the network. -/
structure Scene where
  files : Files
  segment : Segment

namespace Agent
variable {a : Agent} {index : Nat} {w : WatchedFile} {known : Known}

def facing (a : Agent) (scene : Scene) : Agent :=
  { a with site := { a.site with files := scene.files, segment := scene.segment } }

def after (a : Agent) (index : Nat) (scenes : List Scene) : Agent :=
  scenes.foldl (fun a scene => ((a.facing scene).poll index).2) a

def dispatched (a : Agent) (index : Nat) : Log :=
  match a.watched[index]? with
  | none => []
  | some w =>
      match w.listing a.site.files with
      | .ok (some desired) =>
          (compare (recorded (dispatch a.handlers w.kind)) desired w.known (a.site, [])).2.2
      | _ => []

def logOf (a : Agent) (index : Nat) : List Scene → Log
  | [] => []
  | scene :: rest =>
      (a.facing scene).dispatched index ++ ((a.facing scene).poll index).2.logOf index rest

theorem pollFile_eq (a : Agent) (w : WatchedFile) :
    a.pollFile w = (w.listing a.site.files).map fun listed =>
      match listed with
      | none => (w, a.site)
      | some desired =>
          let (known, site) := compare (dispatch a.handlers w.kind) desired w.known a.site
          ({ w with known }, site) := by
  unfold pollFile WatchedFile.listing Watcher.poll Watcher.pollIn
  cases a.site.files.content? w.path with
  | error fault => rfl
  | ok content =>
      simp only [bind, Except.bind]
      cases Listing.ofFile w.kind content with
      | error fault => rfl
      | ok listed => cases listed <;> rfl

theorem poll_of_listed (watches : a.watched[index]? = some w) {desired : Known}
    (listed : w.listing a.site.files = .ok (some desired)) :
    let (known, site) := compare (dispatch a.handlers w.kind) desired w.known a.site
    (a.poll index).2 = { a with watched := a.watched.set index { w with known }, site } := by
  simp only [poll, watches, pollFile_eq, listed]
  rfl

theorem poll_of_unlisted (watches : a.watched[index]? = some w)
    (unlisted : ∀ desired, w.listing a.site.files ≠ .ok (some desired)) : (a.poll index).2 = a := by
  simp only [poll, watches, pollFile_eq]
  cases read : w.listing a.site.files with
  | error fault => rfl
  | ok listed =>
      cases listed with
      | some desired => exact absurd read (unlisted desired)
      | none =>
          obtain ⟨within, same⟩ := List.getElem?_eq_some_iff.mp watches
          subst same
          simp [Except.map]

theorem dispatched_of_listed (watches : a.watched[index]? = some w) {desired : Known}
    (listed : w.listing a.site.files = .ok (some desired)) :
    a.dispatched index =
      (compare (recorded (dispatch a.handlers w.kind)) desired w.known (a.site, [])).2.2 := by
  simp only [dispatched, watches, listed]

theorem dispatched_of_unlisted (watches : a.watched[index]? = some w)
    (unlisted : ∀ desired, w.listing a.site.files ≠ .ok (some desired)) : a.dispatched index = [] := by
  simp only [dispatched, watches]

end Agent
end Watching

/-!
How long pods keep their addresses. A pod whose creation failed is not known, so nothing is noticed when it is
taken out of the file, and the records that were allocated for it stay.
-/

variable {uid : String}

namespace Allocator
variable {a : Allocator}

def Binds (a : Allocator) (uid : String) : Prop :=
  ∃ r ∈ a.active.values.flatten, r.binding.podUID = uid

instance (a : Allocator) (uid : String) : Decidable (a.Binds uid) :=
  inferInstanceAs (Decidable (∃ r ∈ a.active.values.flatten, r.binding.podUID = uid))

theorem binds_iff (valid : Consistent a) : a.Binds uid ↔ a.active.get? uid ≠ none := by
  constructor
  · rintro ⟨r, member, rfl⟩
    obtain ⟨uid, group, found, own⟩ := (Table.mem_members valid.active_unique).mp member
    rw [(valid.bound uid group found).2.2 r own, found]
    exact Option.some_ne_none group
  · intro present
    obtain ⟨group, found⟩ := Option.ne_none_iff_exists'.mp present
    obtain ⟨_, some_record, own⟩ := valid.bound uid group found
    obtain ⟨r, member⟩ := List.exists_mem_of_ne_nil group some_record
    exact ⟨r, (Table.mem_members valid.active_unique).mpr ⟨uid, group, found, member⟩, own r member⟩

end Allocator

namespace Agent
open Watcher

variable {a : Agent} {index : Nat} {w : WatchedFile} {known : Known}

/-- What holds of an agent that watches a file of pods, and of a pod that stands under one key there. -/
structure Follows (settings : Settings) (h : PodHandler) (index : Nat) (w : WatchedFile)
    (place uid : String) (a : Agent) (known : Known) (log : Log) : Prop where
  wired : a.handlers = handlersWith settings h
  watches : a.watched[index]? = some { w with known }
  unique : known.Unique
  tracked : Tracked place uid known a.site.allocator log

variable {settings : Settings} {h : PodHandler} {place uid : String} {log : Log}

/-- A pod stands under one key, if a file lists it at all. -/
def ListsAt (place uid : String) (w : WatchedFile) (files : Files) : Prop :=
  ∀ desired, w.listing files = .ok (some desired) → Sole place uid desired

theorem Follows.poll_of_listed (follows : Follows settings h index w place uid a known log)
    (kind : w.kind = .pod) {desired : Known} (listed : w.listing a.site.files = .ok (some desired)) :
    (a.poll index).2 = { a with
        watched := a.watched.set index { w with
          known := (compare (dispatch (handlersWith settings h) .pod) desired known a.site).1 }
        site := (compare (dispatch (handlersWith settings h) .pod) desired known a.site).2 } ∧
      a.dispatched index =
        (compare (recorded (dispatch (handlersWith settings h) .pod)) desired known (a.site, [])).2.2 := by
  have pods : dispatch a.handlers w.kind = dispatch (handlersWith settings h) .pod := by
    rw [follows.wired, kind]
  rw [← pods]
  exact ⟨Agent.poll_of_listed follows.watches listed, dispatched_of_listed follows.watches listed⟩

theorem Follows.poll (follows : Follows settings h index w place uid a known log)
    (kind : w.kind = .pod) (listed : ListsAt place uid w a.site.files) :
    ∃ known', Follows settings h index w place uid (a.poll index).2 known' (log ++ a.dispatched index) := by
  by_cases lists : ∃ desired, w.listing a.site.files = .ok (some desired)
  · obtain ⟨desired, lists⟩ := lists
    obtain ⟨after, noted⟩ := follows.poll_of_listed kind lists
    have kept := follows.tracked.compare settings h follows.unique (listed desired lists)
    rw [compare_recorded_eq] at kept
    rw [noted, after]
    refine ⟨_, follows.wired, ?_, kept.1, kept.2⟩
    exact List.getElem?_set_self (List.getElem?_eq_some_iff.mp follows.watches).1
  · rw [not_exists] at lists
    rw [poll_of_unlisted follows.watches lists, dispatched_of_unlisted follows.watches lists,
      List.append_nil]
    exact ⟨known, follows⟩

theorem Follows.facing (follows : Follows settings h index w place uid a known log) (scene : Scene) :
    Follows settings h index w place uid (a.facing scene) known log :=
  ⟨follows.wired, follows.watches, follows.unique, follows.tracked⟩

theorem Follows.after (follows : Follows settings h index w place uid a known log)
    (kind : w.kind = .pod) {scenes : List Scene}
    (listed : ∀ scene ∈ scenes, ListsAt place uid w scene.files) :
    ∃ known', Follows settings h index w place uid (a.after index scenes) known'
      (log ++ a.logOf index scenes) := by
  induction scenes generalizing a known log with
  | nil =>
      rw [logOf, List.append_nil]
      exact ⟨known, follows⟩
  | cons scene rest ih =>
      obtain ⟨first, others⟩ := List.forall_mem_cons.mp listed
      obtain ⟨known', polled⟩ := (follows.facing scene).poll kind first
      rw [logOf, ← List.append_assoc]
      exact ih polled others

theorem Follows.start (place uid : String) (wired : a.handlers = handlersWith settings h)
    (watches : a.watched[index]? = some w) (unseen : w.known = [])
    (valid : a.site.allocator.Consistent) : Follows settings h index w place uid a [] [] where
  wired := wired
  watches := by
    rw [watches, ← unseen]
  unique := List.nodup_nil
  tracked := {
    valid
    alone := by simp [Sole]
    brought := by simp [Knows]
    held := by simp [Log.brought] }

/-- A poll that is faultless and does not list a pod leaves it with records just if it had some without being
known. -/
theorem Follows.outlived_iff (follows : Follows settings h index w place uid a known log)
    (kind : w.kind = .pod) {desired : Known} (listed : w.listing a.site.files = .ok (some desired))
    (gone : Absent uid desired)
    (faultless : (a.dispatched index).Faultless) :
    (a.poll index).2.site.allocator.Binds uid ↔
      a.site.allocator.Binds uid ∧ log.brought uid = false := by
  obtain ⟨polled, noted⟩ := follows.poll_of_listed kind listed
  rw [noted] at faultless
  have nowhere : Sole place uid desired := by
    intro entry member own
    rw [gone entry member] at own
    cases own
  obtain ⟨_, tracked⟩ := follows.tracked.compare settings h follows.unique nowhere
  have brought := brought_of_unlisted (dispatch (handlersWith settings h) .pod) follows.unique gone
    a.site log
  rw [compare_recorded_eq] at tracked brought
  rw [polled, Allocator.binds_iff tracked.valid, Allocator.binds_iff follows.tracked.valid]
  constructor
  · intro present
    refine ⟨active_of_unlisted settings h follows.unique gone a.site present, ?_⟩
    by_contra failed
    -- What is known now is listed, so a pod that was brought would be listed too.
    obtain ⟨key, obj, known_now, own⟩ :=
      tracked.held present (brought.trans (by simpa using failed))
    rw [known_of_faultless follows.unique (WatchedFile.unique_listing listed) faultless] at known_now
    have absent := gone _ (Table.mem_of_get? known_now)
    rw [own] at absent
    cases absent
  · rintro ⟨present, failed⟩
    have unknown : ¬ Knows known uid := by
      intro knows
      rw [follows.tracked.brought knows] at failed
      cases failed
    rw [active_of_unknown settings h follows.unique gone unknown a.site]
    exact present

/-- The records of a pod that was taken out of the file stay if the last change that brought it failed, and only
then. -/
theorem outlives_iff {b : Allocator} (start : Allocator.Started b) (ops : List Allocator.Op)
    (reached : a.site.allocator = b.run ops) (wired : a.handlers = handlersWith settings h)
    (watches : a.watched[index]? = some w) (kind : w.kind = .pod) (unseen : w.known = [])
    {scenes : List Scene} (one_key : ∀ scene ∈ scenes, ListsAt place uid w scene.files)
    {last : Scene} {desired : Known} (listed : w.listing last.files = .ok (some desired))
    (gone : Absent uid desired)
    (faultless : (((a.after index scenes).facing last).dispatched index).Faultless) :
    (a.after index (scenes ++ [last])).site.allocator.Binds uid ↔
      (a.after index scenes).site.allocator.Binds uid ∧ (a.logOf index scenes).brought uid = false := by
  have valid : a.site.allocator.Consistent := reached ▸ Allocator.consistent_of_run start ops
  obtain ⟨known, follows⟩ := (Follows.start place uid wired watches unseen valid).after kind one_key
  rw [List.nil_append] at follows
  have ended : a.after index (scenes ++ [last]) =
      (((a.after index scenes).facing last).poll index).2 := by
    simp [after]
  rw [ended]
  exact (follows.facing last).outlived_iff kind listed gone faultless

section Sample

def gatedSubnets : List Subnet := [
  { name := "four", network := "pods", cidr := "10.0.0.0/29", gateway := some "10.0.0.1" }]

def gated : Allocator :=
  (Allocator.create Allocator.sampleMacs [Allocator.sampleNetwork] gatedSubnets).toOption.getD
    { macs := Allocator.sampleMacs }

theorem gated_started : Allocator.Started gated := Allocator.started_of_made (by decide +kernel) _

def checkedSettings : Settings where
  node := "node-1"
  networks := [Allocator.sampleNetwork]
  subnets := gatedSubnets
  activation := ⟨true, .text "eth0", .whole 1⟩
  recordsPath := none
  watchers := []

def podsWatcher : WatchedFile := { kind := .pod, path := ⟨0, ["pods.json"]⟩, interval := .ofRatio false 1 1 }

def podsAgent : Agent where
  handlers := handlersWith checkedSettings (podHandler checkedSettings)
  watched := [podsWatcher]
  site := { allocator := gated, files := {}, segment := .isolated }

def sceneOf (items : String) (neighbours : Table String String) : Scene where
  files := { nodes := [(["pods.json"], .file ("\x7b\"items\": [" ++ items ++ "]\x7d").toUTF8)] }
  segment := .ofNeighbours neighbours

def webItem : String :=
  "\x7b\"namespace\": \"shop\", \"name\": \"web\", \"uid\": \"u1\", \"nodeName\": \"node-1\"\x7d"

def listedPod : Pod where
  ns := "shop"
  name := "web"
  uid := "u1"
  nodeName := "node-1"
  owner := none
  networkType := .underlay
  families := [.v4]
  subnets := none

def unanswered : Scene := sceneOf webItem []

def answered : Scene := sceneOf webItem [("10.0.0.1", "02:00:00:00:00:63")]

def removed : Scene := sceneOf "" []

theorem webItem_listed (neighbours : Table String String) :
    podsWatcher.listing (sceneOf webItem neighbours).files = .ok (some [("shop/web", .pod listedPod)]) := by
  have listed : podsWatcher.listing (sceneOf webItem []).files =
      .ok (some [("shop/web", .pod listedPod)]) := by decide +kernel
  exact listed

theorem removed_listed : podsWatcher.listing removed.files = .ok (some []) := by decide +kernel

theorem webItem_at (neighbours : Table String String) :
    ListsAt "shop/web" "u1" podsWatcher (sceneOf webItem neighbours).files := by
  intro desired listed entry member _
  rw [webItem_listed] at listed
  cases listed
  rw [List.mem_singleton.mp member]

/-- The pod is gone and no dispatch of the last poll fails, but its record stays. -/
theorem unanswered_outlives :
    ¬ podsAgent.site.allocator.Binds "u1" ∧
    (∀ scene ∈ [unanswered], ListsAt "shop/web" "u1" podsWatcher scene.files) ∧
    podsWatcher.listing removed.files = .ok (some []) ∧
    (((podsAgent.after 0 [unanswered]).facing removed).dispatched 0).Faultless ∧
    (podsAgent.after 0 ([unanswered] ++ [removed])).site.allocator.Binds "u1" := by
  have at_key : ∀ scene ∈ [unanswered], ListsAt "shop/web" "u1" podsWatcher scene.files :=
    List.forall_mem_singleton.mpr (webItem_at _)
  exact ⟨by decide +kernel, at_key, removed_listed, by decide +kernel⟩

/-- A creation that fails first and then succeeds is not outlived. -/
theorem answered_ends :
    (podsAgent.after 0 [unanswered, answered]).site.allocator.Binds "u1" ∧
      ¬ (podsAgent.after 0 ([unanswered, answered] ++ [removed])).site.allocator.Binds "u1" := by
  have at_key : ∀ scene ∈ [unanswered, answered], ListsAt "shop/web" "u1" podsWatcher scene.files := by
    simp [unanswered, answered, webItem_at]
  obtain ⟨bound, brought, faultless⟩ :
      (podsAgent.after 0 [unanswered, answered]).site.allocator.Binds "u1" ∧
        (podsAgent.logOf 0 [unanswered, answered]).brought "u1" = true ∧
        (((podsAgent.after 0 [unanswered, answered]).facing removed).dispatched 0).Faultless := by
    decide +kernel
  refine ⟨bound, fun outlived => ?_⟩
  have failed := ((outlives_iff gated_started [] rfl rfl rfl rfl rfl at_key removed_listed (by simp [Absent])
    faultless).mp outlived).2
  rw [brought] at failed
  cases failed

end Sample

end Agent
end PodAddressing
