import PodAddressing.Proofs.Agent.Removals
/-!
Polls in any order. A poll withdraws what is gone in no order in particular. Whatever an agent has met before, all
that comes after is the same, whichever order it was: what is retained is only listed in another order.
-/

namespace PodAddressing
open Watcher

section Hearing
variable {h : PodHandler} {s : Site} {p : Pod}

theorem Notice.Heard.answered {n : Notice} (heard : n.Heard s) (op : Allocator → Allocator.Outcome (List Record)) :
    n.Heard (match s.withAllocator op with
      | (.error fault, s) => ((.error fault, s) : Site.Outcome Unit)
      | (.ok records, s) => n.giveOf s records).2 := by
  have after : n.Heard (s.withAllocator op).2 := heard.having _
  split
  case h_1 answered =>
    rw [answered] at after
    exact after
  case h_2 records _ answered =>
    rw [answered] at after
    exact after.giveOf records

theorem PodHandler.heard_deleted (heard : h.notice.Heard s) : h.notice.Heard (h.deleted s p).2 :=
  heard.answered (·.release p.identity)

theorem PodHandler.heard_ensured (heard : h.notice.Heard s) : h.notice.Heard (h.ensured s p).2 := by
  change h.notice.Heard (h.ensure s p).2
  unfold ensure
  split
  · exact heard
  · have after : h.notice.Heard (s.withAllocator (·.allocate p.identity p.criteria p.subnets)).2 := heard.having _
    split
    case h_1 answered =>
      rw [answered] at after
      exact after
    case h_2 records s' answered =>
      rw [answered] at after
      have again := after.again
      split
      case h_1 failed =>
        rw [failed] at again
        exact again
      case h_2 s'' given =>
        rw [given] at again
        -- What is sent has no part in giving notice.
        obtain ⟨sent, same⟩ := h.activate_frame s'' p records
        change h.notice.Heard (h.activate s'' p records).2
        rw [same]
        cases notice : h.notice <;> rw [notice] at again <;> exact again

theorem PodHandler.heard_handle (heard : h.notice.Heard s) (change : Change Snapshot) :
    h.notice.Heard ((Handler.pod h).handle s change).2 := by
  have handled := Handler.handle_pod_cases h s change
  generalize (Handler.pod h).handle s change = result at handled ⊢
  cases handled with
  | created p => exact heard_ensured heard
  | updated old new =>
      have outcome := h.updated_cases s old new
      generalize h.updated s old new = result at outcome ⊢
      cases outcome with
      | kept => exact heard
      | scheduled => exact heard_ensured heard
      | left => exact heard_deleted heard
      | renewed => exact heard_ensured (heard_deleted heard)
  | deleted p => exact heard_deleted heard
  | refused => exact heard

end Hearing

section Delivering
variable {settings : Settings} {h : PodHandler} {s : Site} {entries entries' known : Known}

theorem PodHandler.deliveries_snd (settings : Settings) (h : PodHandler) (s : Site) (entries : Known) :
    (deliveries (Agent.dispatch (Agent.handlersWith settings h) .pod) (entries.map fun e => (e.1, .deleted e.2)) s).2 =
      h.removedAll s entries := by
  induction entries generalizing s with
  | nil => rfl
  | cons entry rest ih =>
      rw [List.map_cons, deliveries_cons, Agent.dispatch_pods, ih]
      rfl

/-- Each succeeds if it would have been the first, unless notice cannot be given and one pod is listed twice. -/
theorem PodHandler.deliveries_fst (settings : Settings) (h : PodHandler) (orderly : s.allocator.Orderly)
    (steadfast : h.notice.Heard s ∨ entries.Pairwise fun e e' => e.2.Strangers e'.2) :
    (deliveries (Agent.dispatch (Agent.handlersWith settings h) .pod) (entries.map fun e => (e.1, .deleted e.2)) s).1 =
      entries.map fun e => ⟨e.1, .deleted e.2, (h.removed s e.2).1.isOk⟩ := by
  induction entries generalizing s with
  | nil => rfl
  | cons entry rest ih =>
      have orderly₁ := h.orderly_removed orderly entry.2
      have later : h.notice.Heard (h.removed s entry.2).2 ∨ rest.Pairwise fun e e' => e.2.Strangers e'.2 :=
        steadfast.imp (h.heard_removed orderly · entry.2) List.Pairwise.tail
      rw [List.map_cons, deliveries_cons, Agent.dispatch_pods]
      change _ :: (deliveries _ _ (h.removed s entry.2).2).1 = _
      rw [ih orderly₁ later, List.map_cons]
      refine congrArg₂ List.cons rfl (List.map_congr_left ?_)
      intro e member
      have lasting : h.notice.Heard s ∨ entry.2.Strangers e.2 :=
        steadfast.imp_right fun apart => (List.pairwise_cons.mp apart).1 e member
      rw [h.removed_isOk_after orderly lasting]

theorem Watcher.replay_perm (settings : Settings) (h : PodHandler) (orderly : s.allocator.Orderly)
    (steadfast : h.notice.Heard s ∨ entries.Pairwise fun e e' => e.2.Strangers e'.2)
    (same : entries.Perm entries') (known : Known) :
    let changes (entries : Known) := entries.map fun e => (e.1, Change.deleted e.2)
    let dispatch := Agent.dispatch (Agent.handlersWith settings h) .pod
    replay known (deliveries dispatch (changes entries) s).1 =
      replay known (deliveries dispatch (changes entries') s).1 := by
  have steadfast' : h.notice.Heard s ∨ entries'.Pairwise fun e e' => e.2.Strangers e'.2 :=
    steadfast.imp_right fun apart =>
      (same.pairwise_iff fun strangers uid both => strangers uid both.symm).mp apart
  dsimp only
  rw [h.deliveries_fst settings orderly steadfast, h.deliveries_fst settings orderly steadfast']
  apply replay_perm_of_deleted (same.map _)
  intro d member
  obtain ⟨e, _, rfl⟩ := List.mem_map.mp member
  rfl

end Delivering

def WatchedFile.missing (w : WatchedFile) (files : Files) : Known :=
  (w.listed? files).elim [] (gone · w.known)

/-- What happens to an agent: it is handed an event, or it polls one of its files. -/
inductive Happening
  | event (e : Event Snapshot)
  | poll (index : Nat)

namespace Agent

section Histories
variable {a : Agent}

def meet (a : Agent) (scene : Scene) : Happening → Agent
  | .event e => ((a.facing scene).handle e).2
  | .poll index => ((a.facing scene).poll index).2

def meetAll (a : Agent) (history : List (Scene × Happening)) : Agent :=
  history.foldl (fun a met => a.meet met.1 met.2) a

theorem meet_handlers (a : Agent) (scene : Scene) (what : Happening) : (a.meet scene what).handlers = a.handlers := by
  cases what with
  | poll index => exact poll_handlers (a.facing scene) index
  | event e =>
      change ((a.facing scene).handle e).2.handlers = (a.facing scene).handlers
      unfold handle
      split <;> rfl

theorem orderly_dispatch {s : Site} (orderly : s.allocator.Orderly) (handlers : Registry Handler) (kind : Kind)
    (change : Change Snapshot) : (dispatch handlers kind change s).2.allocator.Orderly := by
  obtain ⟨ops, own, ran⟩ := own_of_dispatch handlers kind change s
  rw [ran]
  exact orderly.run own

theorem orderly_meet (orderly : a.site.allocator.Orderly) (scene : Scene) (what : Happening) :
    (a.meet scene what).site.allocator.Orderly := by
  cases what with
  | poll index =>
      exact poll_keeps (fun s => s.allocator.Orderly)
        (fun w _ change s orderly => orderly_dispatch orderly a.handlers w.kind change) orderly
  | event e =>
      change ((a.facing scene).handle e).2.site.allocator.Orderly
      unfold handle
      split
      case h_1 => exact orderly
      case h_2 => exact orderly
      case h_3 handler change _ =>
        obtain ⟨ops, own, ran⟩ := handler.handle_own (a.facing scene).site change
        change (handler.handle (a.facing scene).site change).2.allocator.Orderly
        rw [ran]
        exact orderly.run own

/-- Nothing that an agent meets gets into the way of a release. -/
theorem orderly_meetAll (orderly : a.site.allocator.Orderly) (history : List (Scene × Happening)) :
    (a.meetAll history).site.allocator.Orderly ∧ (a.meetAll history).handlers = a.handlers := by
  induction history generalizing a with
  | nil => exact ⟨orderly, rfl⟩
  | cons met rest ih =>
      obtain ⟨kept, wired⟩ := ih (orderly_meet orderly met.1 met.2)
      exact ⟨kept, wired.trans (a.meet_handlers met.1 met.2)⟩

end Histories

section Ordering
variable {a : Agent} {settings : Settings} {h : PodHandler} {index : Nat} {w : WatchedFile} {desired : Known}
variable {order order' : Known → Known}

def pollIn (a : Agent) (order : Known → Known) (index : Nat) : Agent :=
  match a.watched[index]? with
  | none => a
  | some w =>
      match w.listing a.site.files with
      | .ok (some desired) =>
          let (known, site) := compareIn (dispatch a.handlers w.kind) order desired w.known a.site
          { a with watched := a.watched.set index { w with known }, site }
      | _ => a

theorem pollIn_of_listed (order : Known → Known) (watches : a.watched[index]? = some w)
    (listed : w.listing a.site.files = .ok (some desired)) :
    a.pollIn order index = { a with
      watched := a.watched.set index { w with
        known := (compareIn (dispatch a.handlers w.kind) order desired w.known a.site).1 }
      site := (compareIn (dispatch a.handlers w.kind) order desired w.known a.site).2 } := by
  simp only [pollIn, watches, listed]

theorem pollIn_of_unlisted (order : Known → Known) (watches : a.watched[index]? = some w)
    (unlisted : ∀ desired, w.listing a.site.files ≠ .ok (some desired)) : a.pollIn order index = a := by
  simp only [pollIn, watches]

theorem poll_eq_pollIn (a : Agent) (index : Nat) : (a.poll index).2 = a.pollIn id index := by
  cases watches : a.watched[index]? with
  | none => simp only [poll, pollIn, watches]
  | some w =>
      by_cases lists : ∃ desired, w.listing a.site.files = .ok (some desired)
      · obtain ⟨desired, listed⟩ := lists
        rw [pollIn_of_listed id watches listed]
        exact poll_of_listed watches listed
      · rw [not_exists] at lists
        rw [pollIn_of_unlisted id watches lists, poll_of_unlisted watches lists]

/-- Agents with the same addresses in use, the same records, and the same files. -/
structure Matches (a b : Agent) : Prop where
  pools : a.site.allocator.pools = b.site.allocator.pools
  records : a.site.allocator.records.Perm b.site.allocator.records
  retained : ∀ key, a.site.allocator.retention.groups.get? key = b.site.allocator.retention.groups.get? key
  holders : a.site.allocator.holders = b.site.allocator.holders
  files : a.site.files = b.site.files

theorem matches_of_reordered {a b : Agent} (valid : a.site.allocator.Consistent)
    (reordered : a.site.Reordered b.site) : a.Matches b := by
  obtain ⟨c, among, site⟩ := reordered
  have records := among.records
  obtain ⟨groups, same, rfl⟩ := among
  constructor
  case pools => rw [site]; rfl
  case records => rw [site]; exact records
  case retained =>
    intro key
    rw [site]
    exact (Table.get?_perm valid.groups_unique same key).symm
  case holders => rw [site]; rfl
  case files => rw [site]; rfl

theorem compareIn_perm (settings : Settings) (h : PodHandler) {s : Site} (orderly : s.allocator.Orderly)
    (once : desired.Unique) (some_order : ∀ known, (order known).Perm known)
    (some_order' : ∀ known, (order' known).Perm known) (known : Known) :
    let r := compareIn (dispatch (handlersWith settings h) .pod) order desired known s
    let r' := compareIn (dispatch (handlersWith settings h) .pod) order' desired known s
    r.2.allocator.Orderly ∧ r.2.Reordered r'.2 ∧
      (h.notice.Heard s ∨ (gone desired known).Pairwise (fun e e' => e.2.Strangers e'.2) → r.1 = r'.1) := by
  have keeps_orderly : ∀ change s, s.allocator.Orderly →
      (dispatch (handlersWith settings h) .pod change s).2.allocator.Orderly :=
    fun change _ orderly => orderly_dispatch orderly _ _ change
  have keeps_heard : ∀ change s, h.notice.Heard s →
      h.notice.Heard (dispatch (handlersWith settings h) .pod change s).2 := by
    intro change s heard
    rw [dispatch_pods]
    exact PodHandler.heard_handle heard change
  have same : (order (gone desired known)).Perm (order' (gone desired known)) :=
    (some_order _).trans (some_order' _).symm
  -- What is listed comes first, whatever the order of what is not.
  have met := deliveries_keep keeps_orderly (desired.filterMap (keyedChange known)) orderly
  dsimp only
  simp only [compareIn_eq once, dueIn, deliveries_append, replay_append]
  refine ⟨deliveries_keep keeps_orderly _ met, ?_, fun steadfast => ?_⟩
  · rw [h.deliveries_snd settings, h.deliveries_snd settings]
    exact h.removedAll_perm met same
  · refine replay_perm settings h met ?_ same _
    rcases steadfast with heard | strangers
    · exact .inl (deliveries_keep keeps_heard _ heard)
    · exact .inr (((some_order _).pairwise_iff fun strangers uid both => strangers uid both.symm).mpr strangers)

/-- Whatever an agent has met, a poll of pods withdraws what is gone in any order to the same effect. What is
remembered is the same as well, unless the records cannot be saved and one pod is gone twice. -/
theorem withdrawn_in_any_order (start : Allocator.Started a.site.allocator)
    (wired : a.handlers = handlersWith settings h) (history : List (Scene × Happening)) (scene : Scene)
    (watches : (a.meetAll history).watched[index]? = some w) (pods : w.kind = .pod)
    (some_order : ∀ known, (order known).Perm known) (some_order' : ∀ known, (order' known).Perm known) :
    let b := (a.meetAll history).facing scene
    (b.pollIn order index).Matches (b.pollIn order' index) ∧
      ((∀ path, h.notice = .save path → RecordFile.Writable scene.files path) ∨
          (w.missing scene.files).Pairwise (fun e e' => e.2.Strangers e'.2) →
        (b.pollIn order index).watched = (b.pollIn order' index).watched) := by
  obtain ⟨orderly, same_handlers⟩ := orderly_meetAll (Allocator.orderly_of_started start) history
  dsimp only
  generalize same : (a.meetAll history).facing scene = b
  have faced : b.site.files = scene.files := same ▸ rfl
  have orderly : b.site.allocator.Orderly := same ▸ orderly
  have wired' : b.handlers = handlersWith settings h := same ▸ same_handlers.trans wired
  have watches' : b.watched[index]? = some w := same ▸ watches
  by_cases lists : ∃ desired, w.listing b.site.files = .ok (some desired)
  · obtain ⟨desired, listed⟩ := lists
    have once := WatchedFile.unique_listing listed
    obtain ⟨valid, reordered, alike⟩ := compareIn_perm settings h orderly once some_order some_order' w.known
    have missing : w.missing b.site.files = gone desired w.known := by
      rw [WatchedFile.missing, WatchedFile.listed?_eq_some_iff.mpr listed, Option.elim_some]
    rw [faced] at missing
    rw [pollIn_of_listed order watches' listed, pollIn_of_listed order' watches' listed, wired', pods, missing]
    refine ⟨matches_of_reordered valid.steady.consistent reordered, fun steadfast => ?_⟩
    have heard := steadfast.imp_left fun writable => Notice.heard_of_writable (s := b.site) (faced ▸ writable)
    rw [alike heard]
  · rw [not_exists] at lists
    rw [pollIn_of_unlisted order watches' lists, pollIn_of_unlisted order' watches' lists]
    exact ⟨matches_of_reordered orderly.steady.consistent (.refl _), fun _ => rfl⟩

section Sample

def quietSettings : Settings :=
  { checkedSettings with
    activation := ⟨false, .text "eth0", .whole 1⟩
    recordsPath := some ⟨0, ["records.json"]⟩ }

def quietAgent (known : Known) : Agent where
  handlers := handlersWith quietSettings (podHandler quietSettings)
  watched := [{ podsWatcher with known }]
  site := { allocator := gated, files := {}, segment := .isolated }

def ordinalPod (name uid : String) : Snapshot :=
  .pod { listedPod with name, uid, owner := some ⟨"StatefulSet", "web", "set-1"⟩ }

def creation (kind : Kind) (obj : Snapshot) : Scene × Happening := (removed, .event ⟨kind.name, some (.created obj)⟩)

def twoReplicas : List (Scene × Happening) := [
  creation .statefulSet (.statefulSet ⟨"shop", "web", "set-1", 2⟩),
  creation .pod (ordinalPod "web-0" "u1"),
  creation .pod (ordinalPod "web-1" "u2")]

def twoOrdinals : Known := [("shop/web-0", ordinalPod "web-0" "u1"), ("shop/web-1", ordinalPod "web-1" "u2")]

/-- Two ordinals are retained one way round or the other, and all else is the same. -/
theorem ordinals_withdrawn :
    let b := ((quietAgent twoOrdinals).meetAll twoReplicas).facing removed
    (b.poll 0).2.Matches (b.pollIn List.reverse 0) ∧
      (b.poll 0).2.watched = (b.pollIn List.reverse 0).watched ∧
      (b.poll 0).2.site.allocator.retention.groups ≠ (b.pollIn List.reverse 0).site.allocator.retention.groups := by
  obtain ⟨kind, another⟩ : (((quietAgent twoOrdinals).meetAll twoReplicas).watched[0]?).map (·.kind) = some .pod ∧
      let b := ((quietAgent twoOrdinals).meetAll twoReplicas).facing removed
      (b.pollIn id 0).site.allocator.retention.groups ≠ (b.pollIn List.reverse 0).site.allocator.retention.groups := by
    decide +kernel
  obtain ⟨w, watches, pods⟩ := Option.map_eq_some_iff.mp kind
  have saved : (RecordFile.save removed.files ⟨0, ["records.json"]⟩ []).1 = .ok () := by decide +kernel
  have writable : ∀ path, Notice.save ⟨0, ["records.json"]⟩ = .save path →
      RecordFile.Writable removed.files path := by
    rintro path ⟨⟩
    exact RecordFile.writable_of_save saved
  have known_order : ∀ known : Known, (id known).Perm known := List.Perm.refl
  have other_order : ∀ known : Known, known.reverse.Perm known := List.reverse_perm
  have same := withdrawn_in_any_order gated_started rfl twoReplicas removed watches pods known_order other_order
  dsimp only at same another ⊢
  generalize ((quietAgent twoOrdinals).meetAll twoReplicas).facing removed = b at same another ⊢
  rw [poll_eq_pollIn]
  exact ⟨same.1, same.2 (.inl writable), another⟩

def twinItems : String :=
  "\x7b\"namespace\": \"default\", \"name\": \"web\", \"uid\": \"u1\", \"nodeName\": \"node-1\"\x7d, " ++
    "\x7b\"name\": \"web\", \"uid\": \"u1\", \"nodeName\": \"node-1\"\x7d"

/-- No pod is listed, and a directory stands where the record file is written. -/
def blocked : Scene := { removed with files := removed.files.put ["records.json.tmp"] .directory }

/-- The first of two withdrawals of one pod cannot be saved and is remembered; the second has nothing to save. -/
theorem twins_withdrawn :
    Allocator.Started (quietAgent []).site.allocator ∧
      let b := ((quietAgent []).meetAll [(sceneOf twinItems [], .poll 0)]).facing blocked
      (b.pollIn id 0).watched.map (·.known.keys) = [["default/web"]] ∧
        (b.pollIn List.reverse 0).watched.map (·.known.keys) = [["web"]] :=
  ⟨gated_started, by decide +kernel⟩

end Sample

end Ordering
end Agent
end PodAddressing
