import PodAddressing.Proofs.Agent.Serving
import PodAddressing.Proofs.Allocator.Releases
/-!
Removals in any order. A look may withdraw the pods that are gone one way or another: the addresses end up the same,
and so does the record file, since each save writes all records in an order of its own and leaves nothing else behind.
-/

namespace PodAddressing
open Watcher

section Sites
variable {s t u : Site}

def Site.having (s : Site) (allocator : Allocator) : Site := { s with allocator }

/-- Sites that differ at most in the order in which ordinals were retained. -/
def Site.Reordered (s t : Site) : Prop := ∃ b, s.allocator.Reordered b ∧ t = s.having b

theorem Site.Reordered.refl (s : Site) : s.Reordered s := ⟨_, .refl _, rfl⟩

theorem Site.Reordered.trans (first : s.Reordered t) (second : t.Reordered u) : s.Reordered u := by
  obtain ⟨b, reordered, rfl⟩ := first
  obtain ⟨c, reordered', rfl⟩ := second
  exact ⟨c, reordered.trans reordered', rfl⟩

end Sites

namespace Notice
variable {n : Notice} {s t : Site}

theorem give_reordered (n : Notice) (reordered : s.Reordered t) (apart : RecordFile.Apart s.allocator.records) :
    (n.give t).1 = (n.give s).1 ∧ (n.give s).2.Reordered (n.give t).2 := by
  obtain ⟨b, reordered, rfl⟩ := reordered
  cases n with
  | save path =>
      have same : RecordFile.save s.files path b.records = RecordFile.save s.files path s.allocator.records := by
        unfold RecordFile.save
        rw [RecordFile.toDocument_of_perm apart reordered.records]
      have given : (save path).give (s.having b) = (((save path).give s).1, ((save path).give s).2.having b) := by
        unfold give
        dsimp only [Site.having]
        rw [same]
      rw [given]
      exact ⟨rfl, b, reordered, rfl⟩
  | count => exact ⟨rfl, b, reordered, rfl⟩
  | silent => exact ⟨rfl, b, reordered, rfl⟩

theorem give_twice (n : Notice) (s : Site) (a b c : Allocator) :
    (n.give ((n.give (s.having a)).2.having c)).2 = (n.give ((n.give (s.having b)).2.having c)).2 := by
  cases n with
  | save path =>
      have after (a : Allocator) : ((save path).give (((save path).give (s.having a)).2.having c)).2 =
          ((save path).give (s.having c)).2 := by
        have files := (RecordFile.save_again s.files path a.records c.records).1
        exact congrArg (fun files => { s.having c with files }) files
      rw [after, after]
  | count => rfl
  | silent => rfl

theorem give_ok_iff (n : Notice) (s : Site) (a b : Allocator) :
    (n.give (s.having a)).1 = .ok () ↔ (n.give (s.having b)).1 = .ok () := by
  cases n with
  | save path =>
      exact ⟨fun saved => RecordFile.writable_of_save saved b.records,
        fun saved => RecordFile.writable_of_save saved a.records⟩
  | count => exact Iff.rfl
  | silent => exact Iff.rfl

theorem give_ok_again (n : Notice) (s : Site) (a b : Allocator) :
    (n.give ((n.give (s.having a)).2.having b)).1 = .ok () ↔ (n.give (s.having b)).1 = .ok () := by
  cases n with
  | save path => exact (RecordFile.save_again s.files path a.records b.records).2
  | count => exact Iff.rfl
  | silent => exact Iff.rfl

/-- Notice can be given at a site; it does not matter of what. -/
def Heard (n : Notice) (s : Site) : Prop := (n.give s).1 = .ok ()

theorem heard_of_writable (writable : ∀ path, n = .save path → RecordFile.Writable s.files path) : n.Heard s := by
  cases n with
  | save path => exact writable path rfl s.allocator.records
  | count => rfl
  | silent => rfl

theorem Heard.having (heard : n.Heard s) (a : Allocator) : n.Heard (s.having a) :=
  (n.give_ok_iff s s.allocator a).mp heard

theorem Heard.again (heard : n.Heard s) : n.Heard (n.give s).2 := by
  have same : (n.give s).2.having s.allocator = (n.give s).2 := by
    rw [← n.give_allocator s]
    rfl
  exact same ▸ (n.give_ok_again s s.allocator s.allocator).mpr heard

theorem Heard.giveOf (heard : n.Heard s) (records : List Record) : n.Heard (n.giveOf s records).2 := by
  unfold Notice.giveOf
  split
  · exact heard
  · exact heard.again

end Notice

/-- No UID is that of two objects. -/
def Snapshot.Strangers (obj other : Snapshot) : Prop := ∀ uid, ¬(obj.isPod uid = true ∧ other.isPod uid = true)

/-- Who leaves when an object is withdrawn, if it is a pod that can be served. -/
def Snapshot.leaver? : Snapshot → Option Identity
  | .pod p => if p.identity.hasBytes then some p.identity else none
  | _ => none

theorem Snapshot.hasBytes_of_leaver? {obj : Snapshot} {w : Identity} (leaves : obj.leaver? = some w) :
    w.hasBytes = true := by
  cases obj with
  | pod p =>
      obtain ⟨bytes, own⟩ := Option.ite_none_right_eq_some.mp leaves
      cases own
      exact bytes
  | _ => cases leaves

theorem Snapshot.isPod_of_leaver? {obj : Snapshot} {w : Identity} (leaves : obj.leaver? = some w) :
    obj.isPod w.podUID = true := by
  cases obj with
  | pod p =>
      obtain ⟨bytes, own⟩ := Option.ite_none_right_eq_some.mp leaves
      cases own
      exact decide_eq_true rfl
  | _ => cases leaves

namespace PodHandler
variable {s t : Site} {obj other : Snapshot} {w v : Identity}

def removed (h : PodHandler) (s : Site) (obj : Snapshot) : Site.Outcome Unit := (Handler.pod h).handle s (.deleted obj)

theorem removed_of_none (h : PodHandler) (nobody : obj.leaver? = none) :
    ∃ fault, ∀ s, h.removed s obj = (.error fault, s) := by
  cases obj with
  | pod p =>
      have no_bytes : p.identity.hasBytes = false := by
        by_contra bytes
        simp [Snapshot.leaver?, bytes] at nobody
      refine ⟨.unencodable, fun s => ?_⟩
      have refused : s.withAllocator (·.release p.identity) = (.error .unencodable, s) := by
        unfold Site.withAllocator
        dsimp only
        rw [Allocator.release_refused no_bytes]
      change h.deleted s p = _
      unfold deleted
      rw [refused]
  | _ => exact ⟨.noFields, fun _ => rfl⟩

theorem removed_of_some (h : PodHandler) (orderly : s.allocator.Orderly) (leaves : obj.leaver? = some w) :
    ∃ records, (records = [] ↔ s.allocator.recordsFor w = []) ∧
      h.removed s obj = h.notice.giveOf (s.having (s.allocator.leftBy w)) records := by
  obtain ⟨stray, accounts⟩ := orderly.accounts
  cases obj with
  | pod p =>
      obtain ⟨bytes, own⟩ := Option.ite_none_right_eq_some.mp leaves
      cases own
      obtain ⟨records, answered, none_iff⟩ := Allocator.release_answered orderly.steady accounts bytes
      have released : s.withAllocator (·.release p.identity) =
          (.ok records, s.having (s.allocator.leftBy p.identity)) := by
        rw [← Allocator.release_snd orderly.steady accounts, ← answered]
        rfl
      refine ⟨records, none_iff, ?_⟩
      change h.deleted s p = _
      unfold deleted
      rw [released]
  | _ => cases leaves

theorem removed_of_idle (h : PodHandler) (orderly : s.allocator.Orderly) (leaves : obj.leaver? = some w)
    (none_had : s.allocator.recordsFor w = []) : h.removed s obj = (.ok (), s) := by
  obtain ⟨records, none_iff, after⟩ := h.removed_of_some orderly leaves
  rw [after, none_iff.mpr none_had, Allocator.leftBy_of_idle orderly.steady.consistent none_had]
  rfl

theorem removed_of_served (h : PodHandler) (orderly : s.allocator.Orderly) (leaves : obj.leaver? = some w)
    (some_record : s.allocator.recordsFor w ≠ []) :
    h.removed s obj = h.notice.give (s.having (s.allocator.leftBy w)) := by
  obtain ⟨records, none_iff, after⟩ := h.removed_of_some orderly leaves
  rw [after, Notice.giveOf, if_neg]
  rw [List.isEmpty_iff, none_iff]
  exact some_record

theorem removed_allocator (h : PodHandler) (orderly : s.allocator.Orderly) (leaves : obj.leaver? = some w) :
    (h.removed s obj).2.allocator = s.allocator.leftBy w := by
  obtain ⟨records, _, after⟩ := h.removed_of_some orderly leaves
  rw [after, h.notice.giveOf_allocator]
  rfl

theorem orderly_removed (h : PodHandler) (orderly : s.allocator.Orderly) (obj : Snapshot) :
    (h.removed s obj).2.allocator.Orderly := by
  cases leaves : obj.leaver? with
  | none =>
      obtain ⟨fault, same⟩ := h.removed_of_none leaves
      rw [same]
      exact orderly
  | some w =>
      rw [h.removed_allocator orderly leaves]
      exact orderly.leftBy w

theorem removed_reordered (h : PodHandler) (orderly : s.allocator.Orderly) (orderly' : t.allocator.Orderly)
    (reordered : s.Reordered t) (obj : Snapshot) :
    (h.removed t obj).1 = (h.removed s obj).1 ∧ (h.removed s obj).2.Reordered (h.removed t obj).2 := by
  cases leaves : obj.leaver? with
  | none =>
      obtain ⟨fault, same⟩ := h.removed_of_none leaves
      rw [same, same]
      exact ⟨rfl, reordered⟩
  | some w =>
      obtain ⟨b, reordered, rfl⟩ := reordered
      have had : (s.having b).allocator.recordsFor w = s.allocator.recordsFor w := reordered.recordsFor w
      by_cases none_had : s.allocator.recordsFor w = []
      · rw [h.removed_of_idle orderly leaves none_had, h.removed_of_idle orderly' leaves (had.trans none_had)]
        exact ⟨rfl, b, reordered, rfl⟩
      · rw [h.removed_of_served orderly leaves none_had, h.removed_of_served orderly' leaves (had ▸ none_had)]
        exact h.notice.give_reordered ⟨_, reordered.leftBy w, rfl⟩ (orderly.leftBy w).apart

theorem removed_comm_of_idle (h : PodHandler) (orderly : s.allocator.Orderly) (leaves : obj.leaver? = some w)
    (leaves' : other.leaver? = some v) (none_had : s.allocator.recordsFor w = []) :
    (h.removed (h.removed s obj).2 other).2 = (h.removed (h.removed s other).2 obj).2 := by
  have none_has := Allocator.recordsFor_leftBy_of_idle none_had v
  rw [← h.removed_allocator orderly leaves'] at none_has
  rw [h.removed_of_idle (h.orderly_removed orderly other) leaves none_has, h.removed_of_idle orderly leaves none_had]

theorem removed_comm_of_twin (h : PodHandler) (orderly : s.allocator.Orderly) (leaves : obj.leaver? = some w)
    (leaves' : other.leaver? = some v) (some_record : s.allocator.recordsFor w ≠ []) (same : w.podUID = v.podUID) :
    (h.removed (h.removed s obj).2 other).2 = (h.removed (h.removed s other).2 obj).2 := by
  have had : s.allocator.recordsFor w = s.allocator.recordsFor v := by
    rw [Allocator.recordsFor, same, Allocator.recordsFor]
  have bytes := Snapshot.hasBytes_of_leaver? leaves
  have bytes' := Snapshot.hasBytes_of_leaver? leaves'
  have none_has := Allocator.recordsFor_leftBy_self (a := s.allocator) bytes same
  have none_has' := Allocator.recordsFor_leftBy_self (a := s.allocator) bytes' same.symm
  rw [← h.removed_allocator orderly leaves] at none_has
  rw [← h.removed_allocator orderly leaves'] at none_has'
  rw [h.removed_of_idle (h.orderly_removed orderly obj) leaves' none_has,
    h.removed_of_idle (h.orderly_removed orderly other) leaves none_has',
    h.removed_of_served orderly leaves some_record, h.removed_of_served orderly leaves' (had ▸ some_record),
    Allocator.leftBy_congr same (bytes.trans bytes'.symm)]

/-- Two pods that have records can be withdrawn in either order; the second save makes up for the first. -/
theorem removed_comm_of_served (h : PodHandler) (orderly : s.allocator.Orderly) (leaves : obj.leaver? = some w)
    (leaves' : other.leaver? = some v) (some_record : s.allocator.recordsFor w ≠ [])
    (some_record' : s.allocator.recordsFor v ≠ []) (apart : w.podUID ≠ v.podUID) :
    (h.removed (h.removed s obj).2 other).2.Reordered (h.removed (h.removed s other).2 obj).2 := by
  have had := Allocator.recordsFor_leftBy (a := s.allocator) apart
  have had' := Allocator.recordsFor_leftBy (a := s.allocator) (Ne.symm apart)
  have orderly₁ := h.orderly_removed orderly obj
  have orderly₂ := h.orderly_removed orderly other
  have allocator₁ := h.removed_allocator orderly leaves
  have allocator₂ := h.removed_allocator orderly leaves'
  rw [h.removed_of_served orderly₁ leaves' (by rw [allocator₁, had]; exact some_record'),
    h.removed_of_served orderly₂ leaves (by rw [allocator₂, had']; exact some_record), allocator₁, allocator₂,
    h.removed_of_served orderly leaves some_record, h.removed_of_served orderly leaves' some_record',
    h.notice.give_twice s (s.allocator.leftBy w) (s.allocator.leftBy v)]
  generalize (h.notice.give (s.having (s.allocator.leftBy v))).2 = saved
  have swapped : (saved.having ((s.allocator.leftBy w).leftBy v)).Reordered
      (saved.having ((s.allocator.leftBy v).leftBy w)) := ⟨_, Allocator.leftBy_comm s.allocator w v, rfl⟩
  exact (h.notice.give_reordered swapped ((orderly.leftBy w).leftBy v).apart).2

/-- Two objects can be withdrawn in either order. -/
theorem removed_comm (h : PodHandler) (orderly : s.allocator.Orderly) (obj other : Snapshot) :
    (h.removed (h.removed s obj).2 other).2.Reordered (h.removed (h.removed s other).2 obj).2 := by
  cases leaves : obj.leaver? with
  | none =>
      obtain ⟨fault, same⟩ := h.removed_of_none leaves
      rw [same, same]
      exact .refl _
  | some w =>
      cases leaves' : other.leaver? with
      | none =>
          obtain ⟨fault, same⟩ := h.removed_of_none leaves'
          rw [same, same]
          exact .refl _
      | some v =>
          by_cases none_had : s.allocator.recordsFor w = []
          · rw [h.removed_comm_of_idle orderly leaves leaves' none_had]
            exact .refl _
          by_cases none_had' : s.allocator.recordsFor v = []
          · rw [h.removed_comm_of_idle orderly leaves' leaves none_had']
            exact .refl _
          by_cases same : w.podUID = v.podUID
          · rw [h.removed_comm_of_twin orderly leaves leaves' none_had same]
            exact .refl _
          · exact h.removed_comm_of_served orderly leaves leaves' none_had none_had' same

section Succeeding

theorem heard_removed (h : PodHandler) (orderly : s.allocator.Orderly) (heard : h.notice.Heard s) (obj : Snapshot) :
    h.notice.Heard (h.removed s obj).2 := by
  cases leaves : obj.leaver? with
  | none =>
      obtain ⟨fault, same⟩ := h.removed_of_none leaves
      rw [same]
      exact heard
  | some w =>
      obtain ⟨records, _, after⟩ := h.removed_of_some orderly leaves
      rw [after]
      exact (heard.having _).giveOf records

theorem removed_ok (h : PodHandler) (orderly : s.allocator.Orderly) (heard : h.notice.Heard s)
    (leaves : obj.leaver? = some w) : (h.removed s obj).1 = .ok () := by
  by_cases none_had : s.allocator.recordsFor w = []
  · rw [h.removed_of_idle orderly leaves none_had]
  · rw [h.removed_of_served orderly leaves none_had]
    exact heard.having _

theorem removed_ok_iff_of_strangers (h : PodHandler) (orderly : s.allocator.Orderly) (leaves : obj.leaver? = some w)
    (leaves' : other.leaver? = some v) (apart : w.podUID ≠ v.podUID) :
    (h.removed (h.removed s obj).2 other).1 = .ok () ↔ (h.removed s other).1 = .ok () := by
  have orderly₁ := h.orderly_removed orderly obj
  have allocator₁ := h.removed_allocator orderly leaves
  have had := Allocator.recordsFor_leftBy (a := s.allocator) apart
  rw [← allocator₁] at had
  by_cases none_had' : s.allocator.recordsFor v = []
  · rw [h.removed_of_idle orderly₁ leaves' (had.trans none_had'), h.removed_of_idle orderly leaves' none_had']
  · by_cases none_had : s.allocator.recordsFor w = []
    · rw [h.removed_of_idle orderly leaves none_had]
    · rw [h.removed_of_served orderly₁ leaves' (had ▸ none_had'), h.removed_of_served orderly leaves none_had,
        h.removed_of_served orderly leaves' none_had', h.notice.give_ok_again]
      exact h.notice.give_ok_iff s _ _

/-- What was withdrawn before makes no difference to whether an object is, unless notice cannot be given and one pod
is withdrawn twice. -/
theorem removed_isOk_after (h : PodHandler) (orderly : s.allocator.Orderly)
    (steadfast : h.notice.Heard s ∨ obj.Strangers other) :
    (h.removed (h.removed s obj).2 other).1.isOk = (h.removed s other).1.isOk := by
  cases leaves' : other.leaver? with
  | none =>
      obtain ⟨fault, same⟩ := h.removed_of_none leaves'
      rw [same, same]
  | some v =>
      rcases steadfast with heard | strangers
      · rw [h.removed_ok (h.orderly_removed orderly obj) (h.heard_removed orderly heard obj) leaves',
          h.removed_ok orderly heard leaves']
      · cases leaves : obj.leaver? with
        | none =>
            obtain ⟨fault, same⟩ := h.removed_of_none leaves
            rw [same]
        | some w =>
            have apart : w.podUID ≠ v.podUID := fun same => strangers w.podUID
              ⟨Snapshot.isPod_of_leaver? leaves, same ▸ Snapshot.isPod_of_leaver? leaves'⟩
            exact isOk_congr (h.removed_ok_iff_of_strangers orderly leaves leaves' apart)

end Succeeding

section All
variable {entries entries' : Known}

def removedAll (h : PodHandler) (s : Site) (entries : Known) : Site :=
  entries.foldl (fun s entry => (h.removed s entry.2).2) s

theorem removedAll_reordered (h : PodHandler) (orderly : s.allocator.Orderly) (orderly' : t.allocator.Orderly)
    (reordered : s.Reordered t) (entries : Known) : (h.removedAll s entries).Reordered (h.removedAll t entries) := by
  induction entries generalizing s t with
  | nil => exact reordered
  | cons entry rest ih =>
      exact ih (h.orderly_removed orderly entry.2) (h.orderly_removed orderly' entry.2)
        (h.removed_reordered orderly orderly' reordered entry.2).2

/-- Any number of objects can be withdrawn in any order. -/
theorem removedAll_perm (h : PodHandler) (orderly : s.allocator.Orderly) (same : entries.Perm entries') :
    (h.removedAll s entries).Reordered (h.removedAll s entries') := by
  induction same generalizing s with
  | nil => exact .refl s
  | cons entry _ ih => exact ih (h.orderly_removed orderly entry.2)
  | swap entry entry' rest =>
      have orderly₁ := h.orderly_removed (h.orderly_removed orderly entry'.2) entry.2
      have orderly₂ := h.orderly_removed (h.orderly_removed orderly entry.2) entry'.2
      exact h.removedAll_reordered orderly₁ orderly₂ (h.removed_comm orderly entry'.2 entry.2) rest
  | trans _ _ ih ih' => exact (ih orderly).trans (ih' orderly)

end All

end PodHandler
end PodAddressing
