import PodAddressing.Proofs.Allocator.Interchange
import PodAddressing.Proofs.RecordFile
/-!
Releases in any order. Where nothing stands in the way of a release, what it comes to is given by what the pod has and
by the replica counts, and no other release changes these; only the order in which ordinals are retained is left.
-/

namespace PodAddressing.Allocator
variable {a b : Allocator} {stray : List Spot} {w v : Identity}

section Leaving

/-- What the release of a pod retains: its records, under the ordinal of the first, if they outlive it. -/
def retainedOf (a : Allocator) (w : Identity) : Table OrdinalKey (List Record) :=
  if a.outlives (a.recordsFor w) then
    ((a.recordsFor w).head?.bind Record.key?).toList.map fun key => (key, (a.recordsFor w).map Record.unbound)
  else []

def freedOf (a : Allocator) (w : Identity) : List Record :=
  if a.outlives (a.recordsFor w) then [] else a.recordsFor w

def leftBy (a : Allocator) (w : Identity) : Allocator :=
  if w.hasBytes then
    { a.without w with
      pools := (a.freedOf w).foldl unmarked a.pools
      retention := ⟨a.retention.groups ++ a.retainedOf w⟩ }
  else a

theorem without_of_idle (valid : Consistent a) (none_had : a.recordsFor w = []) : a.without w = a := by
  unfold without forgetHolder
  rw [none_had, Table.erase_of_absent (valid.recordsFor_eq_nil none_had)]
  simp

theorem leftBy_of_idle (valid : Consistent a) (none_had : a.recordsFor w = []) : a.leftBy w = a := by
  unfold leftBy
  split
  · rw [without_of_idle valid none_had, retainedOf, freedOf, none_had]
    simp
  · rfl

theorem release_snd (steady : Steady a) (accounts : Accounts a stray) (w : Identity) :
    (a.release w).2 = a.leftBy w := by
  cases bytes : w.hasBytes with
  | false =>
      rw [release_of_idle steady.consistent (.inl bytes), leftBy, bytes]
      rfl
  | true =>
      by_cases none_had : a.recordsFor w = []
      · rw [release_of_idle steady.consistent (.inr none_had), leftBy_of_idle steady.consistent none_had]
      · rw [leftBy, bytes, if_pos rfl]
        rcases release_eq steady accounts bytes none_had with ⟨ends, after⟩ | ⟨key, stays, known, _, after⟩
        · rw [after, freedOf, retainedOf, ends]
          simp only [Bool.false_eq_true, ↓reduceIte, List.append_nil]
          rfl
        · have first : (a.recordsFor w).head?.bind Record.key? = some key := by
            obtain ⟨r, rest, whole⟩ := List.exists_cons_of_ne_nil none_had
            rw [whole, List.head?_cons, Option.bind_some]
            exact known r (whole ▸ List.mem_cons_self)
          rw [after, freedOf, retainedOf, stays, first]
          rfl

theorem release_refused (no_bytes : w.hasBytes = false) : a.release w = (.error .unencodable, a) := by
  unfold release
  rw [if_pos (by simp [no_bytes])]

theorem release_answered (steady : Steady a) (accounts : Accounts a stray) (bytes : w.hasBytes = true) :
    ∃ records, (a.release w).1 = .ok records ∧ (records = [] ↔ a.recordsFor w = []) := by
  have valid := steady.consistent
  have outcome := release_cases a w
  generalize a.release w = result at outcome
  cases outcome with
  | refused fault no_bytes =>
      rw [no_bytes] at bytes
      cases bytes
  | idle none_had => exact ⟨[], rfl, by simp [none_had]⟩
  | freed some_record ends _ =>
      obtain ⟨a', done, _⟩ :=
        booked_freeAll (a := a.without w) (accounts.split (records_without valid some_record))
      rw [freed, done]
      exact ⟨_, rfl, Iff.rfl⟩
  | retained some_record stays known vacant => exact ⟨_, rfl, List.map_eq_nil_iff⟩
  | clashed answer some_record known occupied stays =>
      rw [vacant_of_known valid some_record known] at occupied
      cases occupied
  | lost fault some_record stateful mixed _ stays =>
      obtain ⟨r, member⟩ := List.exists_mem_of_ne_nil _ some_record
      exact absurd (steady.common_key some_record ⟨r, member, stateful r member⟩) mixed

end Leaving

section Agreeing

def Reordered (a b : Allocator) : Prop :=
  ∃ groups, a.retention.groups.Perm groups ∧ b = { a with retention := ⟨groups⟩ }

theorem Reordered.refl (a : Allocator) : Reordered a a := ⟨_, .refl _, rfl⟩

theorem Reordered.trans {c : Allocator} (first : Reordered a b) (second : Reordered b c) : Reordered a c := by
  obtain ⟨groups, same, rfl⟩ := first
  obtain ⟨groups', same', rfl⟩ := second
  exact ⟨groups', same.trans same', rfl⟩

theorem Reordered.recordsFor (reordered : Reordered a b) (w : Identity) : b.recordsFor w = a.recordsFor w := by
  obtain ⟨groups, _, rfl⟩ := reordered
  rfl

theorem Reordered.records (reordered : Reordered a b) : a.records.Perm b.records := by
  obtain ⟨groups, same, rfl⟩ := reordered
  exact (same.map Prod.snd).flatten.append_left _

/-- What a release adds to what is retained does not depend on what is retained. -/
theorem Reordered.leftBy (reordered : Reordered a b) (w : Identity) : Reordered (a.leftBy w) (b.leftBy w) := by
  obtain ⟨groups, same, rfl⟩ := reordered
  unfold Allocator.leftBy
  split
  · exact ⟨_, same.append_right _, rfl⟩
  · exact ⟨groups, same, rfl⟩

theorem leftBy_congr (uid : w.podUID = v.podUID) (bytes : w.hasBytes = v.hasBytes) : a.leftBy w = a.leftBy v := by
  have had : a.recordsFor w = a.recordsFor v := by rw [Allocator.recordsFor, uid, Allocator.recordsFor]
  unfold Allocator.leftBy freedOf retainedOf without
  rw [had, uid, bytes]

theorem recordsFor_leftBy (other : w.podUID ≠ v.podUID) : (a.leftBy w).recordsFor v = a.recordsFor v := by
  unfold Allocator.leftBy
  split
  · have still := Table.get?_erase a.active w.podUID v.podUID
    rw [if_neg other] at still
    exact congrArg (Option.getD · []) still
  · rfl

theorem recordsFor_leftBy_self (bytes : w.hasBytes = true) (uid : w.podUID = v.podUID) :
    (a.leftBy w).recordsFor v = [] := by
  have gone := Table.get?_erase a.active w.podUID v.podUID
  rw [if_pos uid] at gone
  rw [leftBy, if_pos bytes]
  exact congrArg (Option.getD · []) gone

theorem recordsFor_leftBy_of_idle (none_had : a.recordsFor v = []) (w : Identity) : (a.leftBy w).recordsFor v = [] := by
  by_cases uid : w.podUID = v.podUID
  · cases bytes : w.hasBytes with
    | true => exact recordsFor_leftBy_self bytes uid
    | false =>
        rw [leftBy, bytes]
        exact none_had
  · rw [recordsFor_leftBy uid, none_had]

theorem outlives_leftBy (a : Allocator) (w : Identity) : (a.leftBy w).outlives = a.outlives := by
  unfold leftBy
  split <;> rfl

theorem freedOf_leftBy (other : w.podUID ≠ v.podUID) : (a.leftBy w).freedOf v = a.freedOf v := by
  rw [freedOf, freedOf, recordsFor_leftBy other, outlives_leftBy]

theorem retainedOf_leftBy (other : w.podUID ≠ v.podUID) : (a.leftBy w).retainedOf v = a.retainedOf v := by
  rw [retainedOf, retainedOf, recordsFor_leftBy other, outlives_leftBy]

theorem leftBy_of_refused (no_bytes : w.hasBytes = false) : a.leftBy w = a := by
  rw [leftBy, no_bytes]
  rfl

def unheld (holders : Table OrdinalKey String) (records : List Record) (podUID : String) : Table OrdinalKey String :=
  holders.filter fun entry => !((records.filterMap Record.key?).contains entry.1 && entry.2 == podUID)

theorem leftBy_of_served (bytes : w.hasBytes = true) : a.leftBy w = { a with
    active := a.active.erase w.podUID
    holders := unheld a.holders (a.recordsFor w) w.podUID
    pools := (a.freedOf w).foldl unmarked a.pools
    retention := ⟨a.retention.groups ++ a.retainedOf w⟩ } := by
  rw [leftBy, bytes]
  rfl

/-- Two pods can leave in either order. -/
theorem leftBy_comm (a : Allocator) (w v : Identity) : Reordered ((a.leftBy w).leftBy v) ((a.leftBy v).leftBy w) := by
  cases first : w.hasBytes with
  | false =>
      rw [leftBy_of_refused first, leftBy_of_refused first]
      exact .refl _
  | true =>
      cases second : v.hasBytes with
      | false =>
          rw [leftBy_of_refused second, leftBy_of_refused second]
          exact .refl _
      | true =>
          by_cases uid : w.podUID = v.podUID
          · have same (a : Allocator) : a.leftBy v = a.leftBy w := leftBy_congr uid.symm (second.trans first.symm)
            rw [same, same]
            exact .refl _
          · rw [leftBy_of_served second, leftBy_of_served first (a := a.leftBy v), freedOf_leftBy uid,
              retainedOf_leftBy uid, recordsFor_leftBy uid, freedOf_leftBy (Ne.symm uid),
              retainedOf_leftBy (Ne.symm uid), recordsFor_leftBy (Ne.symm uid), leftBy_of_served first,
              leftBy_of_served second]
            refine ⟨a.retention.groups ++ a.retainedOf v ++ a.retainedOf w, ?_, ?_⟩
            · simp only [List.append_assoc]
              exact List.perm_append_comm.append_left _
            · simp only [foldl_unmarked_comm a.pools (a.freedOf w), Table.erase_erase a.active w.podUID,
                unheld, List.filter_comm]

end Agreeing

section Order

/-- All that keeps anything from standing in the way of a release. -/
structure Orderly (a : Allocator) : Prop where
  steady : Steady a
  accounts : ∃ stray, Accounts a stray

theorem orderly_of_started (start : Started a) : Orderly a := by
  have nothing_done : Along FromOwn a [] := trivial
  exact ⟨steady_of_run start nothing_done, (accounts_of_run start []).2⟩

theorem Orderly.run (orderly : Orderly a) {ops : List Op} (own : ∀ op ∈ ops, ∀ b, FromOwn b op) :
    Orderly (a.run ops) := by
  induction ops generalizing a with
  | nil => exact orderly
  | cons op rest ih =>
      obtain ⟨first, others⟩ := List.forall_mem_cons.mp own
      obtain ⟨stray, accounts⟩ := orderly.accounts
      have next : Orderly (a.apply op).2 :=
        ⟨steady_apply orderly.steady (first a), _, accounts_apply orderly.steady.consistent accounts op⟩
      exact ih next others

theorem Orderly.leftBy (orderly : Orderly a) (w : Identity) : Orderly (a.leftBy w) := by
  obtain ⟨stray, accounts⟩ := orderly.accounts
  have own : ∀ op ∈ [Op.release w], ∀ b, FromOwn b op := by simp [FromOwn]
  rw [← release_snd orderly.steady accounts w]
  exact orderly.run own

theorem Orderly.apart (orderly : Orderly a) : RecordFile.Apart a.records := by
  obtain ⟨stray, accounts⟩ := orderly.accounts
  intro r member s member' subnet address
  by_contra different
  refine accounts.apart member member' different ⟨subnet, ?_⟩
  rw [Record.value?, address, Record.value?]

end Order

end PodAddressing.Allocator
