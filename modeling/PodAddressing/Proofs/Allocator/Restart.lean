import PodAddressing.Proofs.Allocator.Accounts
import PodAddressing.Proofs.Allocator.Churn
import PodAddressing.Proofs.Allocator.Excuses
import PodAddressing.Proofs.Allocator.Ranges
import PodAddressing.Proofs.RecordFile
/-!
Records that can be written and read again. An ordinal is read from the name of a pod, so it has no more digits than
are read.
-/

namespace PodAddressing.Allocator
variable {a : Allocator} {w : Identity} {c : Criteria} {eligible : Option (List String)}

theorem short_of_statefulKey? {key : Option OrdinalKey} (stateful : w.statefulKey? = .ok key) :
    ∀ n ∈ key.map (·.index), (Nat.toDigits 10 n.natAbs).length ≤ Number.digitLimit := by
  intro n member
  obtain ⟨key, rfl, rfl⟩ := Option.map_eq_some_iff.mp member
  obtain ⟨_, _, read⟩ := ordinalOf_eq_ok (Identity.ordinal_of_statefulKey? stateful)
  exact Number.readInteger_short read

theorem short_allocate (valid : Consistent a) (before : ∀ r ∈ a.records, r.IsShort) :
    ∀ r ∈ (a.allocate w c eligible).2.records, r.IsShort := by
  apply forall_records_allocate valid before
  case bound => exact fun r short => short
  case fresh =>
    intro key records a' stateful given r member n numbered
    obtain ⟨_, _, bound⟩ := (allocateFresh_records given).2 r member
    rw [bound] at numbered
    exact short_of_statefulKey? stateful n numbered

theorem short_apply (valid : Consistent a) (before : ∀ r ∈ a.records, r.IsShort) {op : Op}
    (brought : ∀ r ∈ op.rebuilt, r.IsShort) : ∀ r ∈ (a.apply op).2.records, r.IsShort := by
  cases op with
  | allocate w c eligible => exact short_allocate valid before
  | release w => exact forall_records_release valid before (fun _ short => short) w
  | rebuild records => exact fun r member => brought r (mem_rebuild member)
  | _ => exact fun r member => before r (mem_records_apply valid rfl member)

/-!
Starting anew from the records. An allocator that keeps its books says no more than its records do, whatever order
they are in. So a rebuild from all of them takes over every one, and all is as it was before.
-/

variable {b : Allocator} {records : List Record} {r : Record}

section Resembling

theorem filter_bound (valid : Consistent a) {uid : String} (named : uid ≠ "") :
    a.records.filter (fun r => r.binding.podUID = uid) = (a.active.get? uid).getD [] := by
  have others (uid' : String) (group : List Record) (found : a.active.get? uid' = some group)
      (different : uid' ≠ uid) : ∀ r ∈ group, decide (r.binding.podUID = uid) = false := by
    intro r member
    rw [(valid.bound uid' group found).2.2 r member]
    exact decide_eq_false different
  have unbound : a.retention.records.filter (fun r => r.binding.podUID = uid) = [] := by
    apply List.filter_eq_nil_iff.mpr
    intro r member bound
    obtain ⟨_, _, _, _, free, _⟩ := valid.retained member
    exact named ((of_decide_eq_true bound).symm.trans free)
  rw [records, List.filter_append, unbound, List.append_nil, Table.filter_members valid.active_unique _ others]
  apply List.filter_eq_self.mpr
  intro r member
  obtain ⟨group, found, inside⟩ := Table.mem_group member
  exact decide_eq_true ((valid.bound uid group found).2.2 r inside)

theorem filter_unbound (valid : Consistent a) (key : OrdinalKey) :
    a.records.filter (fun r => r.binding.podUID = "" ∧ r.key? = some key) =
      (a.retention.groups.get? key).getD [] := by
  have bound : a.active.values.flatten.filter
      (fun r => r.binding.podUID = "" ∧ r.key? = some key) = [] := by
    apply List.filter_eq_nil_iff.mpr
    intro r member free
    exact valid.named member (of_decide_eq_true free).1
  have unbound : a.retention.records.filter (fun r => r.binding.podUID = "" ∧ r.key? = some key) =
      a.retention.records.filter (fun r => r.key? = some key) := by
    apply List.filter_congr
    intro r member
    obtain ⟨_, _, _, _, free, _⟩ := valid.retained member
    simp [free]
  rw [records, List.filter_append, bound, List.nil_append, unbound, filter_retained valid]

/-- Groups that are the same but for their order, where none is empty and a missing one counts as empty. -/
theorem rel_of_perm {group other : Option (List Record)} (some_record : ∀ g, group = some g → g ≠ [])
    (some_other : ∀ g, other = some g → g ≠ []) (same : (group.getD []).Perm (other.getD [])) :
    Option.Rel List.Perm group other := by
  cases group with
  | none =>
      cases other with
      | none => exact .none
      | some g => exact absurd same.nil_eq.symm (some_other g rfl)
  | some g =>
      cases other with
      | none => exact absurd same.eq_nil (some_record g rfl)
      | some g' => exact .some same

/-- Two allocators are in the same state, but for the order of lists, cursors and limits. -/
structure Resembles (a b : Allocator) : Prop where
  records : b.records.Perm a.records
  used : ∀ name, (usedIn b.pools name).Perm (usedIn a.pools name)
  active : ∀ uid, Option.Rel List.Perm (b.active.get? uid) (a.active.get? uid)
  holders : ∀ key, b.holders.get? key = a.holders.get? key
  retained : ∀ key, Option.Rel List.Perm (b.retention.groups.get? key) (a.retention.groups.get? key)

theorem resembles_of_records (valid : Consistent a) (valid' : Consistent b) (accounts : Accounts a [])
    (accounts' : Accounts b []) (same : b.records.Perm a.records) : Resembles a b where
  records := same
  used := by
    have moved := (same.map Record.spot).append_right []
    exact fun name => Booked.usedIn_perm (accounts'.perm moved) accounts name
  active := by
    intro uid
    by_cases named : uid = ""
    · have nobody {c : Allocator} (valid : Consistent c) : c.active.get? uid = none := by
        cases found : c.active.get? uid with
        | none => rfl
        | some group => exact absurd named (valid.bound uid group found).1
      rw [nobody valid, nobody valid']
      exact .none
    · apply rel_of_perm (fun g found => (valid'.bound uid g found).2.1)
        (fun g found => (valid.bound uid g found).2.1)
      rw [← filter_bound valid' named, ← filter_bound valid named]
      exact same.filter _
  holders := by
    intro key
    apply Option.ext
    intro uid
    rw [valid'.holder_iff, valid.holder_iff]
    simp only [valid'.mem_active_iff, valid.mem_active_iff, same.mem_iff]
  retained := by
    intro key
    apply rel_of_perm (fun g found => (valid'.kept key g found).1)
      (fun g found => (valid.kept key g found).1)
    rw [← filter_unbound valid', ← filter_unbound valid]
    exact same.filter _

end Resembling

section Restart

theorem not_heldByOther (valid : Consistent a) (valid' : Consistent b) (fewer : ∀ x ∈ b.records, x ∈ a.records)
    (member : r ∈ a.records) : ¬ b.HeldByOther r := by
  rintro ⟨x, active, keyed, same, other⟩
  obtain ⟨key, known⟩ := Option.ne_none_iff_exists'.mp keyed
  have before := valid.mem_active_iff.mpr ⟨fewer x (List.mem_append_left _ active), valid'.named active⟩
  have held := valid.holder_iff.mpr ⟨x, before, same.trans known, rfl⟩
  rcases List.mem_append.mp member with mine | retained
  · have held' := valid.holder_iff.mpr ⟨r, mine, known, rfl⟩
    rw [held] at held'
    exact other (Option.some.inj held')
  · obtain ⟨key', group, found, known', _⟩ := valid.retained retained
    rw [known] at known'
    cases known'
    rw [valid.vacant key _ held] at found
    cases found

theorem Consistent.not_isMalformed (valid : Consistent a) (member : r ∈ a.records) : ¬ r.IsMalformed := by
  rintro ⟨unnamed, odd⟩
  rcases List.mem_append.mp member with active | retained
  · exact valid.named active unnamed
  · obtain ⟨key, _, _, known, _, free⟩ := valid.retained retained
    obtain ⟨indexed, _⟩ := Record.index_of_key? known
    rw [free, indexed] at odd
    simp at odd

theorem Accounts.allocatableIn {stray : List Spot} (accounts : Accounts a stray) (member : r ∈ a.records) :
    r.AllocatableIn a.pools := by
  obtain ⟨pool, n, found, value, used⟩ := accounts.exists_pool member
  have usable : pool.isUsable n = true := (accounts.valid _ _ found).1.used_usable n used
  rw [Record.AllocatableIn, found, Option.any_some, Pool.contains, value]
  exact usable

theorem nothing_skipped (kept : Kept a) (registered : Registered a.pools) (registered' : Registered b.pools)
    (same : ∀ name, b.subnet? name = a.subnet? name) (order : records.Perm a.records) :
    (b.rebuild records).1 = [] := by
  have parts := rebuild_parts b records
  have single : (((b.rebuild records).2.records ++ (b.rebuild records).1).map Record.spot).Nodup := by
    have before := (List.nodup_append.mp kept.accounts.single).1
    exact ((parts.trans order).map Record.spot).nodup_iff.mpr before
  rw [List.map_append] at single
  have origin (x : Record) (skipped : x ∈ (b.rebuild records).1) : x ∈ a.records :=
    order.mem_iff.mp (parts.mem_iff.mp (List.mem_append_right _ skipped))
  have unheld (x : Record) (member : x ∈ a.records) : ¬ (b.rebuild records).2.HeldByOther x :=
    not_heldByOther kept.consistent (consistent_rebuild b records)
      (fun y after => order.mem_iff.mp (mem_rebuild after)) member
  apply List.eq_nil_iff_forall_not_mem.mpr
  intro r skipped
  have member := origin r skipped
  have allowed : r.AllocatableIn b.pools := by
    have here := registered'.clear_eq registered (same r.subnet)
    rw [← Record.allocatableIn_cleared, Record.AllocatableIn, here]
    exact Record.allocatableIn_cleared.mpr (kept.accounts.allocatableIn member)
  rcases reason_of_skipped registered' allowed skipped with bad | held | taken | ⟨d, gone, _⟩
  · exact kept.consistent.not_isMalformed member bad
  · exact unheld r member held
  · exact (List.nodup_append.mp single).2.2 _ taken _ (List.mem_map_of_mem skipped) rfl
  · have dropped : d ∈ (b.rebuild records).1 := by
      change d ∈ (Rebuilding.settle _).skipped
      rw [Rebuilding.skipped_settle]
      exact List.mem_append_right _ gone
    exact unheld d (origin d dropped) (heldByOther_of_evicted gone)

theorem resembles_rebuild (kept : Kept a) (registered : Registered a.pools) (registered' : Registered b.pools)
    (same : ∀ name, b.subnet? name = a.subnet? name) (order : records.Perm a.records) :
    (b.rebuild records).1 = [] ∧ Resembles a (b.rebuild records).2 := by
  have nothing := nothing_skipped kept registered registered' same order
  have parts := rebuild_parts b records
  rw [nothing, List.append_nil] at parts
  exact ⟨nothing, resembles_of_records kept.consistent (consistent_rebuild b records) kept.accounts
    (accounts_rebuild registered' records) (parts.trans order)⟩

/-- An allocator that is rebuilt from the records of a run is as the run left it, in whatever order they come. So it is
if they come from a file that they were saved to, just if none has a text that the file alters. -/
theorem restart_resembles (start : Started a) {ops : List Op}
    (per_pod : ∀ op ∈ ops, AlikePerPod OneKey op.rebuilt) (reached : Reachable b)
    (same : ∀ name, b.subnet? name = (a.run ops).subnet? name) :
    (∀ records, records.Perm (a.run ops).records →
      (b.rebuild records).1 = [] ∧ Resembles (a.run ops) (b.rebuild records).2) ∧
    ∀ files path, (∀ r ∈ (a.run ops).records, r.IsShort) →
      (RecordFile.save files path (a.run ops).records).1 = .ok () →
      ∃ loaded, RecordFile.load (RecordFile.save files path (a.run ops).records).2 path = .ok loaded ∧
        ((b.rebuild loaded).1 = [] ∧ Resembles (a.run ops) (b.rebuild loaded).2 ↔
          ∀ r ∈ (a.run ops).records, r.IsWhole) := by
  have kept := kept_of_run start per_pod
  have registered := registered_of_reachable (reachable_run (reachable_of_started start) ops)
  have registered' := registered_of_reachable reached
  have rebuilt (records : List Record) (order : records.Perm (a.run ops).records) :=
    resembles_rebuild kept registered registered' same order
  refine ⟨rebuilt, fun files path short saved => ⟨_, RecordFile.load_of_save short saved, ?_⟩⟩
  have loaded := (List.mergeSort_perm (a.run ops).records RecordFile.precedes).map Record.rejoined
  constructor
  · rintro ⟨nothing, resembles⟩
    have parts := rebuild_parts b (((a.run ops).records.mergeSort RecordFile.precedes).map Record.rejoined)
    rw [nothing, List.append_nil] at parts
    exact Record.rejoined_perm_iff.mp ((loaded.symm.trans parts.symm).trans resembles.records)
  · intro whole
    exact rebuilt _ (loaded.trans (Record.rejoined_perm_iff.mpr whole))

/-- Two pods of a set come, one of them leaves, and a pod of its own takes a further address. -/
def halfway : List Op := [
  .allocate (webPod "web-0" "u1") ⟨.underlay, [.v4, .v6]⟩ none,
  .allocate (webPod "web-1" "u2") ⟨.underlay, [.v4]⟩ none,
  .release (webPod "web-0" "u1"),
  .allocate { webPod "job" "u3" with owner := ⟨"Pod", "job", "u3"⟩ } ⟨.underlay, [.v4]⟩ none]

def recordsPath : FilePath := ⟨1, ["var", "lib", "records.json"]⟩

theorem halfway_resembled :
    (sample.run halfway).records.map (·.address) = ["10.0.0.2", "10.0.0.3", "10.0.0.1", "::9"] ∧
      ∃ loaded, RecordFile.load (RecordFile.save {} recordsPath (sample.run halfway).records).2 recordsPath =
          .ok loaded ∧
        (sample.rebuild loaded).1 = [] ∧ Resembles (sample.run halfway) (sample.rebuild loaded).2 := by
  have cleared : cleared (sample.run halfway).pools = cleared sample.pools := by decide +kernel
  have subnets : ∀ name, sample.subnet? name = (sample.run halfway).subnet? name := by
    intro name
    rw [← subnet?_cleared, ← subnet?_cleared, cleared]
  have whole : ∀ r ∈ (sample.run halfway).records, r.IsWhole := by decide +kernel
  obtain ⟨loaded, answer, restored⟩ := (restart_resembles sample_started (by decide +kernel)
    (reachable_of_started sample_started) subnets).2 {} recordsPath (by decide +kernel) (by decide +kernel)
  exact ⟨by decide +kernel, loaded, answer, restored.mpr whole⟩

def splitRun : List Op := [
  .addSubnet { name := RecordFile.splitText, network := "pods", cidr := "10.0.1.0/30" },
  .allocate (webPod "web-0" "u1") ⟨.underlay, [.v4]⟩ (some [RecordFile.splitText])]

theorem split_skipped :
    (sample.run splitRun).records.map (·.address) = ["10.0.1.1"] ∧
      ∃ loaded, RecordFile.load (RecordFile.save {} recordsPath (sample.run splitRun).records).2 recordsPath =
          .ok loaded ∧
        ((sample.run splitRun).rebuild loaded).1.map (·.address) = ["10.0.1.1"] ∧
        ¬ Resembles (sample.run splitRun) ((sample.run splitRun).rebuild loaded).2 := by
  have one : (sample.run splitRun).records.length = 1 := by decide +kernel
  obtain ⟨r, only⟩ := List.length_eq_one_iff.mp one
  have saved : (RecordFile.save {} recordsPath (sample.run splitRun).records).1 = .ok () := by decide +kernel
  have loaded := RecordFile.load_of_save (by decide +kernel) saved
  have sorted : (sample.run splitRun).records.mergeSort RecordFile.precedes = (sample.run splitRun).records := by
    rw [only, List.mergeSort_singleton]
  rw [sorted] at loaded
  refine ⟨by decide +kernel, _, loaded, by decide +kernel, fun resembles => ?_⟩
  have gone : ((sample.run splitRun).rebuild ((sample.run splitRun).records.map Record.rejoined)).2.records = [] := by
    decide +kernel
  have left := resembles.records
  rw [gone, only] at left
  exact List.cons_ne_nil _ _ left.nil_eq.symm

end Restart

end PodAddressing.Allocator
