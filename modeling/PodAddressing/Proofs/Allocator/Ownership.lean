import PodAddressing.Proofs.Allocator.Accounts
/-!
Who has which address, over whole runs. No address is lost and none has two owners, and a pod keeps what it was
given until it is released or everything is rebuilt.
-/

namespace PodAddressing.Allocator
variable {a : Allocator} {stray : List Spot} {r s : Record}

section Reading

theorem isUsed_of_valueOf {pool : Pool} {n : Nat} (value : pool.valueOf r.address = .ok n)
    (used : n ∈ pool.used) : pool.isUsed r.address = .ok true := by
  rw [Pool.isUsed_of_value value, List.contains_iff_mem.mpr used]

theorem Accounts.exists_pool (accounts : Accounts a stray) (member : r ∈ a.records) :
    ∃ pool n, a.pools.get? r.subnet = some pool ∧ pool.valueOf r.address = .ok n ∧ n ∈ pool.used :=
  Booked.exists_pool accounts (List.mem_append_left _ (List.mem_map_of_mem member))

theorem Accounts.same_spot (accounts : Accounts a stray) (left : r ∈ a.records)
    (right : s ∈ a.records) (subnet : r.subnet = s.subnet) (value : r.value? = s.value?) :
    r.spot = s.spot :=
  Booked.same_spot accounts (List.mem_append_left _ (List.mem_map_of_mem left))
    (List.mem_append_left _ (List.mem_map_of_mem right)) subnet value

theorem Accounts.apart (accounts : Accounts a stray) (left : r ∈ a.records) (right : s ∈ a.records)
    (different : r ≠ s) : ¬(r.subnet = s.subnet ∧ r.value? = s.value?) := by
  rintro ⟨subnet, value⟩
  have single : (a.records.map Record.spot).Nodup := (List.nodup_append.mp accounts.single).1
  exact different (List.inj_on_of_nodup_map single left right
    (accounts.same_spot left right subnet value))

end Reading

section Exact

/-- The used values of the pools and the addresses of the records are the same, one for one. -/
structure Exact (a : Allocator) : Prop where
  used : ∀ name pool, (name, pool) ∈ a.pools →
    ∀ n, n ∈ pool.used ↔ ∃ r ∈ a.records, r.subnet = name ∧ r.value? = some n
  once : ∀ name pool, (name, pool) ∈ a.pools → pool.used.Nodup
  distinct : a.records.Pairwise fun r s => ¬(r.subnet = s.subnet ∧ r.value? = s.value?)
  registered : ∀ r ∈ a.records, ∃ pool, (r.subnet, pool) ∈ a.pools ∧ pool.isUsed r.address = .ok true

theorem exact_of_accounts (accounts : Accounts a []) : Exact a := by
  have booked : Booked a.pools (a.records.map Record.spot) := by
    have whole := accounts
    rwa [Accounts, List.append_nil] at whole
  constructor
  case used =>
    intro name pool listed n
    have found := Table.get?_of_mem booked.unique listed
    constructor
    · intro used
      obtain ⟨r, member, same⟩ := List.mem_map.mp ((booked.mem_iff found).mpr used)
      exact ⟨r, member, value?_of_spot same⟩
    · rintro ⟨r, member, rfl, value⟩
      obtain ⟨pool', n', found', read, used⟩ := accounts.exists_pool member
      rw [found] at found'
      cases found'
      rw [value?_of_valueOf read] at value
      cases value
      exact used
  case once =>
    intro name pool listed
    exact (booked.valid name pool (Table.get?_of_mem booked.unique listed)).1.used_nodup
  case distinct =>
    refine (List.pairwise_map.mp booked.single).imp_of_mem ?_
    rintro r s left right different ⟨subnet, value⟩
    exact different (accounts.same_spot left right subnet value)
  case registered =>
    intro r member
    obtain ⟨pool, n, found, value, used⟩ := accounts.exists_pool member
    exact ⟨pool, Table.mem_of_get? found, isUsed_of_valueOf value used⟩

/-- All that a run keeps where the lists it rebuilds from do not mix the ordinals of a pod. -/
structure Kept (a : Allocator) : Prop where
  consistent : Consistent a
  one_key : Alike OneKey a
  accounts : Accounts a []

theorem kept_apply (kept : Kept a) {op : Op} (per_pod : AlikePerPod OneKey op.rebuilt) :
    Kept (a.apply op).2 := by
  have accounts := accounts_apply kept.consistent kept.accounts op
  rw [strayAfter_nil kept.consistent kept.one_key] at accounts
  exact {
    consistent := consistent_apply kept.consistent op
    one_key := alike_apply (fun _ _ => .of_key) kept.consistent kept.one_key per_pod
    accounts := accounts }

theorem kept_bare (macs : MacSource) : Kept { macs := macs } where
  consistent := consistent_bare macs
  one_key := by
    intro uid group found
    cases found
  accounts := Booked.nothing

theorem kept_of_run (start : Started a) {ops : List Op}
    (per_pod : ∀ op ∈ ops, AlikePerPod OneKey op.rebuilt) : Kept (a.run ops) := by
  have step (b : Allocator) (op : Op) (alike : AlikePerPod OneKey op.rebuilt) (kept : Kept b) :
      Kept (b.apply op).2 := kept_apply kept alike
  have first : Kept a :=
    started_keeps kept_bare (fun _ _ => alikePerPod_nil) (fun _ _ => alikePerPod_nil) step start
  exact run_keeps step (along_of_all per_pod) first

theorem exact_of_run (start : Started a) {ops : List Op}
    (per_pod : ∀ op ∈ ops, AlikePerPod OneKey op.rebuilt) : Exact (a.run ops) :=
  exact_of_accounts (kept_of_run start per_pod).accounts

def contested : List Op := [
  .allocate (webPod "web-0" "u1") ⟨.underlay, [.v4, .v6]⟩ none,
  .release (webPod "web-0" "u1"),
  .rebuild [webRecord "10.0.0.1" "", webRecord "10.0.0.1" "u2", webRecord "10.0.0.4" "u3",
    webRecord "10.0.0.9" "u4"],
  .removeSubnet "six",
  .allocate (webPod "web-1" "u5") ⟨.underlay, [.v4]⟩ none,
  .purgeOwner "shop" ⟨"StatefulSet", "web", "set-1"⟩ none]

theorem contested_exact :
    (sample.run contested).records.map (·.address) = ["10.0.0.4", "10.0.0.1"] ∧
      Exact (sample.run contested) :=
  ⟨by decide +kernel, exact_of_run sample_started (by decide +kernel)⟩

end Exact

section Keeping
variable {w : Identity} {c : Criteria} {eligible : Option (List String)} {records : List Record}
variable {podUID : String}

/-- Whatever an allocator was rebuilt from, its pools account for its records. -/
theorem accounts_of_run (start : Started a) (ops : List Op) :
    Consistent (a.run ops) ∧ ∃ stray, Accounts (a.run ops) stray := by
  have step (b : Allocator) (op : Op) (kept : Consistent b ∧ ∃ stray, Accounts b stray) :
      Consistent (b.apply op).2 ∧ ∃ stray, Accounts (b.apply op).2 stray := by
    obtain ⟨valid, stray, accounts⟩ := kept
    exact ⟨consistent_apply valid op, _, accounts_apply valid accounts op⟩
  exact run_always (fun macs => ⟨consistent_bare macs, [], Booked.nothing⟩) step start ops

/-- Records are with one pod, their addresses are marked, and no other pod is given one of these. -/
structure Owns (a : Allocator) (podUID : String) (records : List Record) : Prop where
  bound : ∀ w : Identity, w.podUID = podUID → a.recordsFor w = records
  used : ∀ r ∈ records, ∃ pool, (r.subnet, pool) ∈ a.pools ∧ pool.isUsed r.address = .ok true
  alone : ∀ (w : Identity) c eligible others, w.podUID ≠ podUID →
    (a.allocate w c eligible).1 = .ok others →
    ∀ r ∈ records, ∀ s ∈ others, ¬(r.subnet = s.subnet ∧ r.value? = s.value?)

theorem owns_of_active (valid : Consistent a) (accounts : Accounts a stray)
    (found : a.active.get? podUID = some records) : Owns a podUID records where
  bound := by
    rintro w rfl
    rw [recordsFor, found, Option.getD_some]
  used := by
    intro r member
    obtain ⟨pool, n, registered, value, used⟩ := accounts.exists_pool (valid.mem_records found member)
    exact ⟨pool, Table.mem_of_get? registered, isUsed_of_valueOf value used⟩
  alone := by
    intro w c eligible others other given r left s right
    -- After the allocation both pods have records, so these are different records of one list.
    have valid' := consistent_allocate valid w c eligible
    have mine := bound_allocate valid found w c eligible
    have theirs := active_allocate valid given
    apply (accounts_allocate valid accounts w c eligible).apart (valid'.mem_records mine left)
      (valid'.mem_records theirs right)
    rintro rfl
    obtain ⟨_, _, own⟩ := valid'.bound _ _ mine
    obtain ⟨_, _, own'⟩ := valid'.bound _ _ theirs
    exact other ((own' r right).symm.trans (own r left))

theorem owns_until_release (start : Started a) {before after : List Op}
    (given : ((a.run before).allocate w c eligible).1 = .ok records)
    (leaves : ∀ op ∈ after, LeavesBound w.podUID op) :
    Owns (a.run (before ++ .allocate w c eligible :: after)) w.podUID records := by
  obtain ⟨valid, _⟩ := accounts_of_run start before
  have answered := active_allocate valid given
  have allocated := consistent_allocate valid w c eligible
  have found := bound_run allocated answered leaves
  obtain ⟨valid', stray, accounts⟩ :=
    accounts_of_run start (before ++ .allocate w c eligible :: after)
  rw [run_append] at valid' accounts ⊢
  exact owns_of_active valid' accounts found

def besieged : List Op := [
  .purge (webPod "web-0" "u2"),
  .purgeOwner "shop" ⟨"StatefulSet", "web", "set-1"⟩ none,
  .removeSubnet "four",
  .allocate (webPod "web-0" "u3") ⟨.underlay, [.v4]⟩ none,
  .allocate (webPod "web-1" "u4") ⟨.underlay, [.v4]⟩ none,
  .release (webPod "web-1" "u4")]

theorem besieged_owns :
    ∃ r, r.address = "10.0.0.1" ∧ Owns (sample.run
      ([.allocate (webPod "web-0" "u1") ⟨.underlay, [.v4]⟩ none, .release (webPod "web-0" "u1")] ++
        .allocate (webPod "web-0" "u2") ⟨.underlay, [.v4]⟩ none :: besieged)) "u2" [r] := by
  let r : Record := ⟨"10.0.0.1", .v4, "02:00:00:00:00:00", "four", "pods", "shop",
    ⟨"u2", "web-0", "node-1", ⟨"StatefulSet", "web", "set-1"⟩, some 0⟩⟩
  have leaves : ∀ op ∈ besieged, LeavesBound "u2" op := by
    simp [besieged, LeavesBound, webPod]
  exact ⟨r, rfl, owns_until_release (w := webPod "web-0" "u2") sample_started
    (by decide +kernel) leaves⟩

end Keeping

end PodAddressing.Allocator
