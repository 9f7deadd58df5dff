import PodAddressing.Proofs.Allocator.Restart
import PodAddressing.Proofs.Allocator.Selection
/-!
The records that belong together. A pod gets at most one record of each family, all with one hardware address and owner;
retaining, binding and rebuilding move such a group as a whole or thin it out, and never mix it with another. Each of
its records stays true to the subnet that its address is from, for a name is not given to another subnet while its pool
is in use.
-/

namespace PodAddressing

def Record.shared (r : Record) : String × String × Owner × Option Int :=
  (r.mac, r.ns, r.binding.owner, r.binding.index)

/-- One record of each family at most, in the order of the families, and all with the same in common. -/
structure Uniform (group : List Record) : Prop where
  families : (group.map (·.family)).Sublist [.v4, .v6]
  shared : ∀ r ∈ group, ∀ s ∈ group, r.shared = s.shared

namespace Uniform
variable {group other : List Record}

theorem sublist (uniform : Uniform group) (fewer : other.Sublist group) : Uniform other where
  families := (fewer.map (·.family)).trans uniform.families
  shared := fun r left s right => uniform.shared r (fewer.subset left) s (fewer.subset right)

theorem map (uniform : Uniform group) {f : Record → Record} (family : ∀ r, (f r).family = r.family)
    (shared : ∀ r, (f r).shared = r.shared) : Uniform (group.map f) where
  families := by
    have same : (group.map f).map (·.family) = group.map (·.family) := by
      rw [List.map_map]
      exact List.map_congr_left fun r _ => family r
    rw [same]
    exact uniform.families
  shared := by
    intro r left s right
    obtain ⟨r, first, rfl⟩ := List.mem_map.mp left
    obtain ⟨s, second, rfl⟩ := List.mem_map.mp right
    rw [shared, shared]
    exact uniform.shared r first s second

theorem unbound (uniform : Uniform group) : Uniform (group.map Record.unbound) :=
  uniform.map (fun _ => rfl) (fun _ => rfl)

theorem boundTo (uniform : Uniform group) (podUID podName nodeName : String) :
    Uniform (group.map (·.boundTo podUID podName nodeName)) :=
  uniform.map (fun _ => rfl) (fun _ => rfl)

end Uniform

namespace Rebuilding
variable {s : Rebuilding} {seen : List Record}

structure InOrder (seen : List Record) (s : Rebuilding) : Prop where
  active : ∀ uid group, s.active.get? uid = some group → group.Sublist seen
  retained : ∀ key group, s.retained.get? key = some group → group.Sublist seen

theorem sublist_gather {κ : Type} [DecidableEq κ] {t : Table κ (List Record)}
    (before : ∀ k group, t.get? k = some group → group.Sublist seen) (k : κ) (r : Record) :
    ∀ k' group, (t.gather k r).get? k' = some group → group.Sublist (seen ++ [r]) := by
  intro k' group found
  rw [Table.get?_gather] at found
  by_cases same : k = k'
  · rw [if_pos same] at found
    cases found
    refine List.Sublist.append ?_ (.refl _)
    cases present : t.get? k with
    | none => exact List.nil_sublist _
    | some group => exact before k group present
  · rw [if_neg same] at found
    exact (before k' group found).trans (List.sublist_append_left _ _)

theorem InOrder.of_filed {s' : Rebuilding} (order : InOrder seen s) (same : SameFiled s s') : InOrder seen s' := by
  obtain ⟨active, _, retained⟩ := same
  exact ⟨active ▸ order.active, retained ▸ order.retained⟩

theorem InOrder.weaken (order : InOrder seen s) (r : Record) : InOrder (seen ++ [r]) s where
  active := fun uid group found => (order.active uid group found).trans (List.sublist_append_left _ _)
  retained := fun key group found => (order.retained key group found).trans (List.sublist_append_left _ _)

theorem InOrder.file (order : InOrder seen s) (r : Record) : InOrder (seen ++ [r]) (s.file r) := by
  have joined := sublist_gather order.active r.binding.podUID r
  have outcome := file_outcome s r
  generalize s.file r = result at outcome
  cases outcome with
  | @retained key unnamed free known =>
      exact ⟨(order.weaken r).active, sublist_gather order.retained key r⟩
  | plain named unknown => exact ⟨joined, (order.weaken r).retained⟩
  | claimed named known vacant => exact ⟨joined, (order.weaken r).retained⟩
  | joined named known own => exact ⟨joined, (order.weaken r).retained⟩
  | malformed bad => exact (order.weaken r).of_filed (drop_filed s r)
  | contested named known held other => exact (order.weaken r).of_filed (drop_filed s r)

theorem InOrder.adopt (order : InOrder seen s) (r : Record) : InOrder (seen ++ [r]) (s.adopt r) := by
  unfold Rebuilding.adopt
  split
  case h_1 next reserved => exact (order.of_filed (reserve?_filed reserved)).file r
  case h_2 => exact (order.weaken r).of_filed ⟨rfl, rfl, rfl⟩

theorem InOrder.adopts (order : InOrder seen s) (records : List Record) :
    InOrder (seen ++ records) (records.foldl Rebuilding.adopt s) := by
  induction records generalizing seen s with
  | nil =>
      rw [List.append_nil]
      exact order
  | cons r rest ih =>
      have after := ih (order.adopt r)
      rwa [List.append_assoc, List.singleton_append] at after

theorem InOrder.settle (order : InOrder seen s) (valid : s.Agrees) : InOrder seen s.settle := by
  refine InOrder.of_filed (s := { s with retained := s.kept }) ⟨order.active, ?_⟩ (settle_filed s)
  intro key group found
  rw [kept, Table.get?_filter valid.groups_unique, Option.filter_eq_some_iff] at found
  exact order.retained key group found.1

end Rebuilding

namespace Allocator
variable {a a' : Allocator} {w : Identity} {c : Criteria} {eligible : Option (List String)} {r : Record}

/-- Every group is uniform, whether a pod has it or it is retained. -/
structure Grouped (a : Allocator) : Prop where
  active : ∀ uid group, a.active.get? uid = some group → Uniform group
  retained : ∀ key group, a.retention.groups.get? key = some group → Uniform group

namespace Grouped

theorem poolsOnly (grouped : Grouped a) (same : PoolsOnly a a') : Grouped a' := by
  rw [same]
  exact ⟨grouped.active, grouped.retained⟩

theorem filter_groups (grouped : Grouped a) (valid : Consistent a) (p : OrdinalKey × List Record → Bool) :
    Grouped { a with retention := ⟨a.retention.groups.filter p⟩ } where
  active := grouped.active
  retained := by
    intro key group found
    rw [Table.get?_filter valid.groups_unique, Option.filter_eq_some_iff] at found
    exact grouped.retained key group found.1

theorem bind (grouped : Grouped a) {records : List Record} (uniform : Uniform records) (key : Option OrdinalKey) :
    Grouped (a.bind w key records) where
  active := by
    intro uid group found
    change (a.active.put w.podUID records).get? uid = some group at found
    rw [Table.get?_put] at found
    split at found
    · cases found
      exact uniform
    · exact grouped.active uid group found
  retained := grouped.retained

theorem without (grouped : Grouped a) (w : Identity) : Grouped (a.without w) where
  active := by
    intro uid group found
    rw [active_without] at found
    split at found
    · cases found
    · exact grouped.active uid group found
  retained := grouped.retained

theorem retain (grouped : Grouped a) {records : List Record} (uniform : Uniform records) (key : OrdinalKey) :
    Grouped { a with retention := ⟨a.retention.groups.put key (records.map Record.unbound)⟩ } where
  active := grouped.active
  retained := by
    intro key' group found
    change Table.get? (a.retention.groups.put key (records.map Record.unbound)) key' = some group at found
    rw [Table.get?_put] at found
    split at found
    · cases found
      exact uniform.unbound
    · exact grouped.retained key' group found

theorem recordsFor (grouped : Grouped a) (w : Identity) : Uniform (a.recordsFor w) := by
  unfold Allocator.recordsFor
  cases found : a.active.get? w.podUID with
  | none => exact ⟨List.nil_sublist _, by simp⟩
  | some group => exact grouped.active _ group found

end Grouped

section Steps

theorem uniform_allocateFresh {index : Option Int} {records : List Record}
    (given : a.allocateFresh w index c eligible = (.ok records, a')) : Uniform records := by
  obtain ⟨kinds, fresh⟩ := allocateFresh_records given
  have shared (r : Record) (member : r ∈ records) : r.shared = (a.macs.draw.1, w.ns, w.owner, index) := by
    obtain ⟨ns, mac, binding⟩ := fresh r member
    rw [Record.shared, ns, mac, binding]
  refine ⟨?_, fun r left s right => (shared r left).trans (shared s right).symm⟩
  rw [kinds]
  exact List.filter_sublist

theorem grouped_allocate (valid : Consistent a) (grouped : Grouped a) (w : Identity) (c : Criteria)
    (eligible : Option (List String)) : Grouped (a.allocate w c eligible).2 := by
  have outcome := allocate_cases a w c eligible
  generalize a.allocate w c eligible = result at outcome
  have drawn : Grouped { a with macs := a.macs.draw.2 } := ⟨grouped.active, grouped.retained⟩
  cases outcome with
  | kept had some_record => exact grouped
  | refused fault => exact grouped
  | failed index fresh frame => exact drawn.poolsOnly frame
  | rebound named had stateful vacant retained fits =>
      exact (grouped.filter_groups valid _).bind ((grouped.retained _ _ retained).boundTo _ _ _) _
  | fresh named had stateful vacant unretained some_family given frame =>
      exact (drawn.poolsOnly frame).bind (uniform_allocateFresh given) _

theorem grouped_release (valid : Consistent a) (grouped : Grouped a) (w : Identity) : Grouped (a.release w).2 := by
  have outcome := release_cases a w
  generalize a.release w = result at outcome
  cases outcome with
  | refused fault no_bytes => exact grouped
  | idle none_had =>
      rw [Table.erase_of_absent (valid.recordsFor_eq_nil none_had)]
      exact grouped
  | freed some_record ends bytes => exact (grouped.without w).poolsOnly (freed_frame _ _)
  | retained some_record stays known vacant => exact (grouped.without w).retain (grouped.recordsFor w) _
  | clashed answer some_record known occupied stays => exact (grouped.without w).poolsOnly (freeAll_frame _ _)
  | lost fault some_record stateful mixed bytes stays => exact grouped.without w

theorem grouped_purge (valid : Consistent a) (grouped : Grouped a) (w : Identity) : Grouped (a.purge w).2 := by
  rcases purge_cases a w with ⟨fault, refused⟩ | ⟨key, _, purged⟩
  · rw [refused]
    exact grouped
  · rw [purged]
    exact (grouped.filter_groups valid _).poolsOnly (freed_frame _ _)

theorem grouped_purgeOwner (valid : Consistent a) (grouped : Grouped a) (ns : String) (owner : Owner)
    (keep : Option Int) : Grouped (a.purgeOwner ns owner keep).2 := by
  let noted : Allocator := { a with limits := a.limits.put (ownerName ns owner) ⟨owner.uid, keep.getD 0⟩ }
  have limited : Grouped noted := ⟨grouped.active, grouped.retained⟩
  exact (limited.filter_groups ⟨valid.toIndexed, valid.vacant⟩ _).poolsOnly (freed_frame _ _)

theorem sublist_rebuild (a : Allocator) (records : List Record) :
    (∀ uid group, (a.rebuild records).2.active.get? uid = some group → group.Sublist records) ∧
      ∀ key group, (a.rebuild records).2.retention.groups.get? key = some group → group.Sublist records := by
  have nothing : Rebuilding.InOrder [] (.ofPools a.pools) :=
    ⟨by simp [Rebuilding.ofPools], by simp [Rebuilding.ofPools]⟩
  have agrees := Rebuilding.agrees_adopts (s := .ofPools a.pools) Indexed.nothing records
  have order := (nothing.adopts records).settle agrees
  exact ⟨order.active, order.retained⟩

/-- An allocator that is rebuilt from its own records has no group that is not part of one it had. -/
theorem grouped_rebuild (valid : Consistent a) (grouped : Grouped a) : Grouped (a.rebuild a.records).2 := by
  obtain ⟨active, retained⟩ := sublist_rebuild a a.records
  have valid' := consistent_rebuild a a.records
  constructor
  · intro uid group found
    obtain ⟨named, _, own⟩ := valid'.bound uid group found
    have part : group.Sublist ((a.active.get? uid).getD []) := by
      have whole : group.filter (fun r => r.binding.podUID = uid) = group :=
        List.filter_eq_self.mpr fun r member => decide_eq_true (own r member)
      rw [← filter_bound valid named, ← whole]
      exact (active uid group found).filter _
    exact (grouped.recordsFor { podUID := uid, ns := "", podName := "", owner := ⟨"", "", ""⟩ }).sublist part
  · intro key group found
    obtain ⟨some_record, own⟩ := valid'.kept key group found
    have part : group.Sublist ((a.retention.groups.get? key).getD []) := by
      have whole : group.filter (fun r => r.binding.podUID = "" ∧ r.key? = some key) = group :=
        List.filter_eq_self.mpr fun r member => decide_eq_true ⟨(own r member).2.1, (own r member).1⟩
      rw [← filter_unbound valid, ← whole]
      exact (retained key group found).filter _
    cases before : a.retention.groups.get? key with
    | none =>
        rw [before] at part
        exact absurd (List.sublist_nil.mp part) some_record
    | some old =>
        rw [before] at part
        exact (grouped.retained key old before).sublist part

theorem grouped_apply (valid : Consistent a) (grouped : Grouped a) {op : Op} (own : FromOwn a op) :
    Grouped (a.apply op).2 := by
  cases op with
  | addNetwork network => exact ⟨grouped.active, grouped.retained⟩
  | addSubnet subnet => exact grouped.poolsOnly (registered_frame fun _ => addSubnet_frame)
  | removeSubnet name => exact grouped.poolsOnly (registered_frame fun _ => removeSubnet_frame)
  | allocate w c eligible => exact grouped_allocate valid grouped w c eligible
  | release w => exact grouped_release valid grouped w
  | purge w => exact grouped_purge valid grouped w
  | purgeOwner ns owner keep => exact grouped_purgeOwner valid grouped ns owner keep
  | rebuild records =>
      have same : records = a.records := own
      subst same
      exact grouped_rebuild valid grouped

end Steps

section Places

def Places (a : Allocator) (r : Record) : Prop :=
  ∃ s, a.subnet? r.subnet = some s ∧ s.family = .ok r.family ∧ s.network = r.network

theorem places_allocateFresh (registered : Registered a.pools) {index : Option Int} {records : List Record}
    (given : a.allocateFresh w index c eligible = (.ok records, a')) : ∀ r ∈ records, a.Places r := by
  have outcome := allocateFresh_cases registered w index c eligible
  rw [given] at outcome
  generalize same : (Except.ok records, a').1 = answer at outcome
  cases outcome with
  | refused => cases same
  | @given new fresh =>
      cases same
      intro r member
      rw [List.nil_append] at member
      obtain ⟨⟨i, short⟩, rfl⟩ := List.mem_iff_get.mp member
      obtain ⟨pool, _, _, first, _, same⟩ := fresh.get (fresh.length_eq ▸ short) short
      rw [same]
      exact ⟨pool.subnet, congrArg (Option.map Pool.subnet) first.listed.registered, first.listed.family, rfl⟩

theorem subnet?_apply (registered : Registered a.pools) {op : Op} {name : String} {subnet : Subnet}
    (found : (a.apply op).2.subnet? name = some subnet) :
    a.subnet? name = some subnet ∨ op = .addSubnet subnet := by
  have outcome := arranged_apply registered op
  rw [Allocator.subnet?] at found
  generalize (a.apply op).2.pools = pools at outcome found
  cases outcome with
  | served served =>
      obtain ⟨pool', present, rfl⟩ := Option.map_eq_some_iff.mp found
      obtain ⟨pool, calls, before, rfl⟩ := served.get? present
      left
      rw [Allocator.subnet?, before, Option.map_some, Pool.subnet_of_clear (Pool.clear_run pool calls)]
  | added made =>
      rw [Table.get?_put] at found
      split at found
      · cases found
        exact .inr (congrArg Op.addSubnet (Pool.ofSubnet_valid made).2.1.symm)
      · exact .inl found
  | removed gone =>
      rw [Table.get?_erase] at found
      split at found
      · cases found
      · exact .inl found

theorem subnet?_stays (registered : Registered a.pools) {op : Op} {name : String} {s s' : Subnet}
    (before : a.subnet? name = some s) (after : (a.apply op).2.subnet? name = some s') : s' = s := by
  rcases subnet?_apply registered after with same | rfl
  · rw [before] at same
    exact (Option.some.inj same).symm
  · rcases registered_snd a (a.addSubnet s') with unchanged | changed
    · rw [apply, unchanged, before] at after
      exact (Option.some.inj after).symm
    · obtain ⟨pool, _, absent, same⟩ := addSubnet_eq_ok changed
      rw [apply, same, subnet?, Table.get?_put] at after
      by_cases here : s'.name = name
      · subst here
        rw [subnet?, absent] at before
        cases before
      · rw [if_neg here, ← subnet?, before] at after
        exact (Option.some.inj after).symm

theorem places_records (valid : Consistent a) (registered : Registered a.pools) (places : ∀ r ∈ a.records, a.Places r)
    {op : Op} (own : FromOwn a op) : ∀ r ∈ (a.apply op).2.records, a.Places r := by
  cases op with
  | allocate w c eligible =>
      exact forall_records_allocate valid places (fun _ before => before)
        fun _ _ _ _ given => places_allocateFresh registered given
  | release w => exact forall_records_release valid places (fun _ before => before) w
  | rebuild records =>
      have same : records = a.records := own
      subst same
      exact fun r member => places r (mem_rebuild member)
  | _ => exact fun r member => places r (mem_records_apply valid rfl member)

theorem places_apply (valid : Consistent a) (registered : Registered a.pools) {stray : List Spot}
    (accounts : Accounts a stray) (places : ∀ r ∈ a.records, a.Places r) {op : Op} (own : FromOwn a op) :
    ∀ r ∈ (a.apply op).2.records, (a.apply op).2.Places r := by
  intro r member
  obtain ⟨s, before, family, network⟩ := places_records valid registered places own r member
  obtain ⟨pool, _, found, _, _⟩ := (accounts_apply valid accounts op).exists_pool member
  have after : (a.apply op).2.subnet? r.subnet = some pool.subnet := by rw [subnet?, found, Option.map_some]
  rw [← subnet?_stays registered before after] at family network
  exact ⟨pool.subnet, after, family, network⟩

end Places

section Runs

/-- What every run keeps that rebuilds from nothing but its own records. -/
structure Formed (a : Allocator) : Prop where
  steady : Steady a
  registered : Registered a.pools
  accounts : ∃ stray, Accounts a stray
  grouped : Grouped a
  places : ∀ r ∈ a.records, a.Places r

theorem formed_apply (formed : Formed a) {op : Op} (own : FromOwn a op) : Formed (a.apply op).2 := by
  obtain ⟨steady, registered, ⟨stray, accounts⟩, grouped, places⟩ := formed
  exact {
    steady := steady_apply steady own
    registered := registered_apply registered op
    accounts := ⟨_, accounts_apply steady.consistent accounts op⟩
    grouped := grouped_apply steady.consistent grouped own
    places := places_apply steady.consistent registered accounts places own }

theorem formed_bare (macs : MacSource) : Formed { macs := macs } where
  steady := steady_bare macs
  registered := Registered.nothing
  accounts := ⟨[], Booked.nothing⟩
  grouped := ⟨by simp, by simp⟩
  places := by
    intro r member
    cases member

theorem formed_of_run (start : Started a) {ops : List Op} (own : Along FromOwn a ops) : Formed (a.run ops) := by
  have step (b : Allocator) (op : Op) (own : FromOwn b op) (formed : Formed b) : Formed (b.apply op).2 :=
    formed_apply formed own
  exact run_keeps step own (started_keeps formed_bare (fun _ _ => trivial) (fun _ _ => trivial) step start)

/-- A record agrees with its own address and with the registered subnet, whose pool may hand that address out. -/
structure Housed (a : Allocator) (r : Record) (pool : Pool) (address : Address) : Prop where
  registered : a.pools.get? r.subnet = some pool
  family : pool.subnet.family = .ok r.family
  network : pool.subnet.network = r.network
  reads : Address.ofText r.address = .ok address
  kind : address.family = r.family
  usable : pool.contains r.address = true

theorem Formed.housed (formed : Formed a) (member : r ∈ a.records) : ∃ pool address, Housed a r pool address := by
  obtain ⟨_, accounts⟩ := formed.accounts
  obtain ⟨pool, n, found, value, used⟩ := accounts.exists_pool member
  obtain ⟨s, known, family, network⟩ := formed.places r member
  rw [subnet?, found] at known
  cases known
  have valid := formed.registered.valid _ pool found
  obtain ⟨address, read, kind, _⟩ := Pool.valueOf_eq_ok_iff.mp value
  have own := (Pool.ofSubnet_valid (formed.registered.made _ pool found)).2.2.2
  have same : pool.family = r.family := Except.ok.inj (own.symm.trans family)
  refine ⟨pool, address, found, family, network, ?_, kind.trans same, ?_⟩
  · rw [Address.ofText, read]
  · rw [Pool.contains_of_value value]
    exact valid.used_usable n used

/-- Every group is uniform, with a pod or retained, and all its records are true to their subnets. -/
theorem groups_well_formed (start : Started a) {ops : List Op} (own : Along FromOwn a ops) :
    let b := a.run ops
    ∀ group ∈ b.active.values ++ b.retention.groups.values,
      Uniform group ∧ ∀ r ∈ group, ∃ pool address, Housed b r pool address := by
  intro b group member
  have formed := formed_of_run start own
  have valid := formed.steady.consistent
  have inside (r : Record) (present : r ∈ group) : r ∈ b.records := by
    rcases List.mem_append.mp member with active | retained
    · exact List.mem_append_left _ (List.mem_flatten.mpr ⟨group, active, present⟩)
    · exact List.mem_append_right _ (List.mem_flatten.mpr ⟨group, retained, present⟩)
  refine ⟨?_, fun r present => formed.housed (inside r present)⟩
  rcases List.mem_append.mp member with active | retained
  · obtain ⟨uid, found⟩ := (Table.mem_values valid.active_unique).mp active
    exact formed.grouped.active uid group found
  · obtain ⟨key, found⟩ := (Table.mem_values valid.groups_unique).mp retained
    exact formed.grouped.retained key group found

/-- The first pod of `web` gives way to another after a restart, and a second one asks for the second family only. -/
def regrouped : List Op := stopped ++ [
  .rebuild (sample.run stopped).records,
  .allocate (webPod "web-1" "u2") ⟨.underlay, [.v6]⟩ none,
  .release (webPod "web-1" "u2"),
  .removeSubnet "four",
  .allocate (webPod "web-0" "u3") ⟨.underlay, [.v6, .v4]⟩ none]

theorem regrouped_well_formed :
    let b := sample.run regrouped
    b.active.values.map (·.map (·.address)) = [["10.0.0.1", "::9"]] ∧
      b.retention.groups.values.map (·.map (·.address)) = [["::a"]] ∧
      ∀ group ∈ b.active.values ++ b.retention.groups.values,
        Uniform group ∧ ∀ r ∈ group, ∃ pool address, Housed b r pool address := by
  have own : Along FromOwn sample regrouped :=
    along_append.mpr ⟨⟨trivial, trivial, trivial⟩, rfl, trivial, trivial, trivial, trivial, trivial⟩
  exact ⟨by decide +kernel, by decide +kernel, groups_well_formed sample_started own⟩

end Runs

end Allocator
end PodAddressing
