import PodAddressing.Proofs.Allocator.Steps
/-!
Runs. What an allocator has when it is made, and what every operation keeps, it has after every run.
-/

namespace PodAddressing.Allocator
variable {a : Allocator} {ops : List Op}

/-- An allocator as it is made over networks and subnets when no store is given to it. -/
def Started (a : Allocator) : Prop :=
  ∃ macs networks subnets, create macs networks subnets = .ok a

/-- Every operation of a run meets a condition on it and on the allocator that it finds. -/
def Along (P : Allocator → Op → Prop) : Allocator → List Op → Prop
  | _, [] => True
  | a, op :: rest => P a op ∧ Along P (a.apply op).2 rest

@[simp] theorem run_nil (a : Allocator) : a.run [] = a := rfl

@[simp] theorem run_cons (a : Allocator) (op : Op) (ops : List Op) :
    a.run (op :: ops) = (a.apply op).2.run ops := rfl

theorem run_append (a : Allocator) (before after : List Op) :
    a.run (before ++ after) = (a.run before).run after :=
  List.foldl_append

theorem along_append {P : Allocator → Op → Prop} {before after : List Op} :
    Along P a (before ++ after) ↔ Along P a before ∧ Along P (a.run before) after := by
  induction before generalizing a with
  | nil => simp [Along]
  | cons op rest ih => simp only [List.cons_append, Along, run_cons, ih, and_assoc]

theorem along_of_all {P : Op → Prop} (every : ∀ op ∈ ops, P op) : Along (fun _ => P) a ops := by
  induction ops generalizing a with
  | nil => trivial
  | cons op rest ih =>
      obtain ⟨first, others⟩ := List.forall_mem_cons.mp every
      exact ⟨first, ih others⟩

theorem run_keeps {P : Allocator → Op → Prop} {Inv : Allocator → Prop}
    (step : ∀ a op, P a op → Inv a → Inv (a.apply op).2) (along : Along P a ops) (start : Inv a) :
    Inv (a.run ops) := by
  induction ops generalizing a with
  | nil => exact start
  | cons op rest ih => exact ih along.2 (step a op along.1 start)

theorem foldlM_keeps {Inv : Allocator → Prop}
    (step : ∀ a s a', Inv a → a.addSubnet s = .ok a' → Inv a') {subnets : List Subnet}
    {a' : Allocator} (start : Inv a) (added : subnets.foldlM addSubnet a = .ok a') : Inv a' := by
  induction subnets generalizing a with
  | nil =>
      cases added
      exact start
  | cons s rest ih =>
      obtain ⟨next, first, others⟩ := ok_of_bind added
      exact ih (step a s next start first) others

theorem given_retention (given : Retention) :
    (((some given).filter fun s => takesOver (some s)).getD {} : Retention) = given := by
  by_cases stocked : 0 < given.size
  · simp [Option.filter, takesOver, stocked]
  · obtain ⟨groups⟩ := given
    have bare : groups = [] := List.eq_nil_of_length_eq_zero (Nat.eq_zero_of_not_pos stocked)
    subst bare
    rfl

theorem addNetworks_frame (a : Allocator) (networks : List Network) :
    networks.foldl addNetwork a = { a with networks := (networks.foldl addNetwork a).networks } := by
  induction networks generalizing a with
  | nil => rfl
  | cons network rest ih =>
      rw [List.foldl_cons, ih]
      rfl

theorem create_eq_ok {macs : MacSource} {networks : List Network} {subnets : List Subnet}
    {given : Option Retention} (made : create macs networks subnets given = .ok a) :
    ∃ registered : Table String Network, ∃ bare : Allocator,
      bare = {
        macs := macs
        networks := registered
        retention := (given.filter fun s => takesOver (some s)).getD {} } ∧
      subnets.foldlM addSubnet bare = .ok a ∧ PoolsOnly bare a := by
  unfold create at made
  dsimp only at made
  rw [addNetworks_frame] at made
  refine ⟨_, _, rfl, made, ?_⟩
  have step (b b' c : Allocator) (s : Subnet) (before : PoolsOnly b b') (added : b'.addSubnet s = .ok c) :
      PoolsOnly b c := before.trans (addSubnet_frame added)
  have unchanged (b : Allocator) : PoolsOnly b b := rfl
  exact foldlM_keeps (fun b' s c => step _ b' c s) (unchanged _) made

theorem started_keeps {P : Allocator → Op → Prop} {Inv : Allocator → Prop}
    (bare : ∀ macs, Inv { macs := macs }) (network : ∀ a n, P a (.addNetwork n))
    (subnet : ∀ a s, P a (.addSubnet s))
    (step : ∀ a op, P a op → Inv a → Inv (a.apply op).2) (start : Started a) : Inv a := by
  obtain ⟨macs, networks, subnets, made⟩ := start
  have named (ns : List Network) (b : Allocator) (holds : Inv b) : Inv (ns.foldl addNetwork b) := by
    induction ns generalizing b with
    | nil => exact holds
    | cons n rest ih => exact ih _ (step b (.addNetwork n) (network b n) holds)
  refine foldlM_keeps ?_ (named networks _ (bare macs)) made
  intro b s b' holds added
  have kept := step b (.addSubnet s) (subnet b s) holds
  simpa [apply, registered, added] using kept

theorem started_of_made {macs : MacSource} {networks : List Network} {subnets : List Subnet}
    (made : (create macs networks subnets).isOk = true) (other : Allocator) :
    Started ((create macs networks subnets).toOption.getD other) :=
  ⟨macs, networks, subnets, eq_ok_of_isOk made other⟩

/-- What every operation keeps without a condition holds after every run. -/
theorem run_always {Inv : Allocator → Prop} (bare : ∀ macs, Inv { macs := macs })
    (step : ∀ a op, Inv a → Inv (a.apply op).2) (start : Started a) (ops : List Op) :
    Inv (a.run ops) := by
  have unconditional (b : Allocator) (op : Op) (_ : True) (holds : Inv b) : Inv (b.apply op).2 :=
    step b op holds
  have first : Inv a :=
    started_keeps bare (fun _ _ => trivial) (fun _ _ => trivial) unconditional start
  exact run_keeps unconditional (along_of_all fun _ _ => trivial) first

section Sample

def sampleMacs : MacSource := { nth := fun n => Mac.ofOctets [0, 0, 0, 0, 0, n] }

def sampleNetwork : Network := ⟨"pods", .underlay, [.v4, .v6]⟩

def sampleSubnets : List Subnet := [
  { name := "four", network := "pods", cidr := "10.0.0.0/29" },
  { name := "six", network := "pods", cidr := "::8/126" }]

def sample : Allocator :=
  (create sampleMacs [sampleNetwork] sampleSubnets).toOption.getD { macs := sampleMacs }

theorem sample_started : Started sample := started_of_made (by decide +kernel) _

def webPod (podName podUID : String) : Identity where
  ns := "shop"
  podName := podName
  owner := ⟨"StatefulSet", "web", "set-1"⟩
  podUID := podUID
  nodeName := "node-1"

def webRecord (address podUID : String) : Record where
  address := address
  family := .v4
  mac := "02:00:00:00:00:09"
  subnet := "four"
  network := "pods"
  ns := "shop"
  binding := ⟨podUID, "web-0", "", ⟨"StatefulSet", "web", "set-1"⟩, some 0⟩

end Sample

/-!
Replica counts. Only a purge of an owner notes how many replicas the owner has, and it notes so for the name of
the owner. What is known after a run is what the last such purge of it said.
-/

variable {op : Op} {owner : OwnerName} {limit : Limit}

def Op.limitOn? (owner : OwnerName) : Op → Option Limit
  | .purgeOwner ns seen keep =>
      if ownerName ns seen = owner then some ⟨seen.uid, keep.getD 0⟩ else none
  | _ => none

theorem limitOn?_eq_some (noted : op.limitOn? owner = some limit) :
    ∃ ns seen keep, op = .purgeOwner ns seen keep ∧ ownerName ns seen = owner ∧
      limit = ⟨seen.uid, keep.getD 0⟩ := by
  cases op with
  | purgeOwner ns seen keep =>
      simp only [Op.limitOn?] at noted
      split at noted
      case isTrue same =>
        cases noted
        exact ⟨ns, seen, keep, rfl, same, rfl⟩
      case isFalse => cases noted
  | _ => cases noted

section Beyond
variable {r : Record} {key : OrdinalKey}

theorem ownerName_of_key? (known : r.key? = some key) :
    ownerName r.ns r.binding.owner = ⟨key.ns, key.kind, key.owner⟩ := by
  obtain ⟨_, same⟩ := Record.index_of_key? known
  rw [← same]
  rfl

theorem isBeyondLimit_iff (known : r.key? = some key) :
    a.isBeyondLimit r = true ↔ ∃ limit, a.limits.get? ⟨key.ns, key.kind, key.owner⟩ = some limit ∧
      Owner.uidsClash limit.uid r.binding.owner.uid = false ∧ limit.replicas ≤ key.index := by
  obtain ⟨index, _⟩ := Record.index_of_key? known
  rw [isBeyondLimit, ownerName_of_key? known, index]
  cases found : a.limits.get? ⟨key.ns, key.kind, key.owner⟩ with
  | none => simp
  | some limit => simp

theorem outlives_cons {rest : List Record} (known : ∀ s ∈ r :: rest, s.key? = some key) :
    a.outlives (r :: rest) = !a.isBeyondLimit r := by
  have stateful : (r :: rest).all Record.isStateful = true :=
    List.all_eq_true.mpr fun s member => (Record.isStateful_iff s).mpr ⟨key, known s member⟩
  rw [outlives, stateful, Bool.true_and, List.head?_cons, Option.any_some]

end Beyond

theorem limits_allocate (a : Allocator) (w : Identity) (c : Criteria)
    (eligible : Option (List String)) : (a.allocate w c eligible).2.limits = a.limits := by
  have outcome := allocate_cases a w c eligible
  generalize a.allocate w c eligible = result at outcome
  cases outcome with
  | kept had some_record => rfl
  | refused fault => rfl
  | failed index fresh frame =>
      exact frame.limits
  | rebound named had stateful vacant retained fits => rfl
  | @fresh key records a' named had stateful vacant unretained some_family given frame =>
      exact frame.limits

theorem limits_release (a : Allocator) (w : Identity) : (a.release w).2.limits = a.limits := by
  have outcome := release_cases a w
  generalize a.release w = result at outcome
  cases outcome with
  | refused fault => rfl
  | idle none_had => rfl
  | freed some_record ends => exact (freed_frame (a.without w) _).limits
  | retained some_record stays known vacant => rfl
  | clashed answer some_record known occupied => exact (freeAll_frame (a.without w) _).limits
  | lost fault some_record stateful mixed => rfl

theorem limits_purge (a : Allocator) (w : Identity) : (a.purge w).2.limits = a.limits := by
  rcases purge_cases a w with ⟨fault, refused⟩ | ⟨key, _, purged⟩
  · rw [refused]
  · rw [purged]
    exact (freed_frame _ _).limits

theorem limits_purgeOwner (a : Allocator) (ns : String) (seen : Owner) (keep : Option Int) :
    (a.purgeOwner ns seen keep).2.limits =
      a.limits.put (ownerName ns seen) ⟨seen.uid, keep.getD 0⟩ :=
  (freed_frame _ _).limits

theorem limits_apply (a : Allocator) (op : Op) (owner : OwnerName) :
    (a.apply op).2.limits.get? owner = (op.limitOn? owner).or (a.limits.get? owner) := by
  have unnoted {a' : Allocator} (same : a'.limits = a.limits) :
      a'.limits.get? owner = (none : Option Limit).or (a.limits.get? owner) := by
    rw [same, Option.none_or]
  cases op with
  | addNetwork network => exact unnoted rfl
  | addSubnet subnet => exact unnoted (registered_frame fun _ => addSubnet_frame).limits
  | removeSubnet name => exact unnoted (registered_frame fun _ => removeSubnet_frame).limits
  | allocate w c eligible => exact unnoted (limits_allocate a w c eligible)
  | release w => exact unnoted (limits_release a w)
  | purge w => exact unnoted (limits_purge a w)
  | purgeOwner ns seen keep =>
      rw [apply, limits_purgeOwner, Table.get?_put, Op.limitOn?]
      by_cases same : ownerName ns seen = owner
      · rw [if_pos same, if_pos same, Option.some_or]
      · rw [if_neg same, if_neg same, Option.none_or]
  | rebuild records => exact unnoted rfl

/-- The last purge of an owner says how many replicas it has. -/
theorem limits_run (a : Allocator) (ops : List Op) (owner : OwnerName) :
    (a.run ops).limits.get? owner =
      (ops.filterMap (Op.limitOn? owner)).getLast?.or (a.limits.get? owner) := by
  induction ops generalizing a with
  | nil => rfl
  | cons op rest ih =>
      rw [run_cons, ih, limits_apply]
      cases noted : op.limitOn? owner with
      | none => rw [List.filterMap_cons_none noted, Option.none_or]
      | some limit =>
          rw [List.filterMap_cons_some noted, List.getLast?_cons, Option.some_or]
          cases (rest.filterMap (Op.limitOn? owner)).getLast? <;> rfl

end PodAddressing.Allocator
