import PodAddressing.Proofs.Allocator.Bindings
import PodAddressing.Proofs.Allocator.Rebinding
import PodAddressing.Proofs.Allocator.Selection
/-!
What an allocation looks at and what it touches: the pools of the subnets that are candidates for it, what its own pod
and its own ordinal have, and the next hardware address. Where two allocators agree on these it goes the same way on
both, and all the rest it leaves alone.
-/

namespace PodAddressing

def Record.withoutMac (r : Record) : Record := { r with mac := "" }

def Retention.without (s : Retention) (taken : Option OrdinalKey) : Retention :=
  ⟨taken.elim s.groups s.groups.erase⟩

def MacSource.after (s : MacSource) (drawn : Bool) : MacSource := if drawn then s.draw.2 else s

namespace Allocator
variable {a b : Allocator} {w : Identity} {c : Criteria} {eligible : Option (List String)}

section Candidates

/-- A name under which a subnet is registered that may serve a request: it is eligible, of a family asked for, and in a
network of the type asked for that serves the family. -/
def Candidate (a : Allocator) (c : Criteria) (eligible : Option (List String)) (name : String) : Prop :=
  ∃ s f network, a.subnet? name = some s ∧ s.family = .ok f ∧ f ∈ c.families ∧
    a.networks.get? s.network = some network ∧ network.type = c.networkType ∧ network.supports f = true ∧
    ∀ names, eligible = some names → name ∈ names

theorem candidate_congr (networks : b.networks = a.networks) (subnets : ∀ name, b.subnet? name = a.subnet? name)
    (name : String) : b.Candidate c eligible name ↔ a.Candidate c eligible name := by
  simp only [Candidate, networks, subnets]

theorem candidate_of_serves {f : Family} {pool : Pool} (asked : f ∈ c.orderedFamilies)
    (serves : a.Serves c.networkType eligible f pool) : a.Candidate c eligible pool.subnet.name := by
  obtain ⟨network, found, type, supports⟩ := serves.network
  have wanted : f ∈ c.families := by simpa using (List.mem_filter.mp asked).2
  exact ⟨pool.subnet, f, network, congrArg (Option.map Pool.subnet) serves.registered, serves.family, wanted, found,
    type, supports, serves.named⟩

end Candidates

section Pools
variable {names : String → Prop} {networkType : NetworkType} {families : List Family} {index : Option Int}
variable {mac : String} {taken : List Record}

def Within (names : String → Prop) (networkType : NetworkType) (eligible : Option (List String))
    (families : List Family) (a : Allocator) : Prop :=
  ∀ f ∈ families, ∀ pool, a.Serves networkType eligible f pool → names pool.subnet.name

theorem Within.setPool (within : Within names networkType eligible families a) {pool : Pool}
    (named : names pool.subnet.name) : Within names networkType eligible families (a.setPool pool) := by
  intro f asked q serves
  by_cases same : pool.subnet.name = q.subnet.name
  · exact same ▸ named
  · have unchanged : (a.setPool pool).pools.get? q.subnet.name = a.pools.get? q.subnet.name :=
      Table.get?_put_ne same a.pools pool
    exact within f asked q (serves.of_found rfl (unchanged.symm.trans serves.registered))

theorem acquire_named {f : Family} {address : Address} {pool : Pool} (registered : Registered a.pools)
    (within : ∀ pool, a.Serves networkType eligible f pool → names pool.subnet.name)
    (given : a.acquire networkType f eligible = .ok (address, pool)) :
    names pool.subnet.name ∧ Registered (a.setPool pool).pools := by
  obtain ⟨_, _, _, served⟩ := acquire_registered registered given
  have outcome : Acquired (a.Serves networkType eligible f) networkType f (a.acquire networkType f eligible) :=
    acquire_cases registered
  rw [given] at outcome
  cases outcome with
  | given first acquired =>
      rw [Pool.subnet_of_clear (Pool.acquire_clear acquired)]
      exact ⟨within _ first.listed, registered.of_served served⟩

section Beside
variable {name : String}

theorem freeAll_beside (registered : Registered a.pools) {records : List Record}
    (others : ∀ r ∈ records, r.subnet ≠ name) : (a.freeAll records).2.pools.get? name = a.pools.get? name := by
  induction records generalizing a with
  | nil => rfl
  | cons r rest ih =>
      obtain ⟨other, others⟩ := List.forall_mem_cons.mp others
      unfold freeAll
      cases freed : a.free r with
      | error fault => rfl
      | ok next =>
          have unchanged : next.pools.get? name = a.pools.get? name := by
            unfold free at freed
            split at freed
            case h_1 =>
              cases freed
              rfl
            case h_2 pool found =>
              obtain ⟨⟨_, pool'⟩, answer, rfl⟩ := ok_of_map freed
              have named : pool'.subnet.name = r.subnet := by
                rw [Pool.subnet_of_clear (Pool.release_clear answer)]
                exact registered.named _ _ found
              exact Table.get?_put_ne (named ▸ other) a.pools pool'
          exact (ih (registered.of_served (served_free registered freed)) others).trans unchanged

theorem acquireAll_beside (registered : Registered a.pools)
    (within : Within names networkType eligible families a) (inside : ∀ r ∈ taken, names r.subnet)
    (outside : ¬ names name) :
    (a.acquireAll w index mac networkType eligible taken families).2.pools.get? name = a.pools.get? name := by
  induction families generalizing a taken with
  | nil => rfl
  | cons f rest ih =>
      obtain ⟨here, later⟩ := List.forall_mem_cons.mp within
      unfold acquireAll
      cases given : a.acquire networkType f eligible with
      | error fault =>
          exact freeAll_beside registered fun r member same => outside (same ▸ inside r member)
      | ok found =>
          obtain ⟨address, pool⟩ := found
          obtain ⟨named, registered'⟩ := acquire_named registered here given
          have other : pool.subnet.name ≠ name := fun same => outside (same ▸ named)
          have inside' : ∀ r ∈ taken ++ [freshRecord w index mac f address pool.subnet], names r.subnet :=
            List.forall_mem_append.mpr ⟨inside, List.forall_mem_singleton.mpr named⟩
          exact (ih registered' (Within.setPool later named) inside').trans (Table.get?_put_ne other a.pools pool)

end Beside

section Congruence

def SamePools (names : String → Prop) (a b : Allocator) : Prop :=
  ∀ name, names name → b.pools.get? name = a.pools.get? name

theorem SamePools.setPool (same : SamePools names a b) (pool : Pool) :
    SamePools names (a.setPool pool) (b.setPool pool) := by
  intro name inside
  change (b.pools.put pool.subnet.name pool).get? name = (a.pools.put pool.subnet.name pool).get? name
  rw [Table.get?_put, Table.get?_put, same name inside]

theorem SamePools.freeAll (same : SamePools names a b) {records : List Record}
    (inside : ∀ r ∈ records, names r.subnet) : SamePools names (a.freeAll records).2 (b.freeAll records).2 := by
  induction records generalizing a b with
  | nil => exact same
  | cons r rest ih =>
      obtain ⟨here, later⟩ := List.forall_mem_cons.mp inside
      unfold Allocator.freeAll free
      rw [same r.subnet here]
      cases found : a.pools.get? r.subnet with
      | none => exact ih same later
      | some pool =>
          dsimp only
          cases pool.release r.address with
          | error fault => exact same
          | ok answer => exact ih (same.setPool answer.2) later

/-- Two allocators that agree on certain pools, and there are no others that could serve a request. -/
structure Aligned (names : String → Prop) (networkType : NetworkType) (eligible : Option (List String))
    (families : List Family) (a b : Allocator) : Prop where
  registered : Registered a.pools ∧ Registered b.pools
  networks : b.networks = a.networks
  pools : SamePools names a b
  within : Within names networkType eligible families a ∧ Within names networkType eligible families b

/-- Then the same pools are tried, for these are told by membership and by their order. -/
theorem Aligned.acquire {f : Family} {rest : List Family}
    (aligned : Aligned names networkType eligible (f :: rest) a b) :
    b.acquire networkType f eligible = a.acquire networkType f eligible := by
  obtain ⟨⟨registered, registered'⟩, networks, pools, within, within'⟩ := aligned
  have here := (List.forall_mem_cons.mp within).1
  have here' := (List.forall_mem_cons.mp within').1
  have serves (pool : Pool) : b.Serves networkType eligible f pool ↔ a.Serves networkType eligible f pool := by
    constructor
    · intro serves
      exact serves.of_found networks.symm ((pools _ (here' pool serves)).symm.trans serves.registered)
    · intro serves
      exact serves.of_found networks ((pools _ (here pool serves)).trans serves.registered)
  have irreflexive : Std.Irrefl fun p q : Pool => p.rank < q.rank := ⟨fun p => lt_irrefl p.rank⟩
  have antisymmetric : Std.Antisymm fun p q : Pool => p.rank < q.rank :=
    ⟨fun p q before behind => absurd behind before.asymm⟩
  have tried : b.eligiblePools networkType f eligible = a.eligiblePools networkType f eligible := by
    refine (eligiblePools_ordered registered').eq_of_mem_iff (eligiblePools_ordered registered) fun pool => ?_
    rw [mem_eligiblePools registered', mem_eligiblePools registered, serves]
  unfold Allocator.acquire
  rw [tried]

theorem Aligned.next {f : Family} {rest : List Family} {address : Address} {pool : Pool}
    (aligned : Aligned names networkType eligible (f :: rest) a b)
    (given : a.acquire networkType f eligible = .ok (address, pool)) :
    names pool.subnet.name ∧ Aligned names networkType eligible rest (a.setPool pool) (b.setPool pool) := by
  have given' := aligned.acquire.trans given
  obtain ⟨⟨registered, registered'⟩, networks, pools, within, within'⟩ := aligned
  obtain ⟨here, later⟩ := List.forall_mem_cons.mp within
  obtain ⟨here', later'⟩ := List.forall_mem_cons.mp within'
  obtain ⟨named, after⟩ := acquire_named registered here given
  obtain ⟨_, after'⟩ := acquire_named registered' here' given'
  exact ⟨named, ⟨after, after'⟩, networks, pools.setPool pool, Within.setPool later named,
    Within.setPool later' named⟩

theorem acquireAll_congr (aligned : Aligned names networkType eligible families a b)
    (inside : ∀ r ∈ taken, names r.subnet) (w : Identity) (index : Option Int) (mac : String) :
    let x := a.acquireAll w index mac networkType eligible taken families
    let y := b.acquireAll w index mac networkType eligible taken families
    y.1 = x.1 ∧ SamePools names x.2 y.2 := by
  induction families generalizing a b taken with
  | nil => exact ⟨rfl, aligned.pools⟩
  | cons f rest ih =>
      unfold acquireAll
      rw [aligned.acquire]
      cases given : a.acquire networkType f eligible with
      | error fault => exact ⟨rfl, aligned.pools.freeAll inside⟩
      | ok found =>
          obtain ⟨address, pool⟩ := found
          obtain ⟨named, next⟩ := aligned.next given
          exact ih next (List.forall_mem_append.mpr ⟨inside, List.forall_mem_singleton.mpr named⟩)

def sansMac (answer : Except Fault (List Record)) : Except Fault (List Record) :=
  answer.map (·.map Record.withoutMac)

theorem freeAll_withoutMac (a : Allocator) (records : List Record) :
    a.freeAll (records.map Record.withoutMac) = a.freeAll records := by
  induction records generalizing a with
  | nil => rfl
  | cons r rest ih =>
      have same : a.free r.withoutMac = a.free r := rfl
      simp only [List.map_cons, freeAll, same, ih]

theorem acquireAll_mac {mac' : String} {taken' : List Record}
    (alike : taken'.map Record.withoutMac = taken.map Record.withoutMac) :
    let x := a.acquireAll w index mac networkType eligible taken families
    let y := a.acquireAll w index mac' networkType eligible taken' families
    sansMac y.1 = sansMac x.1 ∧ y.2 = x.2 := by
  induction families generalizing a taken taken' with
  | nil => exact ⟨congrArg Except.ok alike, rfl⟩
  | cons f rest ih =>
      unfold acquireAll
      cases a.acquire networkType f eligible with
      | error fault =>
          refine ⟨rfl, ?_⟩
          dsimp only
          rw [← freeAll_withoutMac a taken', alike, freeAll_withoutMac]
      | ok found =>
          obtain ⟨address, pool⟩ := found
          refine ih ?_
          rw [List.map_append, List.map_append, alike]
          rfl

theorem allocateFresh_congr (aligned : Aligned names c.networkType eligible c.orderedFamilies a b) (w : Identity)
    (index : Option Int) :
    let x := a.allocateFresh w index c eligible
    let y := b.allocateFresh w index c eligible
    sansMac y.1 = sansMac x.1 ∧ SamePools names x.2 y.2 := by
  have drawn : Aligned names c.networkType eligible c.orderedFamilies { a with macs := a.macs.draw.2 }
      { b with macs := b.macs.draw.2 } := by
    obtain ⟨registered, networks, pools, within, within'⟩ := aligned
    refine ⟨registered, networks, pools, fun f asked pool serves => ?_, fun f asked pool serves => ?_⟩
    · exact within f asked pool (serves.of_found rfl serves.registered)
    · exact within' f asked pool (serves.of_found rfl serves.registered)
  obtain ⟨answer, pools⟩ := acquireAll_congr drawn (List.forall_mem_nil _) w index a.macs.draw.1
  -- What `b` does with the hardware address that `a` draws.
  let z := { b with macs := b.macs.draw.2 }.acquireAll w index a.macs.draw.1 c.networkType eligible []
    c.orderedFamilies
  obtain ⟨answer', same⟩ : sansMac (b.allocateFresh w index c eligible).1 = sansMac z.1 ∧
      (b.allocateFresh w index c eligible).2 = z.2 := acquireAll_mac rfl
  refine ⟨answer'.trans (congrArg sansMac answer), ?_⟩
  intro name inside
  exact (congrArg (fun x : Allocator => x.pools.get? name) same).trans (pools name inside)

end Congruence
end Pools

section Frame

/-- What lies outside a request is the same afterwards: other pods and ordinals, and pools that are no candidates. -/
structure Beside (a : Allocator) (w : Identity) (c : Criteria) (eligible : Option (List String)) (a' : Allocator) :
    Prop where
  networks : a'.networks = a.networks
  limits : a'.limits = a.limits
  subnets : ∀ name, a'.subnet? name = a.subnet? name
  pools : ∀ name, ¬ a.Candidate c eligible name → a'.pools.get? name = a.pools.get? name
  active : ∀ uid, w.podUID ≠ uid → a'.active.get? uid = a.active.get? uid
  holders : ∀ key, w.statefulKey? ≠ .ok (some key) → a'.holders.get? key = a.holders.get? key
  groups : ∀ key, w.statefulKey? ≠ .ok (some key) → a'.retention.groups.get? key = a.retention.groups.get? key

theorem within_candidates (a : Allocator) (c : Criteria) (eligible : Option (List String)) :
    Within (a.Candidate c eligible) c.networkType eligible c.orderedFamilies a :=
  fun _ asked _ serves => candidate_of_serves asked serves

theorem allocateFresh_beside (registered : Registered a.pools) {name : String}
    (outside : ¬ a.Candidate c eligible name) (w : Identity) (index : Option Int) :
    (a.allocateFresh w index c eligible).2.pools.get? name = a.pools.get? name :=
  acquireAll_beside (a := { a with macs := a.macs.draw.2 }) registered
    (within_candidates { a with macs := a.macs.draw.2 } c eligible) (List.forall_mem_nil _) outside

theorem beside_allocate (registered : Registered a.pools) (w : Identity) (c : Criteria)
    (eligible : Option (List String)) : Beside a w c eligible (a.allocate w c eligible).2 := by
  have subnets := subnet?_of_served (served_allocate registered w c eligible)
  have active (uid : String) (other : w.podUID ≠ uid) := active_allocate_ne (a := a) other c eligible
  have outcome := allocate_cases a w c eligible
  generalize a.allocate w c eligible = result at outcome subnets active
  cases outcome with
  | kept had some_record =>
      exact ⟨rfl, rfl, subnets, fun _ _ => rfl, active, fun _ _ => rfl, fun _ _ => rfl⟩
  | refused fault =>
      exact ⟨rfl, rfl, subnets, fun _ _ => rfl, active, fun _ _ => rfl, fun _ _ => rfl⟩
  | @failed index fault a' fresh frame =>
      have pools (name : String) (outside : ¬ a.Candidate c eligible name) :=
        allocateFresh_beside registered outside w index
      rw [fresh] at pools
      exact ⟨frame.networks, frame.limits, subnets, pools, active, fun _ _ => by rw [frame.holders],
        fun _ _ => by rw [frame.retention]⟩
  | @rebound key kept named had stateful vacant retained fits =>
      have other (k : OrdinalKey) (foreign : w.statefulKey? ≠ .ok (some k)) : key ≠ k := by
        rintro rfl
        exact foreign stateful
      refine ⟨rfl, rfl, subnets, fun _ _ => rfl, active, fun k foreign => ?_, fun k foreign => ?_⟩
      · exact Table.get?_put_ne (other k foreign) _ _
      · exact (Table.get?_erase _ _ _).trans (if_neg (other k foreign))
  | @fresh key records a' named had stateful vacant unretained some_family given frame =>
      have pools (name : String) (outside : ¬ a.Candidate c eligible name) :=
        allocateFresh_beside registered outside w (key.map (·.index))
      rw [given] at pools
      refine ⟨frame.networks, frame.limits, subnets, pools, active, fun k foreign => ?_, fun k _ => ?_⟩
      · change (key.elim a'.holders fun key => a'.holders.put key w.podUID).get? k = a.holders.get? k
        rw [frame.holders]
        cases key with
        | none => rfl
        | some key =>
            have other : key ≠ k := by
              rintro rfl
              exact foreign stateful
            exact Table.get?_put_ne other _ _
      · change a'.retention.groups.get? k = a.retention.groups.get? k
        rw [frame.retention]

theorem Beside.candidate_iff {a' : Allocator} (beside : Beside a w c eligible a') {d : Criteria}
    {others : Option (List String)} {name : String} : a'.Candidate d others name ↔ a.Candidate d others name :=
  candidate_congr beside.networks beside.subnets name

end Frame

section Stages

/-- What is answered before the pools and what is retained are looked at, or else the ordinal to serve. -/
def screened (a : Allocator) (w : Identity) (c : Criteria) :
    Except (Except Fault (List Record)) (Option OrdinalKey) :=
  if w.podUID = "" then .error (.error (.bad (.noUID w.ns w.podName)))
  else if c.orderedFamilies = [] then .error (.error (.bad .noFamily))
  else if !w.hasBytes then .error (.error .unencodable)
  else
    match w.statefulKey? with
    | .error fault => .error (.error fault)
    | .ok key =>
        match a.recordsFor w, key.bind a.holders.get? with
        | r :: rest, _ => .error (.ok (r :: rest))
        | [], some holder => .error (.error (.retention (.stillHeld w.ns w.podName holder) w.podName))
        | [], none => .ok key

def bindSupplied (w : Identity) (key : Option OrdinalKey) : Outcome (List Record) → Outcome (List Record)
  | (.ok records, a) => (.ok records, a.bind w key records)
  | (.error fault, a) => (.error fault, a)

theorem allocate_eq (a : Allocator) (w : Identity) (c : Criteria) (eligible : Option (List String)) :
    a.allocate w c eligible =
      match a.screened w c with
      | .error answer => (answer, a)
      | .ok key => bindSupplied w key (a.supply w key c eligible) := by
  unfold allocate screened
  split
  · rfl
  split
  · rfl
  split
  · rfl
  cases w.statefulKey? with
  | error fault => rfl
  | ok key =>
      dsimp only
      cases a.recordsFor w with
      | cons r rest => rfl
      | nil =>
          cases key.bind a.holders.get? with
          | some holder => rfl
          | none =>
              dsimp only
              rcases a.supply w key c eligible with ⟨_ | _, _⟩ <;> rfl

theorem stateful_of_screened {key : Option OrdinalKey} (passed : a.screened w c = .ok key) :
    w.statefulKey? = .ok key := by
  unfold screened at passed
  split at passed
  · cases passed
  split at passed
  · cases passed
  split at passed
  · cases passed
  split at passed
  case h_1 => cases passed
  case h_2 stateful =>
    split at passed
    · cases passed
    · cases passed
    · cases passed
      exact stateful

end Stages

section Lockstep
variable {names : String → Prop} {x y : Outcome (List Record)} {key : Option OrdinalKey}

/-- Two allocators agree on what a request looks at. -/
structure Agree (w : Identity) (c : Criteria) (eligible : Option (List String)) (a b : Allocator) : Prop where
  registered : Registered a.pools ∧ Registered b.pools
  networks : b.networks = a.networks
  subnets : ∀ name, b.subnet? name = a.subnet? name
  pools : SamePools (a.Candidate c eligible) a b
  own : b.active.get? w.podUID = a.active.get? w.podUID
  holder : ∀ key, w.statefulKey? = .ok (some key) → b.holders.get? key = a.holders.get? key
  group : ∀ key, w.statefulKey? = .ok (some key) → b.retention.groups.get? key = a.retention.groups.get? key

/-- Two outcomes for one pod say and do the same, but for hardware addresses. -/
structure Lockstep (names : String → Prop) (w : Identity) (a b : Allocator) (x y : Outcome (List Record)) : Prop where
  answer : sansMac y.1 = sansMac x.1
  pools : SamePools names x.2 y.2
  active : (y.2.active.get? w.podUID).map (·.map Record.withoutMac) =
    (x.2.active.get? w.podUID).map (·.map Record.withoutMac)
  holder : ∀ key, w.statefulKey? = .ok (some key) → y.2.holders.get? key = x.2.holders.get? key
  taken : ∃ key, x.2.retention = a.retention.without key ∧ y.2.retention = b.retention.without key
  drawn : ∃ drawn, x.2.macs = a.macs.after drawn ∧ y.2.macs = b.macs.after drawn

namespace Agree

theorem aligned (agree : Agree w c eligible a b) :
    Aligned (a.Candidate c eligible) c.networkType eligible c.orderedFamilies a b where
  registered := agree.registered
  networks := agree.networks
  pools := agree.pools
  within := ⟨within_candidates a c eligible, fun f asked pool serves =>
    (candidate_congr agree.networks agree.subnets _).mp (within_candidates b c eligible f asked pool serves)⟩

theorem screened (agree : Agree w c eligible a b) : b.screened w c = a.screened w c := by
  have had : b.recordsFor w = a.recordsFor w := by rw [recordsFor, recordsFor, agree.own]
  unfold Allocator.screened
  cases stateful : w.statefulKey? with
  | error fault => rfl
  | ok key =>
      have held : key.bind b.holders.get? = key.bind a.holders.get? := by
        cases key with
        | none => rfl
        | some key => exact agree.holder key stateful
      dsimp only
      rw [had, held]

theorem obstacle? (agree : Agree w c eligible a b) (kept : List Record) :
    b.obstacle? w c kept = a.obstacle? w c kept := by
  unfold Allocator.obstacle? misfit?
  rw [agree.networks]

theorem idle (agree : Agree w c eligible a b) (answer : Except Fault (List Record)) :
    Lockstep (a.Candidate c eligible) w a b (answer, a) (answer, b) where
  answer := rfl
  pools := agree.pools
  active := by rw [agree.own]
  holder := agree.holder
  taken := ⟨none, rfl, rfl⟩
  drawn := ⟨false, rfl, rfl⟩

theorem allocateFresh (agree : Agree w c eligible a b) (index : Option Int) :
    Lockstep (a.Candidate c eligible) w a b (a.allocateFresh w index c eligible)
      (b.allocateFresh w index c eligible) := by
  obtain ⟨answer, pools⟩ := allocateFresh_congr agree.aligned w index
  have frame := allocateFresh_frame a w index c eligible
  have frame' := allocateFresh_frame b w index c eligible
  exact {
    answer := answer
    pools := pools
    active := by rw [frame.active, frame'.active, agree.own]
    holder := by
      intro key stateful
      rw [frame.holders, frame'.holders]
      exact agree.holder key stateful
    taken := ⟨none, frame.retention, frame'.retention⟩
    drawn := ⟨true, frame.macs, frame'.macs⟩ }

theorem supply (agree : Agree w c eligible a b) (stateful : w.statefulKey? = .ok key) :
    Lockstep (a.Candidate c eligible) w a b (a.supply w key c eligible) (b.supply w key c eligible) := by
  cases key with
  | none => exact agree.allocateFresh none
  | some key =>
      have group := agree.group key stateful
      unfold Allocator.supply
      dsimp only
      cases retained : a.retention.groups.get? key with
      | none =>
          rw [rebind_of_unretained stateful retained, rebind_of_unretained stateful (group.trans retained)]
          exact agree.allocateFresh (some key.index)
      | some kept =>
          rw [rebind_eq stateful retained, rebind_eq stateful (group.trans retained), agree.obstacle? kept]
          cases a.obstacle? w c kept with
          | some conflict => exact agree.idle _
          | none =>
              exact { agree.idle (.ok (kept.map (·.boundTo w.podUID w.podName w.nodeName))) with
                taken := ⟨some key, rfl, rfl⟩ }

end Agree

theorem Lockstep.bindSupplied (lockstep : Lockstep names w a b x y) (stateful : w.statefulKey? = .ok key) :
    Lockstep names w a b (bindSupplied w key x) (bindSupplied w key y) := by
  obtain ⟨answer, a'⟩ := x
  obtain ⟨answer', b'⟩ := y
  have same := lockstep.answer
  cases answer with
  | error fault =>
      cases answer' with
      | error fault' => exact lockstep
      | ok records' => cases same
  | ok records =>
      cases answer' with
      | error fault' => cases same
      | ok records' =>
          refine { lockstep with active := ?_, holder := fun k own => ?_ }
          · change ((b'.active.put w.podUID records').get? w.podUID).map _ =
              ((a'.active.put w.podUID records).get? w.podUID).map _
            rw [Table.get?_put_self, Table.get?_put_self]
            exact congrArg some (Except.ok.inj same)
          · rw [stateful] at own
            cases own
            exact (Table.get?_put_self b'.holders k w.podUID).trans (Table.get?_put_self a'.holders k w.podUID).symm

theorem lockstep_allocate (agree : Agree w c eligible a b) :
    Lockstep (a.Candidate c eligible) w a b (a.allocate w c eligible) (b.allocate w c eligible) := by
  rw [allocate_eq, allocate_eq, agree.screened]
  cases screened : a.screened w c with
  | error answer => exact agree.idle answer
  | ok key =>
      have stateful := stateful_of_screened screened
      exact (agree.supply stateful).bindSupplied stateful

end Lockstep

end Allocator

/-!
Requests that share no pod, no ordinal and no candidate subnet. Neither sees what the other did, so it does not matter
which one comes first: both are answered as before, and all that is left behind is the same, but for which hardware
address went to which.
-/

theorem Retention.without_without (s : Retention) (key key' : Option OrdinalKey) :
    (s.without key).without key' = (s.without key').without key := by
  cases key with
  | none => cases key' <;> rfl
  | some k =>
      cases key' with
      | none => rfl
      | some k' => exact congrArg Retention.mk (Table.erase_erase s.groups k k')

theorem MacSource.after_after (s : MacSource) (drawn drawn' : Bool) :
    (s.after drawn).after drawn' = (s.after drawn').after drawn := by
  cases drawn <;> cases drawn' <;> rfl

namespace Allocator
variable {a b : Allocator} {w v : Identity} {c d : Criteria} {eligible others : Option (List String)}

structure Unrelated (a : Allocator) (w : Identity) (c : Criteria) (eligible : Option (List String)) (v : Identity)
    (d : Criteria) (others : Option (List String)) : Prop where
  pods : w.podUID ≠ v.podUID
  ordinals : ∀ k k', w.statefulKey? = .ok (some k) → v.statefulKey? = .ok (some k') → k ≠ k'
  subnets : ∀ name, a.Candidate c eligible name → ¬ a.Candidate d others name

namespace Unrelated

theorem symm (unrelated : Unrelated a w c eligible v d others) : Unrelated a v d others w c eligible where
  pods := unrelated.pods.symm
  ordinals := fun k k' left right => (unrelated.ordinals k' k right left).symm
  subnets := fun name right left => unrelated.subnets name left right

theorem foreign (unrelated : Unrelated a w c eligible v d others) {key : OrdinalKey}
    (own : w.statefulKey? = .ok (some key)) : v.statefulKey? ≠ .ok (some key) :=
  fun other => unrelated.ordinals key key own other rfl

theorem agree (unrelated : Unrelated a w c eligible v d others) (registered : Registered a.pools) :
    Agree w c eligible a (a.allocate v d others).2 := by
  have beside := beside_allocate registered v d others
  exact {
    registered := ⟨registered, registered.of_served (served_allocate registered v d others)⟩
    networks := beside.networks
    subnets := beside.subnets
    pools := fun name inside => beside.pools name (unrelated.subnets name inside)
    own := beside.active _ unrelated.pods.symm
    holder := fun _ stateful => beside.holders _ (unrelated.foreign stateful)
    group := fun _ stateful => beside.groups _ (unrelated.foreign stateful) }

end Unrelated

/-- The same but for the hardware addresses in records and the order of pods. -/
structure SameButMacs (a b : Allocator) : Prop where
  networks : b.networks = a.networks
  pools : b.pools = a.pools
  active : ∀ uid, (b.active.get? uid).map (·.map Record.withoutMac) = (a.active.get? uid).map (·.map Record.withoutMac)
  holders : ∀ key, b.holders.get? key = a.holders.get? key
  limits : b.limits = a.limits
  retention : b.retention = a.retention
  macs : b.macs = a.macs

/-- Something that one of two may change, and that is then changed as if the other had not been, is the same in the end,
whichever comes first. -/
theorem either_way {α : Type} {own other : Prop} {before left right both both' : α} (apart : own → ¬ other)
    (by_left : own → both' = left) (by_right : other → both = right)
    (not_left : ¬ own → both' = right ∧ left = before) (not_right : ¬ other → both = left ∧ right = before) :
    both' = both := by
  by_cases mine : own
  · rw [by_left mine, (not_right (apart mine)).1]
  · obtain ⟨after, untouched⟩ := not_left mine
    by_cases theirs : other
    · rw [after, by_right theirs]
    · rw [after, (not_right theirs).1, (not_right theirs).2, untouched]

theorem Unrelated.pools_either_way (unrelated : Unrelated a w c eligible v d others) (registered : Registered a.pools) :
    ((a.allocate v d others).2.allocate w c eligible).2.pools =
      ((a.allocate w c eligible).2.allocate v d others).2.pools := by
  have left := served_allocate registered w c eligible
  have right := served_allocate registered v d others
  have both : Served a.pools ((a.allocate w c eligible).2.allocate v d others).2.pools :=
    left.trans (served_allocate (registered.of_served left) v d others)
  have both' : Served a.pools ((a.allocate v d others).2.allocate w c eligible).2.pools :=
    right.trans (served_allocate (registered.of_served right) w c eligible)
  have left_beside := beside_allocate registered w c eligible
  have right_beside := beside_allocate registered v d others
  have both_beside := beside_allocate (registered.of_served left) v d others
  have both_beside' := beside_allocate (registered.of_served right) w c eligible
  refine Table.eq_of_keys (registered.of_served both).unique (both'.keys.trans both.keys.symm) fun name => ?_
  exact either_way (unrelated.subnets name) ((lockstep_allocate (unrelated.agree registered)).pools name)
    ((lockstep_allocate (unrelated.symm.agree registered)).pools name)
    (fun no => ⟨both_beside'.pools name (mt right_beside.candidate_iff.mp no), left_beside.pools name no⟩)
    (fun no => ⟨both_beside.pools name (mt left_beside.candidate_iff.mp no), right_beside.pools name no⟩)

theorem unrelated_allocations_commute (reached : Reachable a) (unrelated : Unrelated a w c eligible v d others) :
    let left := a.allocate w c eligible
    let both := left.2.allocate v d others
    let right := a.allocate v d others
    let both' := right.2.allocate w c eligible
    sansMac both'.1 = sansMac left.1 ∧ sansMac both.1 = sansMac right.1 ∧ SameButMacs both.2 both'.2 := by
  intro left both right both'
  have registered := registered_of_reachable reached
  have registered_left := registered.of_served (served_allocate registered w c eligible)
  have registered_right := registered.of_served (served_allocate registered v d others)
  have mine : Lockstep _ w a right.2 left both' := lockstep_allocate (unrelated.agree registered)
  have theirs : Lockstep _ v a left.2 right both := lockstep_allocate (unrelated.symm.agree registered)
  have left_beside : Beside a w c eligible left.2 := beside_allocate registered w c eligible
  have right_beside : Beside a v d others right.2 := beside_allocate registered v d others
  have both_beside : Beside left.2 v d others both.2 := beside_allocate registered_left v d others
  have both_beside' : Beside right.2 w c eligible both'.2 := beside_allocate registered_right w c eligible
  refine ⟨mine.answer, theirs.answer, {
    networks := ?networks, pools := unrelated.pools_either_way registered, active := fun uid => ?active, holders := fun key => ?holders,
    limits := ?limits, retention := ?retention, macs := ?macs }⟩
  case networks =>
    rw [both_beside.networks, both_beside'.networks, left_beside.networks, right_beside.networks]
  case limits => rw [both_beside.limits, both_beside'.limits, left_beside.limits, right_beside.limits]
  case active =>
    have apart (own : w.podUID = uid) : v.podUID ≠ uid := fun other => unrelated.pods (own.trans other.symm)
    exact either_way apart (fun own => own ▸ mine.active) (fun other => other ▸ theirs.active)
      (fun no => ⟨congrArg _ (both_beside'.active uid no), congrArg _ (left_beside.active uid no)⟩)
      (fun no => ⟨congrArg _ (both_beside.active uid no), congrArg _ (right_beside.active uid no)⟩)
  case holders =>
    exact either_way unrelated.foreign (mine.holder key) (theirs.holder key)
      (fun no => ⟨both_beside'.holders key no, left_beside.holders key no⟩)
      (fun no => ⟨both_beside.holders key no, right_beside.holders key no⟩)
  case retention =>
    obtain ⟨key, alone, after⟩ := mine.taken
    obtain ⟨key', alone', after'⟩ := theirs.taken
    rw [after, after', alone, alone', Retention.without_without]
  case macs =>
    obtain ⟨drawn, alone, after⟩ := mine.drawn
    obtain ⟨drawn', alone', after'⟩ := theirs.drawn
    rw [after, after', alone, alone', MacSource.after_after]

section Sample

/-- One pod asks for what its ordinal has retained, another for an address of the other family. -/
theorem parked_unrelated :
    Unrelated parked (webPod "web-0" "u2") ⟨.underlay, [.v4]⟩ none (webPod "web-1" "u3") ⟨.underlay, [.v6]⟩ none where
  pods := by decide
  ordinals := by
    have first : (webPod "web-0" "u2").statefulKey? = .ok (some ⟨"shop", "StatefulSet", "web", 0⟩) := by decide +kernel
    have second : (webPod "web-1" "u3").statefulKey? = .ok (some ⟨"shop", "StatefulSet", "web", 1⟩) := by
      decide +kernel
    rintro k k' left right rfl
    rw [first] at left
    rw [second, ← left] at right
    cases right
  subnets := by
    rintro name ⟨s, f, _, found, family, asked, _⟩ ⟨s', f', _, found', family', asked', _⟩
    rw [found] at found'
    cases found'
    rw [family] at family'
    cases family'
    rw [List.mem_singleton.mp asked] at asked'
    cases List.mem_singleton.mp asked'

theorem parked_allocations_commute :
    let left := parked.allocate (webPod "web-0" "u2") ⟨.underlay, [.v4]⟩ none
    let both := left.2.allocate (webPod "web-1" "u3") ⟨.underlay, [.v6]⟩ none
    let right := parked.allocate (webPod "web-1" "u3") ⟨.underlay, [.v6]⟩ none
    let both' := right.2.allocate (webPod "web-0" "u2") ⟨.underlay, [.v4]⟩ none
    (left.1.map (·.map (·.address)) = .ok ["10.0.0.1"] ∧ right.1.map (·.map (·.address)) = .ok ["::9"]) ∧
      sansMac both'.1 = sansMac left.1 ∧ sansMac both.1 = sansMac right.1 ∧ SameButMacs both.2 both'.2 := by
  have reached : Reachable parked := reachable_run (reachable_of_started sample_started) _
  exact ⟨⟨by decide +kernel, by decide +kernel⟩, unrelated_allocations_commute reached parked_unrelated⟩

end Sample

end Allocator
end PodAddressing
