import Mathlib.Data.Prod.Lex
import Mathlib.Data.String.Basic
import PodAddressing.Proofs.Allocator.Ranges
import PodAddressing.Proofs.Pool.Offers
/-!
Selection. A request for fresh addresses can be served from the pools of certain registered subnets, and of these the
least one that has a free address gives it. What is given for one family does not matter to the other.
-/

namespace PodAddressing

namespace Pool
variable {p q : Pool}

/-- Pools are ordered by the names of their networks, then by their own. -/
def rank (p : Pool) : String ×ₗ String := toLex (p.subnet.network, p.subnet.name)

def HasSpare (p : Pool) : Prop := ∃ n, p.subnet.Offers n ∧ n ∉ p.used

structure First (among : Pool → Prop) (p : Pool) : Prop where
  listed : among p
  spare : p.HasSpare
  least : ∀ q, among q → q.HasSpare → p.rank ≤ q.rank

theorem isOk_acquire (p : Pool) : p.acquire.isOk = p.hasFree := by
  unfold acquire
  by_cases room : p.hasFree = true
  · rw [if_pos room, room]
    rfl
  · rw [if_neg room, Bool.eq_false_iff.mpr room]
    rfl

theorem hasFree_iff_hasSpare (made : p.Made) (valid : p.Valid) : p.hasFree = true ↔ p.HasSpare := by
  have offers (n : Nat) : p.clear.isUsable n = true ↔ p.subnet.Offers n := isUsable_iff_offers made
  constructor
  · intro room
    obtain ⟨j, _, free⟩ := exists_free valid room
    obtain ⟨usable, unused⟩ := isFree_iff.mp free
    exact ⟨_, (offers _).mp usable, unused⟩
  · rintro ⟨n, offered, unused⟩
    exact hasFree_of_free valid (isFree_iff.mpr ⟨(offers n).mpr offered, unused⟩)

end Pool

namespace Allocator
variable {a : Allocator} {networkType : NetworkType} {f g : Family} {eligible : Option (List String)}

/-- A pool that can serve a request for a family, full or not. -/
structure Serves (a : Allocator) (networkType : NetworkType) (eligible : Option (List String)) (f : Family)
    (pool : Pool) : Prop where
  registered : a.pools.get? pool.subnet.name = some pool
  family : pool.subnet.family = .ok f
  network : ∃ network, a.networks.get? pool.subnet.network = some network ∧ network.type = networkType ∧
    network.supports f = true
  named : ∀ names, eligible = some names → pool.subnet.name ∈ names

theorem Serves.of_found {b : Allocator} {pool : Pool} (serves : a.Serves networkType eligible f pool)
    (same : b.networks = a.networks) (found : b.pools.get? pool.subnet.name = some pool) :
    b.Serves networkType eligible f pool :=
  ⟨found, serves.family, same ▸ serves.network, serves.named⟩

section Candidates

theorem triedBefore_iff {p q : Pool} : triedBefore p q = true ↔ p.rank ≤ q.rank := by
  unfold triedBefore Pool.rank
  rw [Prod.Lex.toLex_le_toLex]
  by_cases same : p.subnet.network = q.subnet.network
  · simp [same]
  · simp [same]

theorem isEligible_iff {pool : Pool} (registered : Registered a.pools)
    (found : a.pools.get? pool.subnet.name = some pool) :
    a.isEligible networkType f eligible (pool.subnet.name, pool) = true ↔ a.Serves networkType eligible f pool := by
  have family : pool.subnet.family = .ok pool.family := (Pool.ofSubnet_valid (registered.made _ pool found)).2.2.2
  simp only [isEligible, Bool.and_eq_true, beq_iff_eq, Option.all_eq_true, Option.any_eq_true,
    List.contains_iff_mem]
  constructor
  · rintro ⟨⟨named, network⟩, rfl⟩
    exact ⟨found, family, network, named⟩
  · rintro ⟨_, same, network, named⟩
    rw [family] at same
    exact ⟨⟨named, network⟩, Except.ok.inj same⟩

theorem mem_eligiblePools (registered : Registered a.pools) {pool : Pool} :
    pool ∈ a.eligiblePools networkType f eligible ↔ a.Serves networkType eligible f pool := by
  unfold eligiblePools
  rw [List.mem_mergeSort, List.mem_map]
  constructor
  · rintro ⟨⟨name, _⟩, listed, rfl⟩
    obtain ⟨entry, suits⟩ := List.mem_filter.mp listed
    have present := Table.get?_of_mem registered.unique entry
    obtain rfl := registered.named _ _ present
    exact (isEligible_iff registered present).mp suits
  · intro serves
    have entry := Table.mem_of_get? serves.registered
    exact ⟨_, List.mem_filter.mpr ⟨entry, (isEligible_iff registered serves.registered).mpr serves⟩, rfl⟩

/-- No two pools have one name, so the order in which they are tried is strict. -/
theorem eligiblePools_ordered (registered : Registered a.pools) :
    (a.eligiblePools networkType f eligible).Pairwise fun p q => p.rank < q.rank := by
  have sorted : (a.eligiblePools networkType f eligible).Pairwise fun p q => p.rank ≤ q.rank := by
    refine (List.pairwise_mergeSort ?_ ?_ _).imp fun tried => triedBefore_iff.mp tried
    · intro p q r first second
      exact triedBefore_iff.mpr ((triedBefore_iff.mp first).trans (triedBefore_iff.mp second))
    · intro p q
      rw [Bool.or_eq_true, triedBefore_iff, triedBefore_iff]
      exact le_total _ _
  have distinct : (a.eligiblePools networkType f eligible).Pairwise fun p q => p.rank ≠ q.rank := by
    have apart : (a.pools.filter (a.isEligible networkType f eligible)).Pairwise fun e e' => e.1 ≠ e'.1 :=
      List.pairwise_map.mp (Table.unique_filter registered.unique _)
    have own (entry : String × Pool) (listed : entry ∈ a.pools.filter (a.isEligible networkType f eligible)) :
        entry.2.subnet.name = entry.1 :=
      registered.named _ _ (Table.get?_of_mem registered.unique (List.mem_filter.mp listed).1)
    refine ((List.mergeSort_perm _ _).pairwise_iff fun differ => differ.symm).mpr (List.pairwise_map.mpr ?_)
    refine apart.imp_of_mem fun listed listed' differ same => differ ?_
    rw [← own _ listed, ← own _ listed']
    exact (Prod.mk.inj (toLex.injective same)).2
  exact (sorted.and distinct).imp fun both => lt_of_le_of_ne both.1 both.2

end Candidates

/-- Why an address of a family cannot be had from some pools: there are none, or they are full and are told in order. -/
inductive Refuses (among : Pool → Prop) (networkType : NetworkType) (f : Family) : Fault → Prop
  | unserved (none_serves : ∀ pool, ¬ among pool) :
      Refuses among networkType f (.noEligibleSubnet networkType.name f.name)
  | exhausted {pools : List Pool} (some_pool : pools ≠ []) (listed : ∀ pool, pool ∈ pools ↔ among pool)
      (ordered : pools.Pairwise fun p q => p.rank < q.rank) :
      Refuses among networkType f (.exhausted f.name (pools.map (·.subnet.name)))

section Acquiring

theorem acquireFrom?_least {pools : List Pool} {given : Address × Pool}
    (ordered : pools.Pairwise fun p q => p.rank < q.rank) (found : acquireFrom? pools = some given) :
    ∃ pool ∈ pools, pool.acquire = .ok given ∧ ∀ q ∈ pools, q.hasFree = true → pool.rank ≤ q.rank := by
  induction pools with
  | nil => cases found
  | cons p rest ih =>
      obtain ⟨below, ordered⟩ := List.pairwise_cons.mp ordered
      unfold acquireFrom? at found
      cases answer : p.acquire with
      | ok _ =>
          rw [answer] at found
          cases found
          refine ⟨p, List.mem_cons_self, answer, List.forall_mem_cons.mpr ⟨fun _ => le_refl _, ?_⟩⟩
          exact fun q later _ => (below q later).le
      | error fault =>
          rw [answer] at found
          obtain ⟨pool, member, given, least⟩ := ih ordered found
          refine ⟨pool, List.mem_cons_of_mem p member, given, List.forall_mem_cons.mpr ⟨fun room => ?_, least⟩⟩
          rw [← Pool.isOk_acquire, answer] at room
          cases room

theorem acquireFrom?_eq_none {pools : List Pool} (found : acquireFrom? pools = none) :
    ∀ pool ∈ pools, pool.hasFree = false := by
  induction pools with
  | nil => simp
  | cons p rest ih =>
      unfold acquireFrom? at found
      cases answer : p.acquire with
      | ok _ =>
          rw [answer] at found
          cases found
      | error fault =>
          rw [answer] at found
          refine List.forall_mem_cons.mpr ⟨?_, ih found⟩
          rw [← Pool.isOk_acquire, answer]
          rfl

inductive Acquired (among : Pool → Prop) (networkType : NetworkType) (f : Family) :
    Except Fault (Address × Pool) → Prop
  | given {pool pool' : Pool} {address : Address} (first : Pool.First among pool)
      (given : pool.acquire = .ok (address, pool')) : Acquired among networkType f (.ok (address, pool'))
  | refused {fault : Fault} (full : ∀ pool, among pool → ¬ pool.HasSpare)
      (refused : Refuses among networkType f fault) : Acquired among networkType f (.error fault)

theorem acquire_cases (registered : Registered a.pools) :
    Acquired (a.Serves networkType eligible f) networkType f (a.acquire networkType f eligible) := by
  have listed (pool : Pool) :
      pool ∈ a.eligiblePools networkType f eligible ↔ a.Serves networkType eligible f pool :=
    mem_eligiblePools registered
  have ordered : (a.eligiblePools networkType f eligible).Pairwise fun p q => p.rank < q.rank :=
    eligiblePools_ordered registered
  have free (pool : Pool) (serves : a.Serves networkType eligible f pool) : pool.hasFree = true ↔ pool.HasSpare :=
    Pool.hasFree_iff_hasSpare (registered.made _ pool serves.registered) (registered.valid _ pool serves.registered)
  unfold acquire
  dsimp only
  generalize a.eligiblePools networkType f eligible = pools at listed ordered
  by_cases nothing : pools = []
  · subst nothing
    have none_serves (pool : Pool) (serves : a.Serves networkType eligible f pool) : False :=
      List.not_mem_nil ((listed pool).mpr serves)
    exact .refused (fun pool serves => (none_serves pool serves).elim) (.unserved none_serves)
  rw [if_neg (by simpa using nothing)]
  cases found : acquireFrom? pools with
  | none =>
      refine .refused (fun pool serves spare => ?_) (.exhausted nothing listed ordered)
      have full := acquireFrom?_eq_none found pool ((listed pool).mpr serves)
      rw [(free pool serves).mpr spare] at full
      cases full
  | some given =>
      obtain ⟨pool, member, answer, least⟩ := acquireFrom?_least ordered found
      have serves := (listed pool).mp member
      have room : pool.hasFree = true := by
        rw [← Pool.isOk_acquire, answer]
        rfl
      have first : Pool.First (a.Serves networkType eligible f) pool :=
        ⟨serves, (free pool serves).mp room,
          fun q serves' spare => least q ((listed q).mpr serves') ((free q serves').mpr spare)⟩
      exact .given first answer

theorem serves_setPool {pool pool' : Pool} {address : Address}
    (serves : a.Serves networkType eligible f pool) (given : pool.acquire = .ok (address, pool')) (other : g ≠ f) :
    (a.setPool pool').Serves networkType eligible g = a.Serves networkType eligible g := by
  have subnet : pool'.subnet = pool.subnet := Pool.subnet_of_clear (Pool.acquire_clear given)
  funext p
  by_cases same : pool'.subnet.name = p.subnet.name
  · -- The pool that gave the address serves its own family only, before and afterwards.
    have foreign (q : Pool) (own : q.subnet = pool.subnet) (kind : q.subnet.family = .ok g) : False := by
      rw [own, serves.family] at kind
      exact other (Except.ok.inj kind).symm
    refine propext ⟨fun serves' => (foreign p ?_ serves'.family).elim,
      fun serves' => (foreign p ?_ serves'.family).elim⟩
    · have found := serves'.registered
      rw [setPool, ← same, Table.get?_put_self] at found
      rw [← Option.some.inj found, subnet]
    · have found := serves'.registered
      rw [← same, subnet, serves.registered] at found
      rw [← Option.some.inj found]
  · have unchanged : (a.setPool pool').pools.get? p.subnet.name = a.pools.get? p.subnet.name :=
      Table.get?_put_ne same a.pools pool'
    exact propext ⟨fun serves' => serves'.of_found rfl (unchanged.symm.trans serves'.registered),
      fun serves' => serves'.of_found rfl (unchanged.trans serves'.registered)⟩

end Acquiring

section Families
variable {w : Identity} {index : Option Int} {mac : String} {among : Family → Pool → Prop}

/-- A fresh record with an address of the least pool that has one. -/
def FreshFrom (among : Family → Pool → Prop) (w : Identity) (index : Option Int) (mac : String) (f : Family)
    (r : Record) : Prop :=
  ∃ pool pool' address, Pool.First (among f) pool ∧ pool.acquire = .ok (address, pool') ∧
    r = freshRecord w index mac f address pool.subnet

/-- How the pools answer for some families: each gets its record, or the first that cannot be served is told. -/
inductive Supplied (among : Family → Pool → Prop) (networkType : NetworkType) (w : Identity) (index : Option Int)
    (mac : String) (families : List Family) (taken : List Record) : Except Fault (List Record) → Prop
  | given {new : List Record} (fresh : List.Forall₂ (FreshFrom among w index mac) families new) :
      Supplied among networkType w index mac families taken (.ok (taken ++ new))
  | refused {before rest : List Family} {f : Family} {fault : Fault} (split : families = before ++ f :: rest)
      (served : ∀ g ∈ before, ∃ pool, among g pool ∧ pool.HasSpare) (full : ∀ pool, among f pool → ¬ pool.HasSpare)
      (refused : Refuses (among f) networkType f fault) :
      Supplied among networkType w index mac families taken (.error fault)

theorem acquireAll_cases (registered : Registered a.pools) {families : List Family} (distinct : families.Nodup)
    (still : ∀ f ∈ families, a.Serves networkType eligible f = among f) (taken : List Record) :
    Supplied among networkType w index mac families taken
      (a.acquireAll w index mac networkType eligible taken families).1 := by
  induction families generalizing a taken with
  | nil =>
      have nothing : Supplied among networkType w index mac [] taken (.ok (taken ++ [])) := .given .nil
      rwa [List.append_nil] at nothing
  | cons f rest ih =>
      obtain ⟨new_family, distinct⟩ := List.nodup_cons.mp distinct
      obtain ⟨here, later⟩ := List.forall_mem_cons.mp still
      have outcome : Acquired (a.Serves networkType eligible f) networkType f (a.acquire networkType f eligible) :=
        acquire_cases registered
      rw [here] at outcome
      unfold acquireAll
      generalize acquired : a.acquire networkType f eligible = answer at outcome
      cases outcome with
      | refused full refused => exact .refused (List.nil_append _).symm (by simp) full refused
      | @given pool pool' address first given =>
          obtain ⟨_, _, _, served⟩ := acquire_registered registered acquired
          have still' : ∀ g ∈ rest, (a.setPool pool').Serves networkType eligible g = among g := by
            intro g member
            have other : g ≠ f := fun same => new_family (same ▸ member)
            rw [serves_setPool (here.symm ▸ first.listed) given other]
            exact later g member
          have subnet : pool'.subnet = pool.subnet := Pool.subnet_of_clear (Pool.acquire_clear given)
          let record := freshRecord w index mac f address pool'.subnet
          have fresh_record : FreshFrom among w index mac f record :=
            ⟨pool, pool', address, first, given, by rw [← subnet]⟩
          have outcome := ih (registered.of_served served) distinct still' (taken ++ [record])
          change Supplied among networkType w index mac (f :: rest) taken
            ((a.setPool pool').acquireAll w index mac networkType eligible (taken ++ [record]) rest).1
          generalize ((a.setPool pool').acquireAll w index mac networkType eligible (taken ++ [record]) rest).1 = answer
            at outcome
          cases outcome with
          | given fresh =>
              rw [List.append_assoc]
              exact .given (.cons fresh_record fresh)
          | @refused before after g fault split served full refused =>
              have split' : f :: rest = (f :: before) ++ g :: after := by rw [split, List.cons_append]
              have served' := List.forall_mem_cons.mpr ⟨⟨pool, first.listed, first.spare⟩, served⟩
              exact .refused split' served' full refused

theorem allocateFresh_cases (registered : Registered a.pools) (w : Identity) (index : Option Int) (c : Criteria)
    (eligible : Option (List String)) :
    Supplied (a.Serves c.networkType eligible) c.networkType w index a.macs.draw.1 c.orderedFamilies []
      (a.allocateFresh w index c eligible).1 := by
  have distinct : c.orderedFamilies.Nodup := List.Nodup.filter _ (by decide)
  refine acquireAll_cases (a := { a with macs := a.macs.draw.2 }) registered distinct (fun f _ => ?_) []
  funext pool
  exact propext ⟨fun serves => serves.of_found rfl serves.registered,
    fun serves => serves.of_found rfl serves.registered⟩

end Families

/-- Each family asked for gets an address from the least pool that can serve it and has one, or the first family for
which there is no such pool is reported. -/
theorem fresh_from_the_least {w : Identity} {c : Criteria} {key : Option OrdinalKey} (reached : Reachable a)
    (unserved : Unserved a w c key) (eligible : Option (List String)) :
    let among := a.Serves c.networkType eligible
    let families := [Family.v4, .v6].filter (· ∈ c.families)
    (∃ records, (a.allocate w c eligible).1 = .ok records ∧
      List.Forall₂ (FreshFrom among w (key.map (·.index)) a.macs.draw.1) families records) ∨
    ∃ before f rest fault, families = before ++ f :: rest ∧ (∀ g ∈ before, ∃ pool, among g pool ∧ pool.HasSpare) ∧
      (∀ pool, among f pool → ¬ pool.HasSpare) ∧ Refuses (among f) c.networkType f fault ∧
      (a.allocate w c eligible).1 = .error fault := by
  have families : c.orderedFamilies = [Family.v4, .v6].filter (· ∈ c.families) :=
    List.filter_congr fun f _ => List.contains_eq_mem f c.families
  have outcome := allocateFresh_cases (registered_of_reachable reached) w (key.map (·.index)) c eligible
  dsimp only
  rw [unserved.answer, ← families]
  generalize (a.allocateFresh w (key.map (·.index)) c eligible).1 = answer at outcome ⊢
  cases outcome with
  | given fresh => exact .inl ⟨_, rfl, fresh⟩
  | refused split served full refused => exact .inr ⟨_, _, _, _, split, served, full, refused, rfl⟩

section Sample

def begun : Allocator := sample.run [.allocate (webPod "web-1" "u1") ⟨.underlay, [.v4]⟩ none]

theorem begun_unserved :
    Unserved begun (webPod "web-0" "u2") ⟨.underlay, [.v6, .v4, .v6]⟩ (some ⟨"shop", "StatefulSet", "web", 0⟩) where
  named := by decide
  some_family := by decide
  bytes := by decide +kernel
  stateful := by decide +kernel
  had := by decide +kernel
  vacant := by
    rintro k ⟨⟩
    decide +kernel
  unretained := by
    rintro k ⟨⟩
    decide +kernel

theorem begun_fresh_from_the_least :
    ∃ records, (begun.allocate (webPod "web-0" "u2") ⟨.underlay, [.v6, .v4, .v6]⟩ none).1 = .ok records ∧
      records.map (fun r => (r.subnet, r.address)) = [("four", "10.0.0.2"), ("six", "::9")] ∧
      List.Forall₂ (FreshFrom (begun.Serves .underlay none) (webPod "web-0" "u2") (some 0) begun.macs.draw.1)
        [.v4, .v6] records := by
  have told : ((begun.allocate (webPod "web-0" "u2") ⟨.underlay, [.v6, .v4, .v6]⟩ none).1.map
      (·.map fun r => (r.subnet, r.address))).toOption = some [("four", "10.0.0.2"), ("six", "::9")] := by
    decide +kernel
  have reached : Reachable begun := reachable_run (reachable_of_started sample_started) _
  rcases fresh_from_the_least reached begun_unserved none with
    ⟨records, answer, fresh⟩ | ⟨_, _, _, _, _, _, _, _, failed⟩
  · rw [answer] at told
    exact ⟨records, answer, Option.some.inj told, fresh⟩
  · rw [failed] at told
    cases told

end Sample

end Allocator
end PodAddressing
