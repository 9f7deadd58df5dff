import PodAddressing.Proofs.Watch.Deliveries
/-!
When a watcher takes an object for deleted. An entry that is spoilt is left out of what is listed, so its object is
withdrawn as if the entry were gone, although its key still stands in the file. Nothing else that stands there is
withdrawn.
-/

namespace PodAddressing.Watcher
variable {σ : Type} {dispatch : Dispatch σ} {kind : Kind} {items : List Json} {l : Look}
variable {r : Known × σ} {key : String}

/-- Whether some entry for a key can be read. -/
def Legible (kind : Kind) (items : List Json) (key : String) : Prop :=
  ∃ entry ∈ items, ∃ obj, Listing.read kind entry = .ok (key, obj)

/-- What is withdrawn is what is known and cannot be read. -/
theorem withdrawn_iff (unique : r.1.Unique) (lists : Listing.itemsOf l.file = some items)
    (tame : ∀ entry ∈ items, Listing.Tame kind entry) :
    (∃ d ∈ delivered dispatch kind r l, d.key = key ∧ ∃ obj, d.change = .deleted obj) ↔
      r.1.has key = true ∧ ¬ Legible kind items key := by
  have listed := Listing.ofFile_eq_some_iff.mpr ⟨items, lists, tame, rfl⟩
  have once := Listing.unique_ofFile listed
  have unlisted : (Table.ofEntries (Listing.entries kind items)).get? key = none ↔
      ¬ Legible kind items key := by
    have legible : Legible kind items key ↔ ∃ obj, (key, obj) ∈ Listing.entries kind items := by
      simp only [Legible, Listing.mem_entries]
      exact ⟨fun ⟨entry, member, obj, said⟩ => ⟨obj, entry, member, said⟩,
        fun ⟨obj, entry, member, said⟩ => ⟨entry, member, obj, said⟩⟩
    rw [legible, ← Table.has_ofEntries, Table.has_iff, ← Option.ne_none_iff_exists', not_not]
  rw [delivered_of_listed listed, Table.has_iff, ← unlisted]
  constructor
  · rintro ⟨d, made, rfl, obj, deleted⟩
    have found := mem_deliveries made
    rw [deleted, mem_dueIn l unique once] at found
    exact ⟨⟨obj, found.1⟩, found.2.1⟩
  · rintro ⟨⟨obj, had⟩, absent⟩
    have found : (key, .deleted obj) ∈ dueIn l.order (.ofEntries (Listing.entries kind items)) r.1 :=
      (mem_dueIn l unique once).mpr ⟨had, absent, Option.some_ne_none obj⟩
    rw [← deliveries_exact dispatch (dueIn l.order _ r.1) r.2] at found
    obtain ⟨d, made, same⟩ := List.mem_map.mp found
    obtain ⟨own, deleted⟩ := Prod.mk.inj same
    exact ⟨d, made, own, obj, deleted⟩

/-- Only what is gone from the file is withdrawn, if and only if whatever is known and has an entry in the file can be
read from some entry. A file in which an entry cannot be passed over is left alone as a whole. -/
theorem withdraws_only_gone_iff (dispatch : Dispatch σ) (state : σ) (looks : List Look)
    (lists : Listing.itemsOf l.file = some items) :
    (∀ d ∈ delivered dispatch kind (watch dispatch kind ([], state) looks) l,
        ∀ obj, d.change = .deleted obj → ∀ entry ∈ items, Snapshot.keyOf entry ≠ .ok d.key) ↔
      ((∀ entry ∈ items, Listing.Tame kind entry) →
        ∀ entry ∈ items, ∀ key, Snapshot.keyOf entry = .ok key →
          (watch dispatch kind ([], state) looks).1.has key = true → Legible kind items key) := by
  have empty : Table.Unique ([] : Known) := List.nodup_nil
  have unique : (watch dispatch kind ([], state) looks).1.Unique := by
    rw [watch_known]
    exact unique_replay empty _
  constructor
  · intro gone tame entry member key own known
    by_contra spoilt
    obtain ⟨d, made, rfl, obj, deleted⟩ := (withdrawn_iff unique lists tame).mpr ⟨known, spoilt⟩
    exact gone d made obj deleted entry member own
  · intro legible d made obj deleted entry member own
    have tame : ∀ entry ∈ items, Listing.Tame kind entry := by
      by_contra wild
      rw [delivered_of_unlisted] at made
      · cases made
      · intro desired listed
        obtain ⟨items', lists', tame, _⟩ := Listing.ofFile_eq_some_iff.mp listed
        rw [lists] at lists'
        cases lists'
        exact wild tame
    obtain ⟨known, spoilt⟩ := (withdrawn_iff unique lists tame).mp ⟨d, made, rfl, obj, deleted⟩
    exact spoilt (legible tame entry member d.key own known)

section Sample

def willing : Dispatch Unit := fun _ state => (true, state)

def podEntry (uid : String) : String :=
  "\x7b\"name\": \"web\", \"" ++ uid ++ "\": \"u1\", \"nodeName\": \"node-1\"\x7d"

def podListed : Snapshot := .pod ⟨"default", "web", "u1", "node-1", none, .underlay, [.v4], none⟩

def webPod : Look := .plain (listFile (podEntry "uid"))

def misspelt : Look := .plain (listFile (podEntry "udi"))

theorem webPod_listed : Listing.ofFile .pod webPod.file = .ok (some [("web", podListed)]) := by decide +kernel

theorem misspelt_listed : Listing.ofFile .pod misspelt.file = .ok (some []) := by decide +kernel

/-- The pod is withdrawn although its entry stands in the file. -/
theorem misspelt_withdrawn :
    delivered willing .pod (watch willing .pod ([], ()) [webPod]) misspelt =
        [⟨"web", .deleted podListed, true⟩] ∧
      ∃ entry ∈ (Listing.itemsOf misspelt.file).getD [], Snapshot.keyOf entry = .ok "web" := by
  refine ⟨?_, by decide +kernel⟩
  rw [delivered_of_listed misspelt_listed, watch, List.foldl_cons, List.foldl_nil, look_of_listed webPod_listed]
  decide

def dbEntry : String := "\x7b\"name\": \"db\", \"replicas\": 2\x7d"

def dbListed : Snapshot := .statefulSet ⟨"default", "db", "", 2⟩

def twoSets : Look := .plain (listFile (webEntry ++ ", " ++ dbEntry))

/-- One set has an entry that is spoilt and one that is not, the other has none. -/
def respelt : Look :=
  .plain (listFile ("\x7b\"name\": \"web\", \"replicas\": \"many\"\x7d, " ++ webEntry))

theorem respelt_withdraws_only_gone :
    delivered willing .statefulSet (watch willing .statefulSet ([], ()) [twoSets]) respelt =
        [⟨"db", .deleted dbListed, true⟩] ∧
      ∃ items, Listing.itemsOf respelt.file = some items ∧ (∀ entry ∈ items, Listing.Tame .statefulSet entry) ∧
        ∀ d ∈ delivered willing .statefulSet (watch willing .statefulSet ([], ()) [twoSets]) respelt, ∀ obj,
          d.change = .deleted obj → ∀ entry ∈ items, Snapshot.keyOf entry ≠ .ok d.key := by
  have listed : Listing.ofFile .statefulSet respelt.file = .ok (some [("web", webListed)]) := by decide +kernel
  have before : Listing.ofFile .statefulSet twoSets.file = .ok (some [("web", webListed), ("db", dbListed)]) := by
    decide +kernel
  obtain ⟨items, lists, tame, same⟩ := Listing.ofFile_eq_some_iff.mp listed
  have found : (Listing.itemsOf respelt.file).getD [] = items := by rw [lists, Option.getD_some]
  have named : ∀ entry ∈ (Listing.itemsOf respelt.file).getD [], Snapshot.keyOf entry = .ok "web" := by
    decide +kernel
  have readable : (Table.ofEntries (Listing.entries .statefulSet items)).has "web" = true := by
    rw [← same]
    rfl
  obtain ⟨obj, among⟩ := Table.has_ofEntries.mp readable
  obtain ⟨right, member, said⟩ := Listing.mem_entries.mp among
  rw [found] at named
  refine ⟨?_, items, lists, tame, (withdraws_only_gone_iff willing () _ lists).mpr ?_⟩
  · rw [delivered_of_listed listed, watch, List.foldl_cons, List.foldl_nil, look_of_listed before]
    decide
  · intro _ entry among key own _
    rw [named entry among] at own
    cases own
    exact ⟨right, member, obj, said⟩

end Sample

end PodAddressing.Watcher
