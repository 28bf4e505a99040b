import Subschema.Proofs.Batch
import Subschema.Proofs.Reinstated
import Subschema.Search

namespace Subschema

/-- One hit comes strictly before another: by a higher score, or else by its identifier. -/
def Hit.Before (a b : Hit) : Prop :=
  b.score < a.score ∨ a.score = b.score ∧ a.oid < b.oid

theorem Hit.precedes_iff {a b : Hit} :
    a.precedes b = true ↔ a.Before b ∨ a.score = b.score ∧ a.oid = b.oid := by
  have text : (compare a.oid b.oid).isLE = true ↔ a.oid < b.oid ∨ a.oid = b.oid := by
    rw [Ordering.isLE_iff_eq_lt_or_eq_eq, Std.LawfulEqCmp.compare_eq_iff_eq]
    exact or_congr_left compareOfLessAndEq_eq_lt
  unfold Hit.precedes Hit.Before
  simp only [gt_iff_lt, Bool.or_eq_true, decide_eq_true_eq, Bool.and_eq_true, beq_iff_eq, text]
  rw [and_or_left, or_assoc]

theorem Hit.Before.trans {a b c : Hit} (first : a.Before b) (second : b.Before c) : a.Before c := by
  rcases first with higher | ⟨same, less⟩
  · rcases second with higher' | ⟨same', _⟩
    · exact Or.inl (Int.lt_trans higher' higher)
    · exact Or.inl (same' ▸ higher)
  · rcases second with higher' | ⟨same', less'⟩
    · exact Or.inl (same ▸ higher')
    · exact Or.inr ⟨same.trans same', String.lt_trans less less'⟩

theorem Hit.Before.asymm {a b : Hit} (first : a.Before b) : ¬ b.Before a := by
  intro second
  rcases first.trans second with higher | ⟨_, less⟩
  · exact absurd higher (Int.lt_irrefl _)
  · exact String.lt_irrefl _ less

theorem Hit.precedes_trans (a b c : Hit) (first : a.precedes b = true) (second : b.precedes c = true) :
    a.precedes c = true := by
  rw [precedes_iff] at first second ⊢
  rcases first with before | ⟨score, oid⟩
  · rcases second with before' | ⟨score', oid'⟩
    · exact Or.inl (before.trans before')
    · unfold Before at before ⊢
      rw [← score', ← oid']
      exact Or.inl before
  · unfold Before at second ⊢
    rwa [score, oid]

theorem Hit.precedes_total (a b : Hit) : (a.precedes b || b.precedes a) = true := by
  rw [Bool.or_eq_true, precedes_iff, precedes_iff]
  rcases Int.lt_trichotomy a.score b.score with lower | same | higher
  · exact Or.inr (Or.inl (Or.inl lower))
  · rcases Std.lt_trichotomy a.oid b.oid with less | equal | greater
    · exact Or.inl (Or.inl (Or.inr ⟨same, less⟩))
    · exact Or.inl (Or.inr ⟨same, equal⟩)
    · exact Or.inr (Or.inl (Or.inr ⟨same.symm, greater⟩))
  · exact Or.inl (Or.inl (Or.inl higher))

/-- Hits of different identifiers are put into strict order. -/
theorem pairwise_before_mergeSort {hits : List Hit} (apart : (hits.map Hit.oid).Nodup) :
    (hits.mergeSort Hit.precedes).Pairwise Hit.Before := by
  have ordered := List.pairwise_mergeSort Hit.precedes_trans Hit.precedes_total hits
  have sorted := (List.mergeSort_perm hits Hit.precedes).map Hit.oid
  have distinct := List.pairwise_map.1 (sorted.nodup_iff.2 apart)
  refine ordered.imp₂ (fun a b precedes differ => ?_) distinct
  exact (Hit.precedes_iff.1 precedes).resolve_right fun same => differ same.2

/-- As no identifier is found twice, the order of the scores and identifiers leaves nothing open. -/
theorem mergeSort_eq_of_perm {hits others : List Hit} (apart : (hits.map Hit.oid).Nodup)
    (same : hits.Perm others) : hits.mergeSort Hit.precedes = others.mergeSort Hit.precedes := by
  have also := ((same.map Hit.oid).nodup_iff).1 apart
  refine List.Perm.eq_of_pairwise (fun a b _ _ first second => absurd second first.asymm)
    (pairwise_before_mergeSort apart) (pairwise_before_mergeSort also) ?_
  exact (List.mergeSort_perm _ _).trans (same.trans (List.mergeSort_perm _ _).symm)

variable {score : String → String → Option Int} {query : String}

/-- Whether the identifier or a name of a definition matches a query. -/
def Definition.isMatch (score : String → String → Option Int) (query : String) (d : Definition) : Bool :=
  d.spellings.any fun name => (score name query).isSome

/-- A definition fits a query as well as the best of its names and its identifier. -/
structure Definition.Fits (score : String → String → Option Int) (query : String) (d : Definition)
    (best : Int) : Prop where
  attained : ∃ name ∈ d.spellings, score name query = some best
  greatest : ∀ name ∈ d.spellings, ∀ value, score name query = some value → value ≤ best

theorem Definition.mem_spellings_iff {d : Definition} {name : String} :
    name ∈ d.names ++ [d.oid.text] ↔ name ∈ d.spellings := by
  rw [spellings, List.mem_append, List.mem_singleton, List.mem_cons, or_comm]

/-- The score of a definition is the best that one of its spellings has. -/
theorem Definition.bestScore?_eq_some_iff {d : Definition} {best : Int} :
    d.bestScore? score query = some best ↔ d.Fits score query best := by
  rw [bestScore?, List.max?_eq_some_iff]
  simp only [List.mem_filterMap, mem_spellings_iff]
  constructor
  · rintro ⟨attained, greatest⟩
    exact ⟨attained, fun name member value scored => greatest value ⟨name, member, scored⟩⟩
  · rintro ⟨attained, greatest⟩
    exact ⟨attained, fun value ⟨name, member, scored⟩ => greatest name member value scored⟩

theorem Definition.isSome_bestScore? (d : Definition) :
    (d.bestScore? score query).isSome = d.isMatch score query := by
  rw [Bool.eq_iff_iff, bestScore?, List.isSome_max?_iff, ne_eq, List.filterMap_eq_nil_iff, isMatch,
    List.any_eq_true]
  simp only [mem_spellings_iff, not_forall, Option.isSome_iff_ne_none, exists_prop, ne_eq]

/-- What a hit says: a definition of those given fits the query that well. -/
theorem mem_hits_iff {definitions : List Definition} {hit : Hit} :
    hit ∈ definitions.filterMap (fun d => d.hit? score query) ↔
      ∃ d ∈ definitions, d.Fits score query hit.score ∧ hit.oid = d.oid.text ∧ hit.name = d.name := by
  simp only [List.mem_filterMap, Definition.hit?, Option.map_eq_some_iff,
    Definition.bestScore?_eq_some_iff]
  refine exists_congr fun d => and_congr_right fun _ => ?_
  constructor
  · rintro ⟨best, fits, rfl⟩
    exact ⟨fits, rfl, rfl⟩
  · rintro ⟨fits, oid, name⟩
    exact ⟨hit.score, fits, by rw [← oid, ← name]⟩

theorem length_hits (definitions : List Definition) :
    (definitions.filterMap fun d => d.hit? score query).length =
      definitions.countP (Definition.isMatch score query) := by
  rw [List.length_filterMap_eq_countP]
  refine List.countP_congr fun d _ => ?_
  rw [Definition.hit?, Option.isSome_map, Definition.isSome_bestScore?]

theorem nodup_hits {definitions : List Definition}
    (apart : (definitions.map fun d => d.oid.text).Nodup) :
    ((definitions.filterMap fun d => d.hit? score query).map Hit.oid).Nodup := by
  refine apart.sublist ?_
  rw [← List.filterMap_eq_map, ← List.filterMap_eq_map, List.filterMap_filterMap]
  induction definitions with
  | nil => exact .slnil
  | cons d definitions ih =>
    have rest := ih (List.nodup_cons.1 apart).2
    cases best : d.bestScore? score query with
    | none => simpa [Definition.hit?, best] using rest.cons d.oid.text
    | some value => simpa [Definition.hit?, best] using rest

theorem pairwise_before_bestHits {definitions : List Definition}
    (apart : (definitions.map fun d => d.oid.text).Nodup) (limit : Nat) :
    (bestHits score query limit definitions).Pairwise Hit.Before :=
  (pairwise_before_mergeSort (nodup_hits apart)).sublist (List.take_sublist _ _)

theorem nodup_bestHits {definitions : List Definition}
    (apart : (definitions.map fun d => d.oid.text).Nodup) (limit : Nat) :
    ((bestHits score query limit definitions).map Hit.oid).Nodup :=
  ((List.mergeSort_perm _ Hit.precedes).map Hit.oid).nodup_iff.2 (nodup_hits apart) |>.sublist
    ((List.take_sublist _ _).map Hit.oid)

/-- The order in which definitions are gone through makes no difference. -/
theorem bestHits_of_perm {definitions others : List Definition}
    (apart : (definitions.map fun d => d.oid.text).Nodup) (same : definitions.Perm others) (limit : Nat) :
    bestHits score query limit definitions = bestHits score query limit others := by
  rw [bestHits, bestHits, mergeSort_eq_of_perm (nodup_hits apart) (same.filterMap _)]

/-- A lower limit only cuts off the end. -/
theorem bestHits_take {definitions : List Definition} {limit more : Nat} (le : limit ≤ more) :
    bestHits score query limit definitions = (bestHits score query more definitions).take limit := by
  rw [bestHits, bestHits, List.take_take, Nat.min_eq_left le]

/-- As many are found as match, up to the limit. -/
theorem length_bestHits (definitions : List Definition) (limit : Nat) :
    (bestHits score query limit definitions).length =
      min limit (definitions.countP (Definition.isMatch score query)) := by
  rw [bestHits, List.length_take, List.length_mergeSort, length_hits]

/-- If the limit is high enough, all that match are found. -/
theorem mem_bestHits_iff {definitions : List Definition} {limit : Nat}
    (enough : definitions.countP (Definition.isMatch score query) ≤ limit) {hit : Hit} :
    hit ∈ bestHits score query limit definitions ↔
      ∃ d ∈ definitions, d.Fits score query hit.score ∧ hit.oid = d.oid.text ∧ hit.name = d.name := by
  rw [bestHits, List.take_of_length_le, List.mem_mergeSort, mem_hits_iff]
  rwa [List.length_mergeSort, length_hits]

/-- Hits as a search in a registry gives them. -/
structure Ranked (registry : Registry) (score : String → String → Option Int) (query : String)
    (limit : Nat) (hits : List Hit) : Prop where
  ordered : hits.Pairwise Hit.Before
  once : (hits.map Hit.oid).Nodup
  length : hits.length = min limit (registry.store.toList.countP (Definition.isMatch score query))
  /-- A hit is a registered definition with its best score. -/
  sound : ∀ hit ∈ hits, ∃ d, registry.store.get? d.oid.text = some d ∧
    d.Fits score query hit.score ∧ hit.oid = d.oid.text ∧ hit.name = d.name
  /-- Nothing that matches is missing, unless there are more matches than asked for. -/
  complete : registry.store.toList.countP (Definition.isMatch score query) ≤ limit →
    ∀ d, registry.store.get? d.oid.text = some d → d.isMatch score query = true →
      ∃ hit ∈ hits, hit.oid = d.oid.text

namespace Registry

theorem Reached.ranked {registry : Registry} (reached : registry.Reached)
    (score : String → String → Option Int) (query : String) (limit : Nat) :
    Ranked registry score query limit (registry.searchWith score query limit) := by
  have coherent := reached.sound.coherent
  refine ⟨pairwise_before_bestHits coherent.nodup_toList limit, nodup_bestHits coherent.nodup_toList limit, length_bestHits _ _,
    fun hit member => ?_, fun enough d stored isMatch => ?_⟩
  · have listed := List.mem_mergeSort.1 (List.mem_of_mem_take member)
    obtain ⟨d, among, means⟩ := mem_hits_iff.1 listed
    exact ⟨d, coherent.mem_toList.1 among, means⟩
  · have some : (d.bestScore? score query).isSome = true := d.isSome_bestScore?.trans isMatch
    obtain ⟨best, scored⟩ := Option.isSome_iff_exists.1 some
    refine ⟨⟨d.oid.text, d.name, best⟩, (mem_bestHits_iff enough).2 ⟨d, ?_, ?_⟩, rfl⟩
    · exact coherent.mem_toList.2 stored
    · exact ⟨Definition.bestScore?_eq_some_iff.1 scored, rfl, rfl⟩

/-- What a search finds is settled by what is registered, whatever measures likeness: not by the calls that
have led to the registry, and not by the order in which its definitions are gone through. A lower limit cuts
off the end. The hits are in strict order, each identifier is among them once, and they are the definitions
that match, each with the best score of its names and its identifier. -/
theorem Reached.search_determined {one two : Registry} (reached : one.Reached) (also : two.Reached)
    (same : ∀ d, d ∈ one.store.toList ↔ d ∈ two.store.toList) (score : String → String → Option Int)
    (query : String) :
    (∀ limit, one.searchWith score query limit = two.searchWith score query limit) ∧
    (∀ definitions : List Definition, definitions.Perm one.store.toList →
      ∀ limit, bestHits score query limit definitions = one.searchWith score query limit) ∧
    (∀ limit more, limit ≤ more →
      one.searchWith score query limit = (one.searchWith score query more).take limit) ∧
    ∀ limit, Ranked one score query limit (one.searchWith score query limit) := by
  have apart := reached.sound.coherent.nodup_toList
  have perm := reached.sound.coherent.perm_of_mem_iff also.sound.coherent same
  refine ⟨bestHits_of_perm apart perm, fun definitions listed limit => ?_,
    fun limit more le => bestHits_take le, reached.ranked score query⟩
  exact (bestHits_of_perm apart listed.symm limit).symm

/-- The same definitions have come in different order, under different policies. Both match, equally
well. -/
theorem Reached.search_determined_sample :
    (∀ query limit, Sample.full.search query limit = Sample.strictBoth.search query limit) ∧
      Sample.strictBoth.search "6" 1 = (Sample.strictBoth.search "6" 2).take 1 ∧
      (Sample.strictBoth.search "6" 2).length = 2 := by
  have same : ∀ d, d ∈ Sample.strictBoth.store.toList ↔ d ∈ Sample.full.store.toList :=
    fun _ => by rw [Sample.toList_strictBoth]
  have determined := search_determined Sample.strictBoth_reached Sample.full_reached same Fuzzy.score
  have matches' : Sample.strictBoth.store.toList.countP (Definition.isMatch Fuzzy.score "6") = 2 := by
    decide +kernel
  obtain ⟨_, _, cut, ranked⟩ := determined "6"
  refine ⟨fun query limit => ((determined query).1 limit).symm, cut 1 2 (by decide), ?_⟩
  exact (ranked 2).length.trans (by rw [matches', Nat.min_self])

end Registry

end Subschema
