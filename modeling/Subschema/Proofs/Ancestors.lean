import Mathlib.Algebra.Order.BigOperators.Group.List
import Mathlib.Algebra.Order.Ring.Nat
import Mathlib.Data.Multiset.AddSub
import Subschema.Proofs.Batch

namespace Subschema

theorem sum_filter_of_mem {β : Type} [DecidableEq β] {items : List β} {item : β} {small large : β → Bool}
    (weight : β → Nat) (distinct : items.Nodup) (member : item ∈ items) (lacks : small item = false)
    (gains : large item = true) (same : ∀ other ∈ items, other ≠ item → large other = small other) :
    ((items.filter large).map weight).sum = ((items.filter small).map weight).sum + weight item := by
  have around : items.Perm (item :: items.erase item) := List.perm_cons_erase member
  have rest : (items.erase item).filter large = (items.erase item).filter small := by
    refine List.filter_congr fun other remains => ?_
    obtain ⟨differs, among⟩ := (List.Nodup.mem_erase_iff distinct).1 remains
    exact same other among differs
  have more := ((around.filter large).map weight).sum_eq
  have less := ((around.filter small).map weight).sum_eq
  rw [List.filter_cons_of_pos gains, rest, List.map_cons, List.sum_cons] at more
  rw [List.filter_cons_of_neg (Bool.eq_false_iff.1 lacks)] at less
  omega

namespace Store

/-- A stored definition that some superiors lead to, by way of superiors of stored definitions. -/
inductive Ancestor (store : Store) (superiors : List String) : Definition → Prop
  | first {superior : String} {d : Definition} :
      superior ∈ superiors → store.get? superior = some d → Ancestor store superiors d
  | next {superior : String} {d e : Definition} :
      Ancestor store superiors d → superior ∈ d.superiors → store.get? superior = some e →
      Ancestor store superiors e

/-- What has been seen after some rounds, and what waits. An entry is passed over if nothing is stored
under it that has not been seen. -/
inductive Climb (store : Store) (superiors : List String) : Nat → TextSet → Multiset String → Prop
  | start : Climb store superiors 0 ∅ superiors
  | pass {rounds : Nat} {seen : TextSet} {entry : String} {waiting : Multiset String} :
      Climb store superiors rounds seen (entry ::ₘ waiting) →
      (∀ d, store.get? entry = some d → d.oid.text ∈ seen) →
      Climb store superiors (rounds + 1) seen waiting
  | see {rounds : Nat} {seen : TextSet} {entry : String} {waiting : Multiset String} {d : Definition} :
      Climb store superiors rounds seen (entry ::ₘ waiting) →
      store.get? entry = some d → d.oid.text ∉ seen →
      Climb store superiors (rounds + 1) (seen.insert d.oid.text) (waiting + d.superiors)

/-- An entry that waits, or need not wait any more. -/
def Settled (store : Store) (seen : TextSet) (waiting : Multiset String) (entry : String) : Prop :=
  entry ∈ waiting ∨ ∀ d, store.get? entry = some d → d.oid.text ∈ seen

/-- How many superiors the definitions that have been seen list. -/
def listed (store : Store) (seen : TextSet) : Nat :=
  ((store.toList.filter fun d => seen.contains d.oid.text).map fun d => d.superiors.length).sum

section Climb

variable {store : Store} {superiors : List String} {rounds : Nat} {seen : TextSet}
  {waiting : Multiset String}

/-- A superior stays settled when an entry is taken that leads nowhere new. -/
theorem Settled.pass {entry other : String} (settled : store.Settled seen (entry ::ₘ waiting) other)
    (idle : ∀ d, store.get? entry = some d → d.oid.text ∈ seen) :
    store.Settled seen waiting other := by
  rcases settled with waits | known
  · rcases Multiset.mem_cons.1 waits with rfl | later
    · exact Or.inr idle
    · exact Or.inl later
  · exact Or.inr known

/-- A superior stays settled when a definition is seen, whose superiors wait from then on. -/
theorem Settled.see {entry other : String} {d : Definition}
    (settled : store.Settled seen (entry ::ₘ waiting) other) (stored : store.get? entry = some d) :
    store.Settled (seen.insert d.oid.text) (waiting + d.superiors) other := by
  rcases settled with waits | known
  · rcases Multiset.mem_cons.1 waits with rfl | later
    · refine Or.inr fun e again => ?_
      cases Option.some.inj (stored.symm.trans again)
      exact Std.ExtTreeSet.mem_insert_self
    · exact Or.inl (Multiset.mem_add.2 (Or.inl later))
  · exact Or.inr fun e kept => TextSet.mem_insert_iff.2 (Or.inr (known e kept))

/-- Whatever is seen is an ancestor, and so is whatever is stored under an entry that waits. -/
theorem Climb.sound (climb : store.Climb superiors rounds seen waiting) :
    (∀ oid ∈ seen, ∃ d, store.Ancestor superiors d ∧ d.oid.text = oid) ∧
      ∀ entry ∈ waiting, ∀ d, store.get? entry = some d → store.Ancestor superiors d := by
  induction climb with
  | start => exact ⟨by simp, fun entry member d stored => .first (Multiset.mem_coe.1 member) stored⟩
  | pass _ _ ih => exact ⟨ih.1, fun entry member => ih.2 entry (Multiset.mem_cons_of_mem member)⟩
  | @see _ _ entry _ d _ stored _ ih =>
    have ancestor := ih.2 entry (Multiset.mem_cons_self _ _) d stored
    refine ⟨fun oid member => ?_, fun other member e held => ?_⟩
    · rcases TextSet.mem_insert_iff.1 member with rfl | before
      · exact ⟨d, ancestor, rfl⟩
      · exact ih.1 oid before
    · rcases Multiset.mem_add.1 member with before | named
      · exact ih.2 other (Multiset.mem_cons_of_mem before) e held
      · exact .next ancestor (Multiset.mem_coe.1 named) held

/-- The superiors that the search starts from are settled, and so are those of all that has been seen. -/
theorem Climb.settles (coherent : store.Coherent) (climb : store.Climb superiors rounds seen waiting) :
    (∀ superior ∈ superiors, store.Settled seen waiting superior) ∧
      ∀ d, store.get? d.oid.text = some d → d.oid.text ∈ seen →
        ∀ superior ∈ d.superiors, store.Settled seen waiting superior := by
  induction climb with
  | start => exact ⟨fun superior member => Or.inl (Multiset.mem_coe.2 member), by simp⟩
  | pass _ idle ih =>
    exact ⟨fun superior member => (ih.1 superior member).pass idle,
      fun d stored known superior named => (ih.2 d stored known superior named).pass idle⟩
  | @see _ _ entry _ d _ stored _ ih =>
    refine ⟨fun superior member => (ih.1 superior member).see stored,
      fun e held known superior named => ?_⟩
    rcases TextSet.mem_insert_iff.1 known with same | before
    -- what has just been seen is the only definition with its identifier
    · rw [← same, coherent.keyed stored, stored] at held
      cases Option.some.inj held
      exact Or.inl (Multiset.mem_add.2 (Or.inr (Multiset.mem_coe.2 named)))
    · exact (ih.2 e held before superior named).see stored

theorem listed_empty : store.listed ∅ = 0 := by
  simp [listed]

/-- The superiors of a definition come to wait only once, when it is seen. So the rounds can be
counted. -/
theorem listed_insert (coherent : store.Coherent) {d : Definition}
    (stored : store.get? d.oid.text = some d) (fresh : d.oid.text ∉ seen) :
    store.listed (seen.insert d.oid.text) = store.listed seen + d.superiors.length := by
  have distinct := coherent.nodup_toList
  refine sum_filter_of_mem (fun e => e.superiors.length) distinct.of_map (coherent.mem_toList.2 stored)
    ?_ ?_ fun e among other => ?_
  · rwa [← Bool.not_eq_true, ← Std.ExtTreeSet.mem_iff_contains]
  · exact Std.ExtTreeSet.mem_iff_contains.1 Std.ExtTreeSet.mem_insert_self
  · have differs : d.oid.text ≠ e.oid.text := fun same =>
      other (List.inj_on_of_nodup_map distinct among (coherent.mem_toList.2 stored) same.symm)
    rw [Bool.eq_iff_iff, ← Std.ExtTreeSet.mem_iff_contains, ← Std.ExtTreeSet.mem_iff_contains,
      TextSet.mem_insert_iff]
    exact or_iff_right differs

theorem listed_le : store.listed seen ≤ (store.toList.map fun d => d.superiors.length).sum :=
  (List.filter_sublist.map _).sum_le_sum fun _ _ => Nat.zero_le _

/-- Each entry that has ever waited takes one round. -/
theorem Climb.rounds_add_card (coherent : store.Coherent)
    (climb : store.Climb superiors rounds seen waiting) :
    rounds + waiting.card = superiors.length + store.listed seen := by
  induction climb with
  | start => rw [listed_empty, Multiset.coe_card, Nat.add_comm]
  | pass _ _ ih =>
    rw [Multiset.card_cons] at ih
    omega
  | @see _ _ entry _ d _ stored fresh ih =>
    have own : store.get? d.oid.text = some d := by rw [coherent.keyed stored, stored]
    have grows := listed_insert coherent own fresh
    rw [Multiset.card_cons] at ih
    rw [Multiset.card_add, Multiset.coe_card]
    omega

/-- As long as something waits, there is a next round. -/
theorem Climb.progress (climb : store.Climb superiors rounds seen waiting) (more : waiting ≠ 0) :
    ∃ seen waiting, store.Climb superiors (rounds + 1) seen waiting := by
  obtain ⟨entry, member⟩ := Multiset.exists_mem_of_ne_zero more
  obtain ⟨rest, rfl⟩ := Multiset.exists_cons_of_mem member
  by_cases idle : ∀ d, store.get? entry = some d → d.oid.text ∈ seen
  · exact ⟨_, _, climb.pass idle⟩
  · push Not at idle
    obtain ⟨d, stored, fresh⟩ := idle
    exact ⟨_, _, climb.see stored fresh⟩

/-- A search that is over has seen all ancestors. -/
theorem Climb.mem_seen_iff (coherent : store.Coherent) (climb : store.Climb superiors rounds seen 0)
    {oid : String} : oid ∈ seen ↔ ∃ d, store.Ancestor superiors d ∧ d.oid.text = oid := by
  refine ⟨climb.sound.1 oid, ?_⟩
  rintro ⟨d, ancestor, rfl⟩
  obtain ⟨first, next⟩ := climb.settles coherent
  have settled : ∀ {entry : String}, store.Settled seen 0 entry →
      ∀ {e : Definition}, store.get? entry = some e → e.oid.text ∈ seen ∧ store.get? e.oid.text = some e := by
    intro entry settled e stored
    refine ⟨settled.resolve_left (Multiset.notMem_zero _) e stored, ?_⟩
    rw [coherent.keyed stored, stored]
  have known : d.oid.text ∈ seen ∧ store.get? d.oid.text = some d := by
    induction ancestor with
    | first member stored => exact settled (first _ member) stored
    | next _ named stored ih => exact settled (next _ ih.2 ih.1 _ named) stored
  exact known.1

/-- The search that is made takes the entries from the front of a list. -/
theorem Climb.explore (coherent : store.Coherent) {todo : List String}
    (climb : store.Climb superiors rounds seen todo) :
    ∃ total, store.Climb superiors total
      (explore store.definitions Definition.superiors seen todo) 0 := by
  fun_induction Subschema.explore store.definitions Definition.superiors seen todo generalizing rounds with
  | case1 => exact ⟨rounds, climb⟩
  | case2 seen entry rest absent ih =>
    rw [← Multiset.cons_coe] at climb
    refine ih (climb.pass fun d stored => ?_)
    rw [get?, absent] at stored
    simp at stored
  | case3 seen entry rest d stored known ih =>
    rw [← Multiset.cons_coe] at climb
    refine ih (climb.pass fun e again => ?_)
    rw [coherent.keyed again]
    exact Std.ExtTreeSet.mem_iff_contains.2 known
  | case4 seen entry rest d stored fresh ih =>
    obtain rfl : d.oid.text = entry := coherent.keyed stored
    have unseen : d.oid.text ∉ seen := fun known => fresh (Std.ExtTreeSet.mem_iff_contains.1 known)
    rw [← Multiset.cons_coe] at climb
    have next := climb.see stored unseen
    rw [Multiset.coe_add, Multiset.coe_eq_coe.2 List.perm_append_comm] at next
    exact ih next

end Climb

/-- Stores with definitions under the same identifiers, which list the same superiors in any order and any
number of times. -/
def Reorders (store other : Store) : Prop :=
  ∀ oid, Option.Rel (fun d e => ∀ superior, superior ∈ d.superiors ↔ superior ∈ e.superiors)
    (store.get? oid) (other.get? oid)

section Reorders

variable {store other : Store} (same : store.Reorders other)

include same

theorem Reorders.contains (oid : String) : other.contains oid = store.contains oid := by
  have related := same oid
  rw [Store.contains, Store.contains]
  generalize store.get? oid = one, other.get? oid = two at related ⊢
  cases related with
  | some _ => rfl
  | none => rfl

theorem Reorders.names : other.Names = store.Names := by
  funext sub sup
  have related := same sub
  rw [Names, Names, eq_iff_iff]
  generalize store.get? sub = one, other.get? sub = two at related ⊢
  cases related with
  | some agree => simp [agree]
  | none => simp

/-- Ancestors are the same whatever order superiors stand in, and however often. -/
theorem Reorders.ancestors {superiors others : List String}
    (members : ∀ superior, superior ∈ superiors ↔ superior ∈ others) :
    other.ancestors others = store.ancestors superiors := by
  refine Std.ExtTreeSet.ext_mem fun oid => ?_
  rw [mem_ancestors, mem_ancestors, same.contains, same.names]
  simp only [members]

end Reorders

/-- Whatever has been stored, with loops, with superiors that are missing, no identifiers at all or
listed twice: the ancestors for some superiors are the identifiers of the stored definitions that these
lead to. The search comes to its end, and so does one that takes the entries in another order. As long
as something waits there is a next round, there are no more rounds than superiors given and stored, and
in the end the same has been seen. Nor does it matter in which order or how often superiors are given,
and listed by definitions. -/
theorem Reached.ancestors_exact {store : Store} (reached : store.Reached) (superiors : List String) :
    (∀ oid, oid ∈ store.ancestors superiors ↔
      ∃ d, store.Ancestor superiors d ∧ d.oid.text = oid) ∧
    (∃ rounds, store.Climb superiors rounds (store.ancestors superiors) 0) ∧
    (∀ rounds seen waiting, store.Climb superiors rounds seen waiting →
      rounds ≤ superiors.length + (store.toList.map fun d => d.superiors.length).sum ∧
      (waiting ≠ 0 → ∃ more left, store.Climb superiors (rounds + 1) more left) ∧
      (waiting = 0 → seen = store.ancestors superiors)) ∧
    ∀ other others, store.Reorders other → (∀ superior, superior ∈ superiors ↔ superior ∈ others) →
      other.ancestors others = store.ancestors superiors := by
  have coherent := reached.coherent
  obtain ⟨total, made⟩ := Climb.explore coherent (.start : store.Climb superiors 0 ∅ superiors)
  have exact : ∀ oid, oid ∈ store.ancestors superiors ↔
      ∃ d, store.Ancestor superiors d ∧ d.oid.text = oid := fun _ => made.mem_seen_iff coherent
  refine ⟨exact, ⟨total, made⟩, fun rounds seen waiting climb => ⟨?_, climb.progress, ?_⟩,
    fun other others same members => same.ancestors members⟩
  · have spent := climb.rounds_add_card coherent
    have bound := @listed_le store seen
    omega
  · rintro rfl
    exact Std.ExtTreeSet.ext_mem fun oid => (climb.mem_seen_iff coherent).trans (exact oid).symm

end Store

namespace Sample

def ring : Definition :=
  { oid := ⟨"1.7", by decide⟩, kind := .objectClass, superiors := ["1.8", "mystery", "1.8"] }

def knot : Definition :=
  { oid := ⟨"1.8", by decide⟩, kind := .objectClass, superiors := ["9.9", "1.7"] }

def loose : Definition :=
  { oid := ⟨"2.8", by decide⟩, kind := .objectClass, superiors := ["1.7"] }

def knotted : Store := ((({} : Store).offer ring).offer knot).offer loose

/-- The same references in another order. -/
def reknotted : Store :=
  ((({} : Store).offer loose).offer { knot with superiors := ["1.7", "9.9", "1.7"] }).offer
    { ring with superiors := ["mystery", "1.8"] }

theorem knotted_reached : knotted.Reached :=
  ((Store.Reached.empty.offer ring).offer knot).offer loose

theorem ancestor_knotted_iff {d : Definition} :
    knotted.Ancestor ["", "1.8"] d ↔ d = ring ∨ d = knot := by
  have found : knotted.get? "1.8" = some knot ∧ knotted.get? "1.7" = some ring := by decide +kernel
  have closed : ∀ entry ∈ ["", "1.8"] ++ ring.superiors ++ knot.superiors,
      (knotted.get? entry).all (fun d => d = ring ∨ d = knot) = true := by decide +kernel
  constructor
  · intro ancestor
    induction ancestor with
    | @first entry _ member stored =>
      have both := closed entry (List.mem_append_left _ (List.mem_append_left _ member))
      simpa [stored] using both
    | @next entry _ _ _ named stored ih =>
      have both := closed entry (by rcases ih with rfl | rfl <;> simp [named])
      simpa [stored] using both
  · have lower : knotted.Ancestor ["", "1.8"] knot := .first (by decide) found.1
    rintro (rfl | rfl)
    · exact .next lower (by decide) found.2
    · exact lower

theorem knotted_reorders : knotted.Reorders reknotted := by
  have first : knotted.definitions =
      ((Std.ExtTreeMap.insert ∅ "1.7" ring).insert "1.8" knot).insert "2.8" loose := by decide +kernel
  have second : reknotted.definitions =
      ((Std.ExtTreeMap.insert ∅ "1.7" { ring with superiors := ["mystery", "1.8"] }).insert "1.8"
        { knot with superiors := ["1.7", "9.9", "1.7"] }).insert "2.8" loose := by decide +kernel
  intro oid
  rw [Store.get?, Store.get?, first, second]
  simp only [Std.ExtTreeMap.getElem?_insert, Std.ExtTreeMap.getElem?_empty]
  split
  · exact .some fun _ => Iff.rfl
  · split
    · exact .some fun _ => by simp [knot, or_comm]
    · split
      · exact .some fun _ => by simp [ring, or_comm]
      · exact .none

end Sample

/-- Two definitions are above each other, and one is above neither. -/
theorem Store.Reached.ancestors_exact_knotted :
    (∀ oid, oid ∈ Sample.knotted.ancestors ["", "1.8"] ↔ oid = "1.7" ∨ oid = "1.8") ∧
      Sample.reknotted.ancestors ["1.8", "", "1.8"] = Sample.knotted.ancestors ["", "1.8"] ∧
      ∀ rounds seen waiting, Sample.knotted.Climb ["", "1.8"] rounds seen waiting → rounds ≤ 8 := by
  obtain ⟨exact, _, ends, ordered⟩ := ancestors_exact Sample.knotted_reached ["", "1.8"]
  refine ⟨fun oid => ?_, ordered _ _ Sample.knotted_reorders (by simp [or_comm]), fun _ _ _ climb => ?_⟩
  · rw [exact]
    simp only [Sample.ancestor_knotted_iff]
    constructor
    · rintro ⟨d, rfl | rfl, rfl⟩
      · exact Or.inl rfl
      · exact Or.inr rfl
    · rintro (rfl | rfl)
      · exact ⟨_, Or.inl rfl, rfl⟩
      · exact ⟨_, Or.inr rfl, rfl⟩
  · have total : (Sample.knotted.toList.map fun d => d.superiors.length).sum = 6 := by decide +kernel
    have bound := (ends _ _ _ climb).1
    rwa [total] at bound

end Subschema
