import Subschema.Links
import Subschema.Proofs.Reach

namespace Subschema

/-- Steps of which each adds something add, one after the other, what some step of them adds. -/
theorem foldl_gains {σ β : Type} (holds : σ → Prop) (adds : β → Prop) {step : σ → β → σ}
    (one : ∀ state item, holds (step state item) ↔ holds state ∨ adds item) (items : List β)
    (state : σ) :
    holds (items.foldl step state) ↔ holds state ∨ ∃ item ∈ items, adds item := by
  induction items generalizing state with
  | nil => simp
  | cons item items ih =>
    rw [List.foldl_cons, ih, one, or_assoc]
    simp

/-- Steps of which each takes something away leave what no step of them takes. -/
theorem foldl_loses {σ β : Type} (holds : σ → Prop) (takes : β → Prop) {step : σ → β → σ}
    (one : ∀ state item, holds (step state item) ↔ holds state ∧ ¬ takes item) (items : List β)
    (state : σ) :
    holds (items.foldl step state) ↔ holds state ∧ ¬ ∃ item ∈ items, takes item := by
  induction items generalizing state with
  | nil => simp
  | cons item items ih =>
    rw [List.foldl_cons, ih, one, and_assoc]
    simp

namespace Links

/-- What replacing a row changes. -/
theorem mem_row_setRow {links : Links} {source other target : String} {targets : TextSet} :
    target ∈ (links.setRow source targets).row other ↔
      other = source ∧ target ∈ targets ∨ other ≠ source ∧ target ∈ links.row other := by
  rw [row_setRow]
  split
  · rename_i same
    simp [same]
  · rename_i differ
    simp [Ne.symm differ]

theorem mem_row_linkAll {links : Links} {source other target : String} {targets : TextSet} :
    target ∈ (links.linkAll source targets).row other ↔
      target ∈ links.row other ∨ other = source ∧ target ∈ targets := by
  rw [linkAll, mem_row_setRow, Std.ExtTreeSet.mem_union_iff]
  by_cases same : other = source
  · simp [same]
  · simp [same]

theorem mem_row_link {links : Links} {source other target more : String} :
    target ∈ (links.link source more).row other ↔
      target ∈ links.row other ∨ other = source ∧ target = more := by
  rw [link, mem_row_setRow, TextSet.mem_insert_iff]
  by_cases same : other = source
  · simp [same, or_comm, eq_comm]
  · simp [same]

theorem mem_row_unlinkAll {links : Links} {source other target : String} {targets : TextSet} :
    target ∈ (links.unlinkAll source targets).row other ↔
      target ∈ links.row other ∧ ¬ (other = source ∧ target ∈ targets) := by
  rw [unlinkAll, mem_row_setRow, Std.ExtTreeSet.mem_diff_iff]
  by_cases same : other = source
  · simp [same]
  · simp [same]

theorem mem_row_unlink {links : Links} {source other target less : String} :
    target ∈ (links.unlink source less).row other ↔
      target ∈ links.row other ∧ ¬ (other = source ∧ target = less) := by
  rw [unlink, mem_row_setRow, Std.ExtTreeSet.mem_erase, ne_eq, Std.LawfulEqCmp.compare_eq_iff_eq]
  by_cases same : other = source
  · simp [same, and_comm, eq_comm]
  · simp [same]

theorem mem_row_eraseRow {links : Links} {source other target : String} :
    target ∈ (links.eraseRow source).row other ↔ target ∈ links.row other ∧ other ≠ source := by
  rw [eraseRow, mem_row_setRow]
  simp [and_comm]

/-- Relations that relate the same texts are equal. -/
theorem ext_mem {first second : Links}
    (same : ∀ source target, target ∈ first.row source ↔ target ∈ second.row source) :
    first = second :=
  ext_row fun source => Std.ExtTreeSet.ext_mem fun target => same source target

/-- A listed row belongs to a source that is related to something, and shows all that it is related
to. -/
theorem mem_toList {links : Links} {source : String} {texts : List String} :
    (source, texts) ∈ links.toList ↔
      (∃ target, target ∈ links.row source) ∧ texts = (links.row source).toList := by
  rw [toList, List.mem_map]
  constructor
  · rintro ⟨⟨_, targets⟩, member, same⟩
    cases same
    have found := Std.ExtTreeMap.mem_toList_iff_getElem?_eq_some.1 member
    have row : links.row source = targets := by
      rw [Links.row, Std.ExtTreeMap.getD_eq_getD_getElem?, found]
      rfl
    have filled := links.rows_nonempty source targets found
    rw [Std.ExtTreeSet.isEmpty_eq_false_iff, Std.ExtTreeSet.eq_empty_iff_forall_not_mem,
      Classical.not_forall] at filled
    obtain ⟨target, inside⟩ := filled
    exact ⟨⟨target, by simpa [row, Classical.not_not] using inside⟩, by rw [row]⟩
  · rintro ⟨⟨target, inside⟩, rfl⟩
    refine ⟨(source, links.row source), ?_, rfl⟩
    rw [Std.ExtTreeMap.mem_toList_iff_getElem?_eq_some]
    cases found : links.rows[source]? with
    | none => simp [Links.row, Std.ExtTreeMap.getD_eq_getD_getElem?, found] at inside
    | some targets => simp [Links.row, Std.ExtTreeMap.getD_eq_getD_getElem?, found]

end Links

end Subschema
