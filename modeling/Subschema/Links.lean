import Subschema.Reach

namespace Subschema

/-- A finite relation between texts. Sources that are related to nothing have no row, so two
relations that relate the same texts are equal. -/
structure Links where
  rows : Std.ExtTreeMap String TextSet
  rows_nonempty : ∀ (source : String) (targets : TextSet),
      rows[source]? = some targets → targets.isEmpty = false
  deriving DecidableEq

namespace Links

/-- The relation that relates nothing. -/
def empty : Links := ⟨∅, by simp⟩

/-- Everything that a source is related to. -/
def row (links : Links) (source : String) : TextSet :=
  links.rows.getD source ∅

/-- Whether a source is related to a target. -/
def contains (links : Links) (source target : String) : Bool :=
  (links.row source).contains target

/-- The relation with a given row for a source. -/
def setRow (links : Links) (source : String) (targets : TextSet) : Links :=
  if h : targets.isEmpty = true then
    ⟨links.rows.erase source, by
      intro other found same
      rw [Std.ExtTreeMap.getElem?_erase] at same
      split at same
      · contradiction
      · exact links.rows_nonempty other found same⟩
  else
    ⟨links.rows.insert source targets, by
      intro other found same
      rw [Std.ExtTreeMap.getElem?_insert] at same
      split at same
      · rw [← Option.some.inj same]
        exact Bool.eq_false_iff.2 h
      · exact links.rows_nonempty other found same⟩

/-- Relates a source to further targets. -/
def linkAll (links : Links) (source : String) (targets : TextSet) : Links :=
  links.setRow source (links.row source ∪ targets)

/-- Relates a source to one more target. -/
def link (links : Links) (source target : String) : Links :=
  links.setRow source ((links.row source).insert target)

/-- Undoes the relation of a source to some targets. -/
def unlinkAll (links : Links) (source : String) (targets : TextSet) : Links :=
  links.setRow source (links.row source \ targets)

/-- Undoes the relation of a source to one target. -/
def unlink (links : Links) (source target : String) : Links :=
  links.setRow source ((links.row source).erase target)

/-- Undoes every relation of a source. -/
def eraseRow (links : Links) (source : String) : Links :=
  links.setRow source ∅

/-- The number of sources that are related to something. -/
def size (links : Links) : Nat := links.rows.size

/-- Whether nothing is related. -/
def isEmpty (links : Links) : Bool := links.rows.isEmpty

/-- The sources in order, each with its targets in order. -/
def toList (links : Links) : List (String × List String) :=
  links.rows.toList.map fun (source, targets) => (source, targets.toList)

theorem row_setRow (links : Links) (source other : String) (targets : TextSet) :
    (links.setRow source targets).row other = if source = other then targets else links.row other := by
  unfold setRow row
  split
  · rename_i h
    have none : targets = ∅ := Std.ExtTreeSet.isEmpty_iff.1 h
    simp only [Std.ExtTreeMap.getD_erase, Std.LawfulEqCmp.compare_eq_iff_eq, none]
  · simp only [Std.ExtTreeMap.getD_insert, Std.LawfulEqCmp.compare_eq_iff_eq]

/-- Relations with the same rows are equal. -/
theorem ext_row {first second : Links} (same : ∀ source, first.row source = second.row source) :
    first = second := by
  have rows : first.rows = second.rows := by
    apply Std.ExtTreeMap.ext_getElem?
    intro source
    have rowsEq := same source
    simp only [row, Std.ExtTreeMap.getD_eq_getD_getElem?] at rowsEq
    cases one : first.rows[source]? with
    | none =>
      cases two : second.rows[source]? with
      | none => rfl
      | some targets =>
        have := second.rows_nonempty source targets two
        simp [one, two] at rowsEq
        simp [← rowsEq] at this
    | some targets =>
      cases two : second.rows[source]? with
      | none =>
        have := first.rows_nonempty source targets one
        simp [one, two] at rowsEq
        simp [rowsEq] at this
      | some others =>
        simp [one, two] at rowsEq
        rw [rowsEq]
  cases first
  cases second
  cases rows
  rfl

end Links

end Subschema
