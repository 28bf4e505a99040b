import Subschema.Proofs.Delimited
import Subschema.Proofs.Canonical

namespace Subschema

/-- A definition with names that are names and superiors that are identifiers. -/
structure Definition.WellSpelt (d : Definition) : Prop where
  named : ∀ name ∈ d.names, checkName name = .ok ()
  numeric : ∀ superior ∈ d.superiors, isNumericOid superior.toList = true

theorem Registry.Reached.wellSpelt {registry : Registry} (reached : registry.Reached) {oid : String}
    {d : Definition} (stored : registry.store.get? oid = some d) : d.WellSpelt :=
  ⟨(reached.canonical oid d stored).named, (reached.canonical oid d stored).numeric⟩

theorem Definition.WellSpelt.spelled_of_name {d : Definition} (spelt : d.WellSpelt) :
    ∀ name ∈ d.names, Spelled name := fun name member =>
  spelled_of_isDescr (checkName_eq_ok_iff.1 (spelt.named name member))

/-- One of several names. -/
def quoted (name : String) : List Char := ' ' :: '\'' :: (name.toList ++ ['\''])

theorem delimits_quoted : Delimits quoted Spelled fun _ => True := by
  intro a b rest others spelled also _ _ same
  simp only [quoted, List.cons_append, List.nil_append, List.append_assoc, List.cons.injEq,
    true_and] at same
  obtain ⟨name, remaining⟩ :=
    delimits_spelled a b _ _ spelled also (ends_cons rfl rest) (ends_cons rfl others) same
  exact ⟨name, (List.cons.inj remaining).2⟩

/-- The bracket after the last of several parts. -/
def Closes (cs : List Char) : Prop := ∃ rest, cs = ' ' :: ')' :: rest

theorem delimits_flatMap_quoted :
    Delimits (List.flatMap quoted) (fun names => ∀ name ∈ names, Spelled name) Closes :=
  delimits_quoted.flatMap (fun _ _ _ => trivial) (fun _ _ => trivial) fun a rest _ ⟨_, same⟩ => by
    simp [quoted] at same

theorem toList_renderNames_several (a b : String) (names : List String) :
    (renderNames (a :: b :: names)).toList =
      " NAME (".toList ++ ((a :: b :: names).flatMap quoted ++ [' ', ')']) := by
  simp only [renderNames, String.toList_append, String.toList_join, List.flatMap_map, List.append_assoc]
  rfl

/-- What follows the names: a part that starts with another word, or the end. -/
def PastNames (cs : List Char) : Prop := ∃ c rest, cs = ' ' :: c :: rest ∧ c ≠ 'N'

/-- Whether there are none, one or several names shows in the first characters. -/
theorem delimits_renderNames : Delimits (fun names => (renderNames names).toList)
    (fun names => ∀ name ∈ names, Spelled name) PastNames := by
  rintro names found _ _ all also ⟨c, rest, rfl, past⟩ ⟨d, others, rfl, gone⟩ same
  rcases names with _ | ⟨a, _ | ⟨b, names⟩⟩ <;> rcases found with _ | ⟨x, _ | ⟨y, found⟩⟩
  · exact ⟨rfl, same⟩
  · simp [renderNames, past] at same
  · simp [renderNames, past] at same
  · simp [renderNames, gone.symm] at same
  · simp only [renderNames, String.toList_append, List.append_assoc] at same
    obtain ⟨rfl, remaining⟩ := delimits_spelled a x _ _ (all a List.mem_cons_self)
      (also x List.mem_cons_self) (ends_cons rfl _) (ends_cons rfl _) (List.append_cancel_left same)
    exact ⟨rfl, (List.cons.inj remaining).2⟩
  · simp [renderNames] at same
  · simp [renderNames, gone.symm] at same
  · simp [renderNames] at same
  · simp only [toList_renderNames_several, List.append_assoc] at same
    obtain ⟨texts, remaining⟩ := delimits_flatMap_quoted _ _ _ _ all also ⟨_, rfl⟩ ⟨_, rfl⟩
      (List.append_cancel_left same)
    exact ⟨texts, by simpa using remaining⟩

theorem ends_renderNames (names : List String) {rest : List Char} (past : PastNames rest) :
    Ends ((renderNames names).toList ++ rest) := by
  obtain ⟨c, rest, rfl, _⟩ := past
  rcases names with _ | ⟨a, _ | ⟨b, names⟩⟩
  · exact ends_cons rfl _
  · rw [renderNames, String.toList_append, String.toList_append, List.append_assoc, List.append_assoc]
    exact ends_cons rfl _
  · rw [toList_renderNames_several, List.append_assoc]
    exact ends_cons rfl _

/-- One of several superiors, but for the first. -/
def further (superior : String) : List Char := ' ' :: '$' :: ' ' :: superior.toList

theorem delimits_further : Delimits further Spelled Ends := by
  intro a b rest others spelled also ends stops same
  simp only [further, List.cons_append, List.cons.injEq, true_and] at same
  exact delimits_spelled a b _ _ spelled also ends stops same

theorem delimits_flatMap_further :
    Delimits (List.flatMap further) (fun superiors => ∀ superior ∈ superiors, Spelled superior) Closes :=
  delimits_further.flatMap (fun _ _ _ => ends_cons rfl _) (fun _ ⟨_, same⟩ => same ▸ ends_cons rfl _)
    fun a rest _ ⟨_, same⟩ => by simp [further] at same

theorem toList_renderSuperiors_several (a b : String) (superiors : List String) :
    (renderSuperiors (a :: b :: superiors)).toList =
      " SUP ( ".toList ++ (a.toList ++ ((b :: superiors).flatMap further ++ [' ', ')'])) := by
  have joined : ∀ (first : List Char) (superiors : List String),
      " $ ".toList.intercalate (first :: superiors.map String.toList) =
        first ++ superiors.flatMap further := by
    intro first superiors
    induction superiors generalizing first with
    | nil => simp
    | cons superior superiors ih => simpa [further] using ih superior.toList
  have whole := joined a.toList (b :: superiors)
  simp only [renderSuperiors, String.toList_append, String.toList_intercalate, List.map_cons,
    List.append_assoc] at whole ⊢
  rw [whole, List.append_assoc]
  rfl

/-- The superiors and the end of the text. -/
def closing (superiors : List String) : List Char := (renderSuperiors superiors).toList ++ [' ', ')']

/-- An identifier does not start with a bracket. -/
theorem append_ne_bracket {superior : String} (numeric : isNumericOid superior.toList = true)
    (rest others : List Char) : superior.toList ++ rest ≠ '(' :: others := by
  obtain ⟨c, cs, start, digit⟩ := isDigit_head_of_isNumericOid numeric
  rw [start, List.cons_append]
  intro same
  rw [(List.cons.inj same).1] at digit
  exact absurd digit (by decide)

/-- The superiors with which a text ends. -/
theorem closing_inj {superiors found : List String}
    (all : ∀ superior ∈ superiors, isNumericOid superior.toList = true)
    (also : ∀ superior ∈ found, isNumericOid superior.toList = true)
    (same : closing superiors = closing found) : superiors = found := by
  have spelled : ∀ superior ∈ superiors, Spelled superior :=
    fun superior member => spelled_of_isNumericOid (all superior member)
  have spelled' : ∀ superior ∈ found, Spelled superior :=
    fun superior member => spelled_of_isNumericOid (also superior member)
  unfold closing at same
  rcases superiors with _ | ⟨a, _ | ⟨b, superiors⟩⟩ <;> rcases found with _ | ⟨x, _ | ⟨y, found⟩⟩
  · rfl
  · simp [renderSuperiors] at same
  · simp [renderSuperiors] at same
  · simp [renderSuperiors] at same
  · simp only [renderSuperiors, String.toList_append, List.append_assoc] at same
    obtain ⟨rfl, _⟩ := delimits_spelled a x _ _ (spelled a List.mem_cons_self)
      (spelled' x List.mem_cons_self) (ends_cons rfl _) (ends_cons rfl _) (List.append_cancel_left same)
    rfl
  · simp [renderSuperiors, append_ne_bracket (all a List.mem_cons_self)] at same
  · simp [renderSuperiors] at same
  · simp [renderSuperiors, (append_ne_bracket (also x List.mem_cons_self) _ _).symm] at same
  · simp only [toList_renderSuperiors_several, List.append_assoc] at same
    obtain ⟨rfl, remaining⟩ := delimits_spelled a x _ _ (spelled a List.mem_cons_self)
      (spelled' x List.mem_cons_self) (ends_cons rfl _) (ends_cons rfl _) (List.append_cancel_left same)
    obtain ⟨others, _⟩ := delimits_flatMap_further _ _ _ _ (List.forall_mem_cons.1 spelled).2
      (List.forall_mem_cons.1 spelled').2 ⟨_, rfl⟩ ⟨_, rfl⟩ remaining
    rw [others]

/-- The part of the text behind the description. -/
def behind (obsolete : Bool) (superiors : List String) : List Char :=
  (if obsolete then " OBSOLETE" else "").toList ++ closing superiors

/-- What follows the description tells the superiors and whether the definition is obsolete. -/
theorem behind_inj {obsolete gone : Bool} {superiors found : List String}
    (all : ∀ superior ∈ superiors, isNumericOid superior.toList = true)
    (also : ∀ superior ∈ found, isNumericOid superior.toList = true)
    (same : behind obsolete superiors = behind gone found) : obsolete = gone ∧ superiors = found := by
  have start : ∀ superiors rest, closing superiors ≠ " OBSOLETE".toList ++ rest := by
    intro superiors rest
    rcases superiors with _ | ⟨a, _ | ⟨b, superiors⟩⟩ <;> simp [closing, renderSuperiors]
  cases obsolete <;> cases gone
  · exact ⟨rfl, closing_inj all also same⟩
  · exact absurd same (start _ _)
  · exact absurd same.symm (start _ _)
  · exact ⟨rfl, closing_inj all also (List.append_cancel_left same)⟩

theorem quote_not_mem_of_spelled {s : String} (spelled : Spelled s) : '\'' ∉ s.toList :=
  fun member => absurd (spelled _ member) (by decide)

/-- Nothing behind the description has a quote. -/
theorem quote_not_mem_behind {obsolete : Bool} {superiors : List String}
    (all : ∀ superior ∈ superiors, Spelled superior) : '\'' ∉ behind obsolete superiors := by
  have free : ∀ superior ∈ superiors, '\'' ∉ superior.toList :=
    fun superior member => quote_not_mem_of_spelled (all superior member)
  have closes : '\'' ∉ closing superiors := by
    rcases superiors with _ | ⟨a, _ | ⟨b, superiors⟩⟩
    · simp [closing, renderSuperiors]
    · simp [closing, renderSuperiors, free a List.mem_cons_self]
    · simpa [closing, toList_renderSuperiors_several, further] using free
  cases obsolete
  · exact closes
  · simpa [behind] using closes

/-- What is behind the description starts with another word, or is the end. -/
theorem behind_start (obsolete : Bool) (superiors : List String) :
    ∃ c rest, behind obsolete superiors = ' ' :: c :: rest ∧ c ≠ 'N' ∧ c ≠ 'D' := by
  cases obsolete
  · rcases superiors with _ | ⟨a, _ | ⟨b, superiors⟩⟩
    · exact ⟨_, _, rfl, by decide, by decide⟩
    · exact ⟨'S', _, by simp [behind, closing, renderSuperiors]; rfl, by decide, by decide⟩
    · exact ⟨'S', _, by simp [behind, closing, renderSuperiors]; rfl, by decide, by decide⟩
  · exact ⟨'O', _, rfl, by decide, by decide⟩

/-- The description and what follows it. -/
def describing (description : Option String) (rest : List Char) : List Char :=
  (renderDescription description).toList ++ rest

/-- The parts of the text of a definition. -/
theorem toList_render (d : Definition) : d.render.toList = "( ".toList ++ (d.oid.text.toList ++
    ((renderNames d.names).toList ++ describing d.description (behind d.obsolete d.superiors))) := by
  simp [Definition.render, describing, behind, closing]

theorem pastNames_describing (description : Option String) (obsolete : Bool) (superiors : List String) :
    PastNames (describing description (behind obsolete superiors)) := by
  cases description with
  | none =>
    obtain ⟨c, rest, start, past, _⟩ := behind_start obsolete superiors
    exact ⟨c, rest, start, past⟩
  | some text => exact ⟨'D', _, by simp [describing, renderDescription]; rfl, by decide⟩

/-- Whatever the description says, it ends before the last quote. -/
theorem describing_inj {description told : Option String} {obsolete gone : Bool}
    {superiors found : List String} (all : ∀ superior ∈ superiors, Spelled superior)
    (also : ∀ superior ∈ found, Spelled superior)
    (same : describing description (behind obsolete superiors) = describing told (behind gone found)) :
    description = told ∧ behind obsolete superiors = behind gone found := by
  have apart : ∀ obsolete superiors text rest,
      behind obsolete superiors ≠ describing (some text) rest := by
    intro obsolete superiors text rest same
    obtain ⟨c, _, start, _, differ⟩ := behind_start obsolete superiors
    rw [start] at same
    simp only [describing, renderDescription, String.toList_append, List.append_assoc] at same
    exact differ (List.cons.inj (List.cons.inj same).2).1
  cases description with
  | none =>
    cases told with
    | none => exact ⟨rfl, same⟩
    | some other => exact absurd same (apart _ _ _ _)
  | some text =>
    cases told with
    | none => exact absurd same.symm (apart _ _ _ _)
    | some other =>
      simp only [describing, renderDescription, String.toList_append, List.append_assoc] at same
      obtain ⟨texts, rest⟩ := append_cons_inj_of_last (quote_not_mem_behind all) (quote_not_mem_behind also)
        (List.append_cancel_left same)
      exact ⟨congrArg some (String.toList_inj.1 texts), rest⟩

/-- Definitions with the same text differ in their kind at most. -/
theorem Definition.WellSpelt.render_inj {d e : Definition} (spelt : d.WellSpelt) (also : e.WellSpelt)
    (same : d.render = e.render) : d.oid = e.oid ∧ d.names = e.names ∧ d.superiors = e.superiors ∧
      d.description = e.description ∧ d.obsolete = e.obsolete := by
  have spelled : ∀ superior ∈ d.superiors, Spelled superior :=
    fun superior member => spelled_of_isNumericOid (spelt.numeric superior member)
  have spelled' : ∀ superior ∈ e.superiors, Spelled superior :=
    fun superior member => spelled_of_isNumericOid (also.numeric superior member)
  have texts := congrArg String.toList same
  rw [toList_render, toList_render] at texts
  obtain ⟨oid, texts⟩ := delimits_spelled _ _ _ _ d.oid.spelled e.oid.spelled
    (ends_renderNames _ (pastNames_describing _ _ _)) (ends_renderNames _ (pastNames_describing _ _ _))
    (List.append_cancel_left texts)
  obtain ⟨names, texts⟩ := delimits_renderNames _ _ _ _ spelt.spelled_of_name also.spelled_of_name
    (pastNames_describing _ _ _) (pastNames_describing _ _ _) texts
  obtain ⟨description, texts⟩ := describing_inj spelled spelled' texts
  obtain ⟨obsolete, superiors⟩ := behind_inj spelt.numeric also.numeric texts
  exact ⟨Oid.eq_of_text oid, names, superiors, description, obsolete⟩

/-- The text of a definition says its identifier, names, superiors and description, whether it has one, and
whether it is obsolete, whatever the description is. What registries keep has such a text. -/
theorem Definition.render_faithful :
    (∀ d e : Definition, d.WellSpelt → e.WellSpelt →
      (d.render = e.render ↔ d.oid = e.oid ∧ d.names = e.names ∧ d.superiors = e.superiors ∧
        d.description = e.description ∧ d.obsolete = e.obsolete)) ∧
    ∀ registry : Registry, registry.Reached → ∀ oid d, registry.store.get? oid = some d → d.WellSpelt := by
  refine ⟨fun d e spelt also => ⟨spelt.render_inj also, ?_⟩, fun _ reached _ _ => reached.wellSpelt⟩
  rintro ⟨oid, names, superiors, description, obsolete⟩
  rw [Definition.render, oid, names, superiors, description, obsolete, ← Definition.render]

namespace Sample

/-- The description of one definition looks like what follows that of the other. -/
def pretended : Definition :=
  { oid := ⟨"1.9", by decide⟩, kind := .objectClass, names := ["a", "b"], superiors := ["1.2", "1.3"],
    description := some "x' OBSOLETE SUP ( 1.2 $ 1.3 ) )" }

def intended : Definition := { pretended with description := some "x", obsolete := true }

end Sample

theorem Definition.render_faithful_pretended :
    Sample.pretended.render =
        "( 1.9 NAME ( 'a' 'b' ) DESC 'x' OBSOLETE SUP ( 1.2 $ 1.3 ) )' SUP ( 1.2 $ 1.3 ) )" ∧
      Sample.intended.render = "( 1.9 NAME ( 'a' 'b' ) DESC 'x' OBSOLETE SUP ( 1.2 $ 1.3 ) )" ∧
      Sample.pretended.render ≠ Sample.intended.render ∧ Sample.person.WellSpelt := by
  obtain ⟨faithful, kept⟩ := render_faithful
  have named : ∀ name ∈ ["a", "b"], checkName name = .ok () := by decide
  have numeric : ∀ superior ∈ ["1.2", "1.3"], isNumericOid superior.toList = true := by decide
  refine ⟨by decide +kernel, by decide +kernel, fun same => ?_, ?_⟩
  · have told :=
      ((faithful Sample.pretended Sample.intended ⟨named, numeric⟩ ⟨named, numeric⟩).1 same).2.2.2.2
    exact absurd told (by decide)
  · exact kept Sample.full Sample.full_reached "2.5.6.6" _ (by decide +kernel)

end Subschema
