import Mathlib.Data.List.TakeWhile
import Subschema.Loop
import Subschema.Proofs.Links
import Subschema.Proofs.Walks

namespace Subschema

open Relation

/-- A walk along edges from an origin back to it. The origin is listed at the end only. -/
structure Loop (edge : String → String → Prop) (origin : String) (path : List String) : Prop where
  follows : (origin :: path).IsChain edge
  returns : path.getLast? = some origin

/-- A loop that comes to no place twice, and than which none from the same origin is shorter. -/
structure ShortestLoop (edge : String → String → Prop) (origin : String) (path : List String) : Prop
    extends Loop edge origin path where
  once : path.Nodup
  least : ∀ other, Loop edge origin other → path.length ≤ other.length

section Loops

variable {edge : String → String → Prop} {origin : String}

/-- A loop leads somewhere, and from there back by an edge. -/
theorem Loop.split {path : List String} (loop : Loop edge origin path) :
    ∃ way last, path = way ++ [origin] ∧ (origin :: way).IsChain edge ∧
      (origin :: way).getLast? = some last ∧ edge last origin := by
  obtain ⟨way, rfl⟩ := List.getLast?_eq_some_iff.1 loop.returns
  obtain ⟨follows, _, closes⟩ := List.isChain_append.1 (List.cons_append ▸ loop.follows)
  have ends : (origin :: way).getLast? = some ((origin :: way).getLast (List.cons_ne_nil _ _)) :=
    List.getLast?_eq_some_getLast _
  exact ⟨way, _, rfl, follows, ends, closes _ ends origin rfl⟩

/-- A chain back to its start has a loop in it. -/
theorem exists_loop (chain : TransGen edge origin origin) : ∃ path, Loop edge origin path := by
  obtain ⟨last, there, back⟩ := TransGen.tail'_iff.1 chain
  obtain ⟨way, follows, rfl⟩ := List.exists_isChain_cons_of_relationReflTransGen there
  have ends := List.getLast?_eq_some_getLast (List.cons_ne_nil origin way)
  exact ⟨way ++ [origin], isChain_concat follows ends back, List.getLast?_concat⟩

/-- Each place of a loop lies on a chain from the origin and back to it. -/
theorem Loop.chains {path : List String} (loop : Loop edge origin path) {place : String}
    (member : place ∈ path) : ReflTransGen edge origin place ∧ ReflTransGen edge place origin := by
  have ends : (origin :: path).getLast (List.cons_ne_nil _ _) = origin := by
    have last := List.getLast?_eq_some_getLast (List.cons_ne_nil origin path)
    rw [List.getLast?_cons, loop.returns] at last
    exact (Option.some.inj last).symm
  constructor
  · exact loop.follows.cons_induction (ReflTransGen edge origin) path
      (fun _ _ step chain => chain.tail step) .refl place member
  · exact loop.follows.backwards_cons_induction (ReflTransGen edge · origin) path ends
      (fun _ _ step chain => chain.head step) .refl place (List.mem_cons_of_mem _ member)

end Loops

namespace Frontier

/-- What a search has come to: its origin, and what it has noted. -/
def Known (frontier : Frontier) (origin place : String) : Prop :=
  place = origin ∨ place ∈ frontier.parents

theorem known_insert {frontier : Frontier} {origin place current other : String} {queue : List String} :
    Known ⟨frontier.parents.insert place current, queue⟩ origin other ↔
      frontier.Known origin other ∨ other = place := by
  simp only [Known, Std.ExtTreeMap.mem_insert, Std.LawfulEqCmp.compare_eq_iff_eq]
  rw [or_comm (a := place = other), or_assoc, eq_comm (a := place)]

theorem mem_notice {members : TextSet} {current place other : String} {frontier : Frontier} :
    other ∈ (frontier.notice members current place).parents ↔
      other ∈ frontier.parents ∨ place = other ∧ other ∈ members := by
  unfold notice
  split
  · rename_i fresh
    rw [Bool.and_eq_true] at fresh
    rw [Std.ExtTreeMap.mem_insert, Std.LawfulEqCmp.compare_eq_iff_eq, or_comm]
    refine or_congr_right ⟨fun same => ⟨same, ?_⟩, And.left⟩
    exact same ▸ Std.ExtTreeSet.mem_iff_contains.2 fresh.1
  · rename_i old
    refine (or_iff_left_of_imp ?_).symm
    rintro ⟨rfl, inside⟩
    simpa [inside] using old

/-- A place that the search is done with: it does not lead to the origin, and the members that it leads
to have been noted, none of them deeper than in the next layer. -/
structure Done (edge : String → String → Prop) (members : TextSet) (origin : String)
    (depth : String → Nat) (frontier : Frontier) (place : String) : Prop where
  away : ¬ edge place origin
  known : ∀ other ∈ members, edge place other →
    frontier.Known origin other ∧ depth other ≤ depth place + 1

/-- A search that notes places layer by layer. The depth of a place is the number of notes that lead back
from it to the origin. -/
structure Layered (edge : String → String → Prop) (members : TextSet) (origin : String)
    (depth : String → Nat) (frontier : Frontier) : Prop where
  start : depth origin = 0
  home : origin ∉ frontier.parents
  noted : ∀ place parent, frontier.parents[place]? = some parent →
    edge parent place ∧ frontier.Known origin parent ∧ depth place = depth parent + 1
  queued : ∀ place ∈ frontier.queue, frontier.Known origin place
  ordered : frontier.queue.Pairwise fun one two => depth one ≤ depth two
  /-- What has been noted is at most one layer ahead of what waits. -/
  narrow : ∀ place, frontier.Known origin place → ∀ waiting ∈ frontier.queue,
    depth place ≤ depth waiting + 1
  done : ∀ place, frontier.Known origin place → place ∉ frontier.queue →
    Done edge members origin depth frontier place

namespace Layered

variable {edge : String → String → Prop} {members : TextSet} {origin current : String}
  {depth : String → Nat} {frontier : Frontier}

theorem first : Layered edge members origin (fun _ => 0) ⟨∅, [origin]⟩ := by
  have only : ∀ place, Known ⟨∅, [origin]⟩ origin place → place = origin := by
    intro place known
    simpa [Known] using known
  refine ⟨rfl, by simp, by simp, by simp [Known], List.pairwise_singleton _ _, by simp, ?_⟩
  intro place known waits
  exact absurd (only place known) (by simpa using waits)

/-- Noting one more place while the search stands at the one before the queue. -/
theorem insert (layered : Layered edge members origin depth ⟨frontier.parents, current :: frontier.queue⟩)
    {place : String} (leads : edge current place) (away : place ≠ origin)
    (unnoted : place ∉ frontier.parents) :
    Layered edge members origin (Function.update depth place (depth current + 1))
      ⟨frontier.parents.insert place current, current :: (frontier.queue ++ [place])⟩ := by
  have current_known : frontier.Known origin current := layered.queued current List.mem_cons_self
  have keeps : ∀ other, frontier.Known origin other →
      Function.update depth place (depth current + 1) other = depth other := by
    intro other known
    refine Function.update_of_ne ?_ _ _
    rintro rfl
    exact known.elim away unnoted
  have placed : Function.update depth place (depth current + 1) place = depth current + 1 :=
    Function.update_self _ _ _
  have waits : ∀ waiting ∈ current :: frontier.queue, frontier.Known origin waiting ∧
      depth current ≤ depth waiting := by
    intro waiting member
    refine ⟨layered.queued waiting member, ?_⟩
    rcases List.mem_cons.1 member with rfl | later
    · exact Nat.le_refl _
    · exact (List.pairwise_cons.1 layered.ordered).1 waiting later
  constructor
  case start =>
    rw [keeps origin (Or.inl rfl), layered.start]
  case home =>
    rw [Std.ExtTreeMap.mem_insert, Std.LawfulEqCmp.compare_eq_iff_eq]
    exact not_or_intro away layered.home
  case noted =>
    intro other parent stored
    rw [Std.ExtTreeMap.getElem?_insert] at stored
    split at stored
    · rename_i same
      rw [Std.LawfulEqCmp.compare_eq_iff_eq] at same
      cases Option.some.inj stored
      rw [← same, placed, keeps current current_known]
      exact ⟨leads, known_insert.2 (Or.inl current_known), rfl⟩
    · obtain ⟨step, known, deeper⟩ := layered.noted other parent stored
      rw [keeps other (Or.inr (mem_of_getElem? stored)), keeps parent known]
      exact ⟨step, known_insert.2 (Or.inl known), deeper⟩
  case queued =>
    intro other member
    rw [← List.cons_append, List.mem_append, List.mem_singleton] at member
    exact known_insert.2 (member.imp_left fun old => (waits other old).1)
  case ordered =>
    rw [← List.cons_append, List.pairwise_append]
    refine ⟨layered.ordered.imp_of_mem fun {one two} first second le => ?_, List.pairwise_singleton _ _,
      fun one old two last => ?_⟩
    · rwa [keeps one (waits one first).1, keeps two (waits two second).1]
    · rw [List.mem_singleton.1 last, placed, keeps one (waits one old).1]
      exact layered.narrow one (waits one old).1 current List.mem_cons_self
  case narrow =>
    intro other known waiting member
    rw [← List.cons_append, List.mem_append, List.mem_singleton] at member
    rcases known_insert.1 known with old | rfl
    · rw [keeps other old]
      rcases member with member | rfl
      · rw [keeps waiting (waits waiting member).1]
        exact layered.narrow other old waiting member
      · rw [placed]
        exact (layered.narrow other old current List.mem_cons_self).trans (Nat.le_succ _)
    · rw [placed]
      rcases member with member | rfl
      · rw [keeps waiting (waits waiting member).1]
        exact Nat.succ_le_succ (waits waiting member).2
      · rw [placed]
        exact Nat.le_succ _
  case done =>
    intro other known idle
    rw [← List.cons_append, List.mem_append, List.mem_singleton, not_or] at idle
    have known := (known_insert.1 known).resolve_right idle.2
    have finished := layered.done other known idle.1
    refine ⟨finished.away, fun further inside step => ?_⟩
    obtain ⟨noted, near⟩ := finished.known further inside step
    rw [keeps further noted, keeps other known]
    exact ⟨known_insert.2 (Or.inl noted), near⟩

theorem notice (layered : Layered edge members origin depth ⟨frontier.parents, current :: frontier.queue⟩)
    {place : String} (leads : edge current place) (away : place ≠ origin) :
    ∃ depth, Layered edge members origin depth ⟨(frontier.notice members current place).parents,
      current :: (frontier.notice members current place).queue⟩ := by
  unfold Frontier.notice
  split
  · rename_i fresh
    rw [Bool.and_eq_true, Bool.not_eq_true'] at fresh
    have unnoted : place ∉ frontier.parents := by
      rw [← Std.ExtTreeMap.contains_iff_mem, fresh.2]
      exact Bool.false_ne_true
    exact ⟨_, layered.insert leads away unnoted⟩
  · exact ⟨depth, layered⟩

/-- The search may leave a place that does not lead to the origin once the members that it leads to are
noted. -/
theorem leave (layered : Layered edge members origin depth ⟨frontier.parents, current :: frontier.queue⟩)
    (away : ¬ edge current origin)
    (noted : ∀ other ∈ members, edge current other → frontier.Known origin other) :
    Layered edge members origin depth frontier where
  start := layered.start
  home := layered.home
  noted := layered.noted
  queued := fun place member => layered.queued place (List.mem_cons_of_mem _ member)
  ordered := layered.ordered.of_cons
  narrow := fun place known waiting member =>
    layered.narrow place known waiting (List.mem_cons_of_mem _ member)
  done := by
    intro place known idle
    by_cases here : place = current
    · subst here
      refine ⟨away, fun other inside step => ⟨noted other inside step, ?_⟩⟩
      exact layered.narrow other (noted other inside step) place List.mem_cons_self
    · have finished := layered.done place known (List.not_mem_cons_of_ne_of_not_mem here idle)
      exact ⟨finished.away, finished.known⟩

/-- What can be reached within members in no more steps than lead to the layer of the queue has been noted,
at no greater depth. -/
theorem known_of_chain (layered : Layered edge members origin depth frontier) {n : Nat}
    (far : ∀ waiting ∈ frontier.queue, n ≤ depth waiting) {way : List String}
    (follows : (origin :: way).IsChain edge) (within : ∀ place ∈ way, place ∈ members)
    (short : way.length ≤ n) {last : String} (ends : (origin :: way).getLast? = some last) :
    frontier.Known origin last ∧ depth last ≤ way.length := by
  induction way using List.reverseRecOn generalizing last with
  | nil =>
    obtain rfl := Option.some.inj ends
    exact ⟨Or.inl rfl, Nat.le_of_eq layered.start⟩
  | append_singleton way place ih =>
    rw [← List.cons_append] at follows ends
    rw [List.getLast?_concat, Option.some_inj] at ends
    subst ends
    rw [List.length_append, List.length_singleton] at short ⊢
    obtain ⟨follows, _, step⟩ := List.isChain_append.1 follows
    have before := List.getLast?_eq_some_getLast (List.cons_ne_nil origin way)
    have earlier := fun other member => within other (List.mem_append_left _ member)
    obtain ⟨known, near⟩ := ih follows earlier (by omega) before
    -- The place before is nearer than anything in the queue, so it is done with.
    have idle : (origin :: way).getLast (List.cons_ne_nil _ _) ∉ frontier.queue := by
      intro waits
      have := far _ waits
      omega
    obtain ⟨noted, next⟩ := (layered.done _ known idle).known place (within place (by simp))
      (step _ before place rfl)
    exact ⟨noted, by omega⟩

/-- A loop within members goes farther than to the layer before the queue. -/
theorem lt_length_of_loop (layered : Layered edge members origin depth frontier) {n : Nat}
    (far : ∀ waiting ∈ frontier.queue, n ≤ depth waiting) {path : List String}
    (loop : Loop edge origin path) (within : ∀ place ∈ path, place ∈ members) : n < path.length := by
  obtain ⟨way, last, rfl, follows, ends, back⟩ := loop.split
  rw [List.length_append, List.length_singleton]
  by_contra short
  have earlier := fun place member => within place (List.mem_append_left _ member)
  obtain ⟨known, near⟩ := layered.known_of_chain far follows earlier (by omega) ends
  have idle : last ∉ frontier.queue := by
    intro waits
    have := far last waits
    omega
  exact (layered.done last known idle).away back

end Layered

end Frontier

/-- The places on the way back from one to the origin, each one deeper than the next. -/
inductive Retraced (edge : String → String → Prop) (depth : String → Nat) (origin : String) :
    String → List String → Prop
  | home : Retraced edge depth origin origin []
  | step {current parent : String} {back : List String} (leads : edge parent current)
      (deeper : depth current = depth parent + 1) (rest : Retraced edge depth origin parent back) :
      Retraced edge depth origin current (current :: back)

namespace Retraced

variable {edge : String → String → Prop} {depth : String → Nat} {origin current : String}
  {back : List String}

theorem length (retraced : Retraced edge depth origin current back) (start : depth origin = 0) :
    back.length = depth current := by
  induction retraced with
  | home => exact start.symm
  | step _ deeper _ ih => rw [List.length_cons, ih, deeper]

theorem shallow (retraced : Retraced edge depth origin current back) :
    ∀ place ∈ back, 0 < depth place ∧ depth place ≤ depth current := by
  induction retraced with
  | home => simp
  | @step current parent back _ deeper _ ih =>
    refine List.forall_mem_cons.2 ⟨⟨by omega, Nat.le_refl _⟩, fun place member => ?_⟩
    have := ih place member
    omega

/-- The way back goes up layer by layer, so it comes to no place twice. -/
theorem nodup (retraced : Retraced edge depth origin current back) : back.Nodup := by
  induction retraced with
  | home => exact .nil
  | @step current parent back _ deeper rest ih =>
    refine List.nodup_cons.2 ⟨fun again => ?_, ih⟩
    have := rest.shallow current again
    omega

/-- Turned around, the way leads from the origin to where it was followed from. -/
theorem reverse (retraced : Retraced edge depth origin current back) :
    (origin :: back.reverse).IsChain edge ∧ (origin :: back.reverse).getLast? = some current := by
  induction retraced with
  | home => exact ⟨.singleton origin, rfl⟩
  | @step current parent back leads _ _ ih =>
    rw [List.reverse_cons, ← List.cons_append, List.getLast?_concat]
    exact ⟨isChain_concat ih.1 ih.2 leads, rfl⟩

/-- With an edge to the origin at its end it is a loop, and a shortest one if all loops go farther. -/
theorem shortestLoop (retraced : Retraced edge depth origin current back) (start : depth origin = 0)
    (closes : edge current origin)
    (least : ∀ other, Loop edge origin other → depth current < other.length) :
    ShortestLoop edge origin (back.reverse ++ [origin]) := by
  obtain ⟨follows, ends⟩ := retraced.reverse
  refine ⟨⟨isChain_concat follows ends closes, List.getLast?_concat⟩, ?_, fun other loop => ?_⟩
  · have elsewhere : origin ∉ back := by
      intro member
      have := retraced.shallow origin member
      omega
    rw [← List.reverse_cons, List.nodup_reverse]
    exact List.nodup_cons.2 ⟨elsewhere, retraced.nodup⟩
  · rw [List.length_append, List.length_reverse, List.length_singleton, retraced.length start]
    exact least other loop

end Retraced

/-- By induction on the depth. What has been followed is erased, but that is deeper than what is left. -/
theorem Frontier.Layered.retraced {edge : String → String → Prop} {members : TextSet} {origin : String}
    {depth : String → Nat} {frontier : Frontier} (layered : frontier.Layered edge members origin depth)
    {notes : Std.ExtTreeMap String String} {current : String} (known : frontier.Known origin current)
    (kept : ∀ place, depth place ≤ depth current → notes[place]? = frontier.parents[place]?) :
    Retraced edge depth origin current (wayBack notes origin current) := by
  fun_induction wayBack notes origin current with
  | case1 notes => exact .home
  | case2 notes current away unnoted =>
    have stored : current ∈ frontier.parents := known.resolve_left away
    rw [kept current (Nat.le_refl _)] at unnoted
    exact absurd stored (not_mem_of_getElem? unnoted)
  | case3 notes current away parent noted ih =>
    rw [kept current (Nat.le_refl _)] at noted
    obtain ⟨leads, known, deeper⟩ := layered.noted current parent noted
    refine .step leads deeper (ih known fun place shallow => ?_)
    rw [Std.ExtTreeMap.getElem?_erase, if_neg, kept place (by omega)]
    rw [Std.LawfulEqCmp.compare_eq_iff_eq]
    rintro rfl
    omega

section Search

variable {α : Type} {graph : Std.ExtTreeMap String α} {next : α → List String} {members : TextSet}
  {origin : String} {depth : String → Nat} {frontier : Frontier}

theorem mem_elim_iff {node place : String} :
    place ∈ graph[node]?.elim [] next ↔ Leads graph next node place := by
  unfold Leads
  cases graph[node]? with
  | none => simp
  | some a => simp

/-- All members that a place leads to are noted if it does not lead to the origin. -/
theorem Frontier.mem_look {current other : String} (away : ¬ Leads graph next current origin) :
    other ∈ (frontier.look graph next members origin current).parents ↔
      other ∈ frontier.parents ∨ Leads graph next current other ∧ other ∈ members := by
  have all : (graph[current]?.elim [] next).reverse.takeWhile (· != origin) =
      (graph[current]?.elim [] next).reverse := by
    refine List.takeWhile_eq_self_iff.2 fun place member => bne_iff_ne.2 ?_
    rintro rfl
    exact away (mem_elim_iff.1 (List.mem_reverse.1 member))
  rw [look, all, foldl_gains (fun frontier : Frontier => other ∈ frontier.parents)
    (fun place => place = other ∧ other ∈ members) fun _ _ => mem_notice]
  simp [mem_elim_iff]

/-- Looking at what the place before the queue leads to. -/
theorem Frontier.Layered.look (frontier : Frontier) {current : String}
    (layered : Layered (Leads graph next) members origin depth
      ⟨frontier.parents, current :: frontier.queue⟩) :
    ∃ depth, Layered (Leads graph next) members origin depth
      ⟨(frontier.look graph next members origin current).parents,
        current :: (frontier.look graph next members origin current).queue⟩ := by
  have steps : ∀ place ∈ (graph[current]?.elim [] next).reverse.takeWhile (· != origin),
      Leads graph next current place ∧ place ≠ origin := by
    intro place member
    have listed := (List.takeWhile_sublist _).subset member
    have away := List.mem_takeWhile_imp member
    exact ⟨mem_elim_iff.1 (List.mem_reverse.1 listed), bne_iff_ne.1 away⟩
  unfold Frontier.look
  generalize (graph[current]?.elim [] next).reverse.takeWhile (· != origin) = places at steps
  induction places generalizing depth frontier with
  | nil => exact ⟨depth, layered⟩
  | cons place places ih =>
    obtain ⟨⟨leads, away⟩, rest⟩ := List.forall_mem_cons.1 steps
    obtain ⟨deeper, noticed⟩ := layered.notice leads away
    exact ih _ noticed rest

/-- What a search ends with: a place that leads to the origin and that nothing which waits is nearer than,
or no place to go on from. -/
def Turned (edge : String → String → Prop) (members : TextSet) (origin : String) :
    Option String × Frontier → Prop
  | (some closing, last) => edge closing origin ∧
    ∃ depth, Frontier.Layered edge members origin depth ⟨last.parents, closing :: last.queue⟩
  | (none, last) => last.queue = [] ∧ ∃ depth, last.Layered edge members origin depth

/-- The search ends where it turns back to the origin, or with an empty queue. -/
theorem turnBack_turned (layered : frontier.Layered (Leads graph next) members origin depth) :
    Turned (Leads graph next) members origin (turnBack graph next members origin frontier) := by
  fun_induction turnBack graph next members origin frontier generalizing depth with
  | case1 frontier empty => exact ⟨empty, depth, layered⟩
  | case2 frontier current queue queued back =>
    obtain ⟨parents, _⟩ := frontier
    cases queued
    have closes := mem_elim_iff.1 (List.contains_iff_mem.1 back)
    exact ⟨closes, Frontier.Layered.look ⟨parents, queue⟩ layered⟩
  | case3 frontier current queue queued away ih =>
    obtain ⟨parents, _⟩ := frontier
    cases queued
    have away : ¬ Leads graph next current origin :=
      fun step => away (List.contains_iff_mem.2 (mem_elim_iff.2 step))
    obtain ⟨deeper, looked⟩ := Frontier.Layered.look ⟨parents, queue⟩ layered
    refine ih (looked.leave away fun other inside step => ?_)
    exact Or.inr ((Frontier.mem_look away).2 (Or.inr ⟨step, inside⟩))

/-- If the members hold all loops from the origin, and there is one, then a shortest one is found. -/
theorem loopWithin_shortest
    (within : ∀ path, Loop (Leads graph next) origin path → ∀ place ∈ path, place ∈ members)
    (chain : TransGen (Leads graph next) origin origin) :
    ShortestLoop (Leads graph next) origin (loopWithin graph next members origin) := by
  have turned : Turned _ members origin (turnBack graph next members origin ⟨∅, [origin]⟩) :=
    turnBack_turned .first
  rw [loopWithin]
  generalize turnBack graph next members origin ⟨∅, [origin]⟩ = found at turned
  obtain ⟨_ | closing, last⟩ := found
  · obtain ⟨empty, depth, layered⟩ := turned
    obtain ⟨path, loop⟩ := exists_loop chain
    have far : ∀ waiting ∈ last.queue, path.length ≤ depth waiting := by simp [empty]
    exact absurd (layered.lt_length_of_loop far loop (within path loop)) (Nat.lt_irrefl _)
  · obtain ⟨closes, depth, layered⟩ := turned
    have known := layered.queued closing List.mem_cons_self
    have retraced : Retraced _ depth origin closing (wayBack last.parents origin closing) :=
      layered.retraced known fun _ _ => rfl
    have far : ∀ waiting ∈ closing :: last.queue, depth closing ≤ depth waiting :=
      List.forall_mem_cons.2 ⟨Nat.le_refl _, (List.pairwise_cons.1 layered.ordered).1⟩
    refine retraced.shortestLoop layered.start closes fun other loop => ?_
    exact layered.lt_length_of_loop far loop (within other loop)

end Search

end Subschema
