import Mathlib.Data.List.Chain
import Mathlib.Data.List.Nodup
import Subschema.Proofs.Reach

namespace Subschema

variable {α : Type} {graph : Std.ExtTreeMap String α} {next : α → List String}

/-- A walk along edges from one of some places to a target. It comes to no place twice. -/
structure Walk (edge : String → String → Prop) (start : List String) (target : String)
    (path : List String) : Prop where
  starts : ∃ first ∈ start, path.head? = some first
  follows : path.IsChain edge
  ends : path.getLast? = some target
  once : path.Nodup

/-- A chain of edges may be followed by one more edge. -/
theorem isChain_concat {edge : String → String → Prop} {path : List String} {last place : String}
    (follows : path.IsChain edge) (ends : path.getLast? = some last) (leads : edge last place) :
    (path ++ [place]).IsChain edge := by
  refine follows.append (.singleton place) fun other final next heads => ?_
  rw [ends, Option.mem_def, Option.some_inj] at final
  rw [List.head?_cons, Option.mem_def, Option.some_inj] at heads
  rwa [← final, ← heads]

theorem Trail.toList_step (trail : Trail) (place : String) :
    (⟨place, trail.place :: trail.before⟩ : Trail).toList = trail.toList ++ [place] :=
  List.reverse_cons

theorem Trail.getLast?_toList (trail : Trail) : trail.toList.getLast? = some trail.place := by
  rw [toList, List.reverse_cons, List.getLast?_concat]

/-- A trail along edges from one of some places. All of it but its end has been seen. -/
structure Trodden (edge : String → String → Prop) (start : List String) (seen : TextSet)
    (trail : Trail) : Prop where
  starts : ∃ first ∈ start, trail.toList.head? = some first
  follows : trail.toList.IsChain edge
  once : trail.before.Nodup
  seen : ∀ place ∈ trail.before, place ∈ seen

namespace Trodden

variable {edge : String → String → Prop} {start : List String} {seen : TextSet} {trail : Trail}

theorem first {place : String} (member : place ∈ start) : Trodden edge start seen ⟨place, []⟩ :=
  ⟨⟨place, member, rfl⟩, .singleton place, .nil, by simp⟩

theorem insert (trodden : Trodden edge start seen trail) (place : String) :
    Trodden edge start (seen.insert place) trail :=
  ⟨trodden.starts, trodden.follows, trodden.once,
    fun other before => TextSet.mem_insert_iff.2 (Or.inr (trodden.seen other before))⟩

/-- An edge out of a place that is seen just now leads on. -/
theorem step (trodden : Trodden edge start seen trail) (fresh : trail.place ∉ seen) {place : String}
    (leads : edge trail.place place) :
    Trodden edge start (seen.insert trail.place) ⟨place, trail.place :: trail.before⟩ := by
  obtain ⟨first, member, heads⟩ := trodden.starts
  refine ⟨⟨first, member, ?_⟩, ?_, ?_, ?_⟩
  · rw [Trail.toList_step, List.head?_append, heads, Option.some_or]
  · rw [Trail.toList_step]
    exact isChain_concat trodden.follows trail.getLast?_toList leads
  · exact List.nodup_cons.2 ⟨fun before => fresh (trodden.seen _ before), trodden.once⟩
  · exact List.forall_mem_cons.2 ⟨Std.ExtTreeSet.mem_insert_self, (trodden.insert _).seen⟩

/-- A trail to a place that has not been seen comes to that place only at its end. -/
theorem walk (trodden : Trodden edge start seen trail) (fresh : trail.place ∉ seen) :
    Walk edge start trail.place trail.toList := by
  refine ⟨trodden.starts, trodden.follows, trail.getLast?_toList, ?_⟩
  rw [Trail.toList, List.nodup_reverse, List.nodup_cons]
  exact ⟨fun before => fresh (trodden.seen _ before), trodden.once⟩

end Trodden

/-- A chase keeps to trodden trails, and never sees its target. -/
theorem chase_walk {target : String} {start : List String} {seen : TextSet} {todo : List Trail}
    (trodden : ∀ trail ∈ todo, Trodden (Leads graph next) start seen trail) (missed : target ∉ seen)
    {found : Trail} (finds : chase graph next target seen todo = some found) :
    Walk (Leads graph next) start target found.toList := by
  fun_induction chase graph next target seen todo with
  | case1 => simp at finds
  | case2 seen trail rest here =>
    cases Option.some.inj finds
    rw [← here] at missed ⊢
    exact (trodden found List.mem_cons_self).walk missed
  | case3 seen trail rest other known ih =>
    exact ih (fun later member => trodden later (List.mem_cons_of_mem _ member)) missed finds
  | case4 seen trail rest other fresh absent ih =>
    have missed : target ∉ seen.insert trail.place := by simp [missed, other]
    refine ih (fun later member => ?_) missed finds
    exact (trodden later (List.mem_cons_of_mem _ member)).insert _
  | case5 seen trail rest other fresh a stored ih =>
    have fresh : trail.place ∉ seen := fun known => fresh (Std.ExtTreeSet.mem_iff_contains.1 known)
    have missed : target ∉ seen.insert trail.place := by simp [missed, other]
    refine ih (fun later member => ?_) missed finds
    rcases List.mem_append.1 member with onward | waiting
    · obtain ⟨place, listed, rfl⟩ := List.mem_map.1 onward
      have leads : Leads graph next trail.place place := ⟨a, stored, List.mem_reverse.1 listed⟩
      exact (trodden trail List.mem_cons_self).step fresh leads
    · exact (trodden later (List.mem_cons_of_mem _ waiting)).insert _

/-- A walk that is found is one. -/
theorem walkTo?_walk {target : String} {start path : List String}
    (finds : walkTo? graph next target start = some path) :
    Walk (Leads graph next) start target path := by
  obtain ⟨found, chased, rfl⟩ := Option.map_eq_some_iff.1 finds
  refine chase_walk (fun trail member => ?_) (by simp) chased
  obtain ⟨place, listed, rfl⟩ := List.mem_map.1 member
  exact .first (List.mem_reverse.1 listed)

end Subschema
