import Subschema.Reach

namespace Subschema

variable {α : Type}

/-- A breadth-first search under way: where each place was first come to from, and the places to go on
from. -/
structure Frontier where
  parents : Std.ExtTreeMap String String
  queue : List String

namespace Frontier

/-- The number of members that are yet to be noted, and of the places to go on from. -/
def remaining (members : TextSet) (frontier : Frontier) : Nat :=
  (members.toList.countP fun place => !frontier.parents.contains place) + frontier.queue.length

/-- Notes a member that is come to for the first time, and queues it. -/
def notice (members : TextSet) (current : String) (frontier : Frontier) (place : String) : Frontier :=
  if members.contains place && !frontier.parents.contains place then
    { parents := frontier.parents.insert place current, queue := frontier.queue ++ [place] }
  else frontier

/-- Looks at the places that one leads to, the last one first, and at none after the origin. -/
def look (graph : Std.ExtTreeMap String α) (next : α → List String) (members : TextSet)
    (origin current : String) (frontier : Frontier) : Frontier :=
  ((graph[current]?.elim [] next).reverse.takeWhile (· != origin)).foldl (notice members current)
    frontier

theorem remaining_notice_le (members : TextSet) (current : String) (frontier : Frontier)
    (place : String) :
    (frontier.notice members current place).remaining members ≤ frontier.remaining members := by
  unfold notice
  split
  · rename_i fresh
    rw [Bool.and_eq_true, Bool.not_eq_true'] at fresh
    have fewer :
        (members.toList.countP fun other => !(frontier.parents.insert place current).contains other) <
          members.toList.countP fun other => !frontier.parents.contains other := by
      refine countP_lt_countP (x := place) ?_ (fun other => ?_) ?_ ?_
      · exact Std.ExtTreeSet.mem_toList.2 (Std.ExtTreeSet.mem_iff_contains.2 fresh.1)
      · rw [Std.ExtTreeMap.contains_insert]
        simp_all
      · simp only [fresh.2, Bool.not_false]
      · simp
    simp only [remaining, List.length_append, List.length_singleton]
    omega
  · exact Nat.le_refl _

theorem remaining_look_le (graph : Std.ExtTreeMap String α) (next : α → List String)
    (members : TextSet) (origin current : String) (frontier : Frontier) :
    (frontier.look graph next members origin current).remaining members ≤
      frontier.remaining members := by
  unfold look
  induction (graph[current]?.elim [] next).reverse.takeWhile (· != origin) generalizing frontier with
  | nil => exact Nat.le_refl _
  | cons place places ih =>
    exact Nat.le_trans (ih _) (remaining_notice_le members current frontier place)

end Frontier

/-- Goes on from place to place until one leads to the origin, and says which, if any does. -/
def turnBack (graph : Std.ExtTreeMap String α) (next : α → List String) (members : TextSet)
    (origin : String) (frontier : Frontier) : Option String × Frontier :=
  match _queued : frontier.queue with
  | [] => (none, frontier)
  | current :: queue =>
    if (graph[current]?.elim [] next).contains origin then
      (some current, Frontier.look graph next members origin current ⟨frontier.parents, queue⟩)
    else
      turnBack graph next members origin
        (Frontier.look graph next members origin current ⟨frontier.parents, queue⟩)
termination_by frontier.remaining members
decreasing_by
  refine Nat.lt_of_le_of_lt (Frontier.remaining_look_le _ _ _ _ _ _) ?_
  simp [Frontier.remaining, _queued]

theorem size_erase_lt {notes : Std.ExtTreeMap String String} {place other : String}
    (noted : notes[place]? = some other) : (notes.erase place).size < notes.size := by
  have stored : place ∈ notes := by
    rw [Std.ExtTreeMap.mem_iff_isSome_getElem?, noted]
    rfl
  have filled := List.length_pos_of_mem (Std.ExtTreeMap.mem_keys.2 stored)
  rw [Std.ExtTreeMap.length_keys] at filled
  rw [Std.ExtTreeMap.size_erase, if_pos (Std.ExtTreeMap.contains_iff_mem.2 stored)]
  omega

/-- The places on the way back to the origin, each after the one it led to. A place of which nothing is
noted counts as next to the origin. Each note is followed once, so the way has an end. -/
def wayBack (parents : Std.ExtTreeMap String String) (origin current : String) : List String :=
  if current = origin then []
  else
    match _noted : parents[current]? with
    | none => [current]
    | some parent => current :: wayBack (parents.erase current) origin parent
termination_by parents.size
decreasing_by exact size_erase_lt _noted

/-- A shortest walk from the origin along members back to it, without its start. Where there is
none, it is the origin alone. The search notes of each place where it was first come to from, and
the walk is read off these notes backwards. -/
def loopWithin (graph : Std.ExtTreeMap String α) (next : α → List String) (members : TextSet)
    (origin : String) : List String :=
  let (closing, frontier) := turnBack graph next members origin ⟨∅, [origin]⟩
  (wayBack frontier.parents origin (closing.getD origin)).reverse ++ [origin]

end Subschema
