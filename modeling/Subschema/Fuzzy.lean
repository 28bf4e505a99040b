import Subschema.Text.Blank

namespace Subschema.Fuzzy

/-- What a character is, as far as word boundaries go. -/
inductive CharClass where
  /-- The place before the first character. -/
  | start
  | hardSeparator
  | softSeparator
  | digit
  | capital
  | other
  deriving DecidableEq

/-- The class of a character. Only ASCII characters are told apart. -/
def charClass (c : Char) : CharClass :=
  let n := c.toNat
  if [' ', '/', '|', '\\', '(', ')', '[', ']', '{', '}'].contains c then .hardSeparator
  else if c.isDigit then .digit
  else if 0x41 ≤ n ∧ n ≤ 0x5A then .capital
  else if (0x21 ≤ n ∧ n ≤ 0x2E) ∨ (0x3A ≤ n ∧ n ≤ 0x40) ∨ (0x5E ≤ n ∧ n ≤ 0x60) ∨ n = 0x7E then
    .softSeparator
  else .other

/-- What a character gains by the one before it. -/
def boundaryBonus : CharClass → CharClass → Int
  | .start, _ | .hardSeparator, _ => 8
  | .softSeparator, _ => 7
  | .digit, .capital | .other, .capital => 6
  | _, _ => 0

/-- The gain of each character, given the class of the one before the first. -/
def bonuses (before : CharClass) : List Char → List Int
  | [] => []
  | c :: cs => boundaryBonus before (charClass c) :: bonuses (charClass c) cs

/-- Whether a query asks for capitals to be told apart: it has one. -/
def isCaseSensitive (query : List Char) : Bool :=
  query.any fun c => 'A' ≤ c && c ≤ 'Z'

/-- Whether a character of the candidate can stand for one of the query. -/
def fits (exact : Bool) (queried found : Char) : Bool :=
  if exact then queried == found else Text.asciiLower queried == Text.asciiLower found

/-- The leftmost places of the query in the candidate, if it is a subsequence of it. -/
def leftmost? (exact : Bool) : Nat → List Char → List Char → Option (List Nat)
  | _, [], _ => some []
  | _, _ :: _, [] => none
  | place, q :: query, c :: candidate =>
    if fits exact q c then (leftmost? exact (place + 1) query candidate).map (place :: ·)
    else leftmost? exact (place + 1) (q :: query) candidate

/-- One row, with a column before each character of the candidate and one after the last: the best
score if the last character taken stands before the column, the best score if it stands further
left, and what a run of neighbours carries on. -/
structure Row where
  taken : Array Int
  passed : Array Int
  carried : Array Int

/-- The entry where nothing has been taken. -/
def floor : Int := -32768

/-- The entry of a column. -/
def at? (entries : Array Int) (column : Nat) : Int := entries.getD column floor

/-- A candidate with the gains of its characters. -/
structure Candidate where
  chars : Array Char
  gains : Array Int

/-- The candidate for a text. The gain of the first character counts twice. -/
def Candidate.of (cs : List Char) : Candidate :=
  { chars := cs.toArray
    gains :=
      match bonuses .start cs with
      | [] => #[]
      | gain :: gains => (2 * gain :: gains).toArray }

/-- The row after one more character of the candidate, given the row of the query character
before. -/
def advance (exact : Bool) (candidate : Candidate) (queried : Char) (previous row : Row)
    (place : Nat) : Row :=
  let found := candidate.chars.getD place ' '
  let gain := candidate.gains.getD place 0
  let row :=
    if fits exact queried found then
      let carried := max (max (row.carried.getD place 0) gain) 4
      let score := max (at? previous.taken place + carried) (at? previous.passed place + gain) +
        (if !exact && found != queried then 14 else 16)
      { row with
        carried := row.carried.setIfInBounds place carried
        taken := row.taken.setIfInBounds (place + 1) score }
    else
      { row with
        taken := row.taken.setIfInBounds (place + 1) floor
        carried := row.carried.setIfInBounds (place + 1) 0 }
  { row with
    passed := row.passed.setIfInBounds (place + 1)
      (max (at? row.taken place - 4) (at? row.passed place - 1)) }

/-- The rows after the whole query: the row of its last character first. Two rows take turns, and a
row keeps its old entries in the columns that its turn does not write. -/
def rows (exact : Bool) (candidate : Candidate) : List (Char × Nat) → Row → Row → Row
  | [], last, _ => last
  | (queried, first) :: query, last, spare =>
    let row := (List.range' first (candidate.chars.size - first)).foldl
      (advance exact candidate queried last) spare
    rows exact candidate query row last

/-- How well a query fits a candidate, or `none` if it is no subsequence of it. Characters at the
start of words and characters next to each other count more. -/
def score (candidate query : String) : Option Int :=
  let query := query.toList
  let exact := isCaseSensitive query
  match leftmost? exact 0 query candidate.toList with
  | none => none
  | some [] => some 0
  | some places =>
    let columns := candidate.toList.length + 1
    let empty : Row := ⟨.replicate columns floor, .replicate columns floor, .replicate columns 0⟩
    let start : Row := { empty with passed := .replicate columns (-1) }
    let last := rows exact (.of candidate.toList) (query.zip places) start empty
    (last.taken.toList.drop (places.getLastD 0)).max?

end Subschema.Fuzzy
