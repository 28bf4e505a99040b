import Subschema.Proofs.Policies
import Subschema.Publication

namespace Subschema

open InPlace

namespace Schema

/-- Steps that are the same but for the order in which a load goes through what is registered. -/
inductive Step.Alike : Step → Step → Prop
  | same (step : Step) : Alike step step
  | relisted (bundle : Bundle) (listing relisting : Listing) :
      Alike (.load bundle listing) (.load bundle relisting)

/-- Carries out steps in place, one after the other, up to the first that fails. With its error comes
what had been answered until then. -/
def carryOut : List Step → EStateM (List Answer × Error) Schema (List Answer)
  | [] => return []
  | step :: rest => do
    let answer ← step.inPlace.adaptExcept fun e => ([], e)
    let answers ← (carryOut rest).adaptExcept fun (answers, e) => (answer :: answers, e)
    return answer :: answers

/-- How some steps have gone in place. -/
abbrev Run := EStateM.Result (List Answer × Error) Schema (List Answer)

/-- A run with answers that were given before it. -/
def Run.following (before : List Answer) : Run → Run
  | .ok answers after => .ok (before ++ answers) after
  | .error (answers, e) last => .error (before ++ answers, e) last

/-- Runs that differ in the error that they stop at, if they stop at all. -/
inductive Run.Alike : Run → Run → Prop
  | ok (answers : List Answer) (after : Schema) : Alike (.ok answers after) (.ok answers after)
  | error (answers : List Answer) (e other : Error) (last : Schema) :
      Alike (.error (answers, e) last) (.error (answers, other) last)

theorem Run.following_nil (run : Run) : run.following [] = run := by
  cases run <;> rfl

theorem Run.following_following (run : Run) (first second : List Answer) :
    (run.following second).following first = run.following (first ++ second) := by
  cases run <;> simp [following]

/-- Answers given before do not change what a run does. -/
theorem Run.following_eq_ok_iff {run : Run} {before answers : List Answer} {after : Schema} :
    run.following before = .ok (before ++ answers) after ↔ run = .ok answers after := by
  cases run <;> simp [following]

theorem Run.Alike.following {run other : Run} (alike : run.Alike other) (before : List Answer) :
    (run.following before).Alike (other.following before) := by
  cases alike with
  | ok answers after => exact .ok _ _
  | error answers e other last => exact .error _ _ _ _

theorem run_carryOut_cons (schema : Schema) (step : Step) (rest : List Step) :
    (carryOut (step :: rest)).run schema =
      match schema.perform step with
      | .ok (answer, after) => Run.following [answer] ((carryOut rest).run after)
      | .error e => .error ([], e) schema := by
  rw [carryOut, EStateM.run_bind, EStateM.run_adaptExcept, step.run_inPlace]
  cases schema.perform step with
  | error e => rfl
  | ok done =>
    dsimp only
    rw [EStateM.run_bind, EStateM.run_adaptExcept]
    cases (carryOut rest).run done.2 <;> rfl

theorem run_carryOut_cons_eq_ok_iff {schema last : Schema} {step : Step} {rest : List Step}
    {answers : List Answer} :
    (carryOut (step :: rest)).run schema = .ok answers last ↔
      ∃ answer after more, schema.perform step = .ok (answer, after) ∧
        (carryOut rest).run after = .ok more last ∧ answers = answer :: more := by
  rw [run_carryOut_cons]
  cases schema.perform step with
  | error e => simp
  | ok done =>
    obtain ⟨answer, after⟩ := done
    cases onward : (carryOut rest).run after <;> simp [onward, Run.following, eq_comm, and_comm]

/-- Steps that follow others, all of which have succeeded, go on where these ended. -/
theorem run_carryOut_append {schema after : Schema} {first second : List Step} {answers : List Answer}
    (runs : (carryOut first).run schema = .ok answers after) :
    (carryOut (first ++ second)).run schema = Run.following answers ((carryOut second).run after) := by
  induction first generalizing schema answers with
  | nil =>
    cases runs
    exact (Run.following_nil _).symm
  | cons step first ih =>
    obtain ⟨answer, next, more, performed, rest, rfl⟩ := run_carryOut_cons_eq_ok_iff.1 runs
    rw [List.cons_append, run_carryOut_cons, performed]
    dsimp only
    rw [ih rest, Run.following_following]
    rfl

/-- Steps fail at the first that does, with its error, and the schema stays as it was before it. -/
theorem run_carryOut_eq_error_iff {schema last : Schema} {steps : List Step} {answers : List Answer}
    {e : Error} :
    (carryOut steps).run schema = .error (answers, e) last ↔
      ∃ before step rest, steps = before ++ step :: rest ∧
        (carryOut before).run schema = .ok answers last ∧ step.inPlace.run last = .error e last := by
  constructor
  · intro runs
    induction steps generalizing schema answers with
    | nil => cases runs
    | cons step rest ih =>
      rw [run_carryOut_cons] at runs
      cases performed : schema.perform step with
      | error other =>
        rw [performed] at runs
        cases runs
        exact ⟨[], step, rest, rfl, rfl, Step.run_inPlace_eq_error_iff.2 ⟨performed, rfl⟩⟩
      | ok done =>
        rw [performed] at runs
        cases onward : (carryOut rest).run done.2 with
        | ok more after => simp [onward, Run.following] at runs
        | error failure mid =>
          simp only [onward, Run.following] at runs
          cases runs
          obtain ⟨before, failing, later, split, ran, fails⟩ := ih onward
          exact ⟨step :: before, failing, later, by rw [split, List.cons_append],
            run_carryOut_cons_eq_ok_iff.2 ⟨_, _, _, performed, ran, rfl⟩, fails⟩
  · rintro ⟨before, step, rest, rfl, runs, fails⟩
    have refused := (Step.run_inPlace_eq_error_iff.1 fails).1
    rw [run_carryOut_append runs, run_carryOut_cons, refused]
    simp [Run.following]

theorem Sound.perform {schema after : Schema} (sound : schema.Sound) {step : Step} {answer : Answer}
    (run : schema.perform step = .ok (answer, after)) : after.Sound :=
  fun kind => (sound.becomes_of_perform run kind).reached (sound kind)

theorem Sound.carryOut {schema after : Schema} (sound : schema.Sound) {steps : List Step}
    {answers : List Answer} (runs : (carryOut steps).run schema = .ok answers after) : after.Sound := by
  induction steps generalizing schema answers with
  | nil =>
    cases runs
    exact sound
  | cons step rest ih =>
    obtain ⟨_, _, _, performed, onward, _⟩ := run_carryOut_cons_eq_ok_iff.1 runs
    exact ih (sound.perform performed) onward

theorem Step.Alike.symm {step other : Step} (alike : step.Alike other) : other.Alike step := by
  cases alike with
  | same => exact .same _
  | relisted bundle listing relisting => exact .relisted bundle relisting listing

/-- Whatever order a load goes through, a step that succeeds has the same answer and comes to the
same schema. -/
theorem Sound.perform_alike {schema after : Schema} (sound : schema.Sound) {step other : Step}
    (alike : step.Alike other) {answer : Answer} (run : schema.perform step = .ok (answer, after)) :
    schema.perform other = .ok (answer, after) := by
  cases alike with
  | same => exact run
  | relisted bundle listing relisting =>
    obtain ⟨done, loads, same⟩ := map_eq_ok_iff.1 run
    exact map_eq_ok_iff.2 ⟨done, (Bundle.loadBy_relisted sound listing relisting).1 loads, same⟩

/-- Steps run alike whatever order their loads go through: they are answered alike, come to the same, and
stop at the same step if they stop, though a load that fails may do so with another error. -/
theorem Sound.carryOut_alike {schema : Schema} (sound : schema.Sound) {steps others : List Step}
    (alike : List.Forall₂ Step.Alike steps others) :
    Run.Alike ((Schema.carryOut steps).run schema) ((Schema.carryOut others).run schema) := by
  induction alike generalizing schema with
  | nil => exact .ok _ _
  | @cons step other rest more first _ ih =>
    rw [run_carryOut_cons, run_carryOut_cons]
    cases performed : schema.perform step with
    | ok done =>
      rw [sound.perform_alike first performed]
      exact (ih (sound.perform performed)).following _
    | error e =>
      cases again : schema.perform other with
      | ok done =>
        rw [sound.perform_alike first.symm again] at performed
        cases performed
      | error e' => exact .error _ _ _ _

end Schema

namespace Publication

/-- Updates in place: the change is made on a copy, which is then published. -/
def updateInPlace {ε α : Type} (change : EStateM ε Schema α) : EStateM ε Publication α :=
  within current (fun _ schema => ⟨schema⟩) (onCopy Schema.copy change)

/-- An update that fails has changed the copy at most. -/
theorem run_updateInPlace {ε α : Type} (change : EStateM ε Schema α) (publication : Publication) :
    (updateInPlace change).run publication =
      match change.run publication.current.copy with
      | .ok a after => .ok a ⟨after⟩
      | .error e _ => .error e publication := by
  rw [updateInPlace, run_within, run_onCopy]
  cases change.run publication.current.copy <;> rfl

/-- An update, and so whatever is said of one in place. -/
theorem update_eq_outcome {ε α : Type} (publication : Publication) (change : EStateM ε Schema α) :
    publication.update (fun schema => outcome (change.run schema)) =
      outcome ((updateInPlace change).run publication) := by
  rw [update, run_updateInPlace]
  cases change.run publication.current.copy <;> rfl

/-- What the one caller may ask. -/
inductive Call where
  | update (steps : List Schema.Step)
  | replace (schema : Schema)
  | snapshot

inductive Reply where
  | updated (answers : List Schema.Answer)
  /-- The steps before the failing one had been answered. -/
  | failed (answers : List Schema.Answer) (e : Error)
  | replaced (before : Schema)
  | snapshot (schema : Schema)
  deriving DecidableEq

def answer (publication : Publication) : Call → Reply × Publication
  | .update steps =>
    match (updateInPlace (Schema.carryOut steps)).run publication with
    | .ok answers after => (.updated answers, after)
    | .error (answers, e) after => (.failed answers e, after)
  | .replace schema =>
    let (before, after) := publication.replace schema
    (.replaced before, after)
  | .snapshot => (.snapshot publication.snapshot, publication)

/-- The schema that was last put in whole, with the steps of all updates that have succeeded since, and
what these were answered. -/
structure Ledger where
  base : Schema
  steps : List Schema.Step := []
  answers : List Schema.Answer := []

def Ledger.note (ledger : Ledger) : Call → Reply → Ledger
  | .update steps, .updated answers =>
    { ledger with steps := ledger.steps ++ steps, answers := ledger.answers ++ answers }
  | .replace schema, _ => { base := schema }
  | _, _ => ledger

/-- A publication in use, and the ledger that is kept of it. -/
structure Session where
  publication : Publication
  ledger : Ledger

def Session.start (schema : Schema) : Session := ⟨⟨schema⟩, { base := schema }⟩

def Session.serve (session : Session) (call : Call) : Session :=
  let (reply, publication) := session.publication.answer call
  ⟨publication, session.ledger.note call reply⟩

/-- A schema that is put in place of another one starts a ledger of its own. -/
theorem Session.serve_replace (session : Session) (schema : Schema) :
    session.serve (.replace schema) = .start schema := rfl

theorem Session.serve_of_updated {session : Session} {steps : List Schema.Step}
    {answers : List Schema.Answer} {after : Publication}
    (updates : session.publication.answer (.update steps) = (.updated answers, after)) :
    session.serve (.update steps) = ⟨after, session.ledger.base, session.ledger.steps ++ steps,
      session.ledger.answers ++ answers⟩ := by
  rw [serve, updates]
  rfl

/-- What is published is what a plain schema comes to, answers and all. -/
structure Session.Refines (session : Session) : Prop where
  base : session.ledger.base.Sound
  sound : session.publication.current.Sound
  plain : (Schema.carryOut session.ledger.steps).run session.ledger.base =
    .ok session.ledger.answers session.publication.current

section Update

variable {publication : Publication} (sound : publication.current.Sound) {steps : List Schema.Step}
  {answers : List Schema.Answer}

include sound

-- The copy that an update works on is the published schema again, index and all.
/-- A publication moves on if all steps of an update succeed, and stays as it is otherwise. -/
theorem answer_update :
    publication.answer (.update steps) =
      match (Schema.carryOut steps).run publication.current with
      | .ok answers after => (.updated answers, ⟨after⟩)
      | .error (answers, e) _ => (.failed answers e, publication) := by
  rw [answer, run_updateInPlace, sound.copy_eq]
  cases (Schema.carryOut steps).run publication.current <;> rfl

theorem answer_eq_updated_iff {after : Publication} :
    publication.answer (.update steps) = (.updated answers, after) ↔
      (Schema.carryOut steps).run publication.current = .ok answers after.current := by
  rw [answer_update sound]
  cases after
  cases (Schema.carryOut steps).run publication.current <;> simp

theorem answer_eq_failed_iff {after : Publication} {e : Error} :
    publication.answer (.update steps) = (.failed answers e, after) ↔
      after = publication ∧
        ∃ last, (Schema.carryOut steps).run publication.current = .error (answers, e) last := by
  rw [answer_update sound]
  cases (Schema.carryOut steps).run publication.current with
  | ok more last => simp
  | error failure last =>
    obtain ⟨more, other⟩ := failure
    simp [and_comm, eq_comm]

end Update

/-- One call: it leaves the published schema that which the steps of the ledger lead to. -/
theorem Session.Refines.serve {session : Session} (refines : session.Refines) {call : Call}
    (installed : ∀ schema, call = .replace schema → schema.Sound) : (session.serve call).Refines := by
  obtain ⟨base, sound, plain⟩ := refines
  cases call with
  | update steps =>
    rw [Session.serve, answer_update sound]
    -- A failed update has left its mark on the copy alone, so there is nothing to note.
    cases ran : (Schema.carryOut steps).run session.publication.current with
    | ok answers after =>
      refine ⟨base, sound.carryOut ran, ?_⟩
      change (Schema.carryOut (session.ledger.steps ++ steps)).run session.ledger.base =
        .ok (session.ledger.answers ++ answers) after
      rw [Schema.run_carryOut_append plain, ran, Schema.Run.following]
    | error failure last => exact ⟨base, sound, plain⟩
  | replace schema => exact ⟨installed schema rfl, installed schema rfl, rfl⟩
  | snapshot => exact ⟨base, sound, plain⟩

theorem Session.refines_foldl {session : Session} (refines : session.Refines) {calls : List Call}
    (installed : ∀ schema, .replace schema ∈ calls → schema.Sound) :
    (calls.foldl Session.serve session).Refines := by
  induction calls generalizing session with
  | nil => exact refines
  | cons call calls ih =>
    refine ih (refines.serve fun schema same => ?_) fun schema later => ?_
    · exact installed schema (same ▸ List.mem_cons_self)
    · exact installed schema (List.mem_cons_of_mem _ later)

/-- The base of a session after other steps, all of them carried out in place. -/
def Session.plain (session : Session) (steps : List Schema.Step) : Schema.Run :=
  (Schema.carryOut steps).run session.ledger.base

/-- A session cannot be told from a plain schema on which some steps have been carried out in place. -/
structure Session.PlayedBy (session : Session) (played : List Schema.Step) : Prop where
  /-- Both hold the same definitions, names, and indexes, and the steps have been answered alike. -/
  current : session.plain played = .ok session.ledger.answers session.publication.current
  /-- An update succeeds exactly if its steps do on the plain schema, with their answers. -/
  updated : ∀ steps answers after,
    session.publication.answer (.update steps) = (.updated answers, after) ↔
      session.plain (played ++ steps) = .ok (session.ledger.answers ++ answers) after.current
  /-- Else it reports the first step that fails there, and publishes nothing of those before it. -/
  failed : ∀ steps answers e after,
    session.publication.answer (.update steps) = (.failed answers e, after) ↔
      after = session.publication ∧ ∃ before step rest mid, steps = before ++ step :: rest ∧
        session.plain (played ++ before) = .ok (session.ledger.answers ++ answers) mid ∧
        step.inPlace.run mid = .error e mid
  /-- On the plain schema a load may go through what is registered in another order. It fails exactly if
  the one on the published schema does, though it may find another error. -/
  relisted : ∀ steps others, List.Forall₂ Schema.Step.Alike steps others →
    Schema.Run.Alike (session.plain (played ++ steps)) (session.plain (played ++ others))
  replaced : ∀ schema, session.publication.answer (.replace schema) =
    (.replaced session.publication.current, ⟨schema⟩)
  read : session.publication.answer .snapshot =
    (.snapshot session.publication.current, session.publication)

/-- A ledger is played back with steps that go through the definitions in any order. -/
theorem Session.Refines.playedBy {session : Session} (refines : session.Refines)
    {played : List Schema.Step} (alike : List.Forall₂ Schema.Step.Alike session.ledger.steps played) :
    session.PlayedBy played := by
  have current : session.plain played = .ok session.ledger.answers session.publication.current := by
    have same := refines.base.carryOut_alike alike
    rw [refines.plain] at same
    unfold Session.plain
    generalize (Schema.carryOut played).run session.ledger.base = run at same
    cases same
    rfl
  have onward : ∀ steps, session.plain (played ++ steps) =
      Schema.Run.following session.ledger.answers
        ((Schema.carryOut steps).run session.publication.current) :=
    fun steps => Schema.run_carryOut_append current
  refine ⟨current, fun steps answers after => ?_, fun steps answers e after => ?_,
    fun steps others again => ?_, fun schema => rfl, rfl⟩
  · rw [onward, Schema.Run.following_eq_ok_iff, answer_eq_updated_iff refines.sound]
  · rw [answer_eq_failed_iff refines.sound]
    simp only [onward, Schema.Run.following_eq_ok_iff, Schema.run_carryOut_eq_error_iff]
    refine and_congr_right fun _ => ?_
    constructor
    · rintro ⟨mid, before, step, rest, split, runs, fails⟩
      exact ⟨before, step, rest, mid, split, runs, fails⟩
    · rintro ⟨before, step, rest, mid, split, runs, fails⟩
      exact ⟨mid, before, step, rest, split, runs, fails⟩
  · rw [onward, onward]
    exact (refines.sound.carryOut_alike again).following _

/-- Used by one caller at a time, a publication is a plain schema on which the steps of the successful
updates since the last replacement are carried out in place, with their loads going through what is
registered in whatever order they find there. What is shown of updates in place holds of updates. -/
theorem Session.refines_plain {schema : Schema} (sound : schema.Sound) (calls : List Call)
    (installed : ∀ other, .replace other ∈ calls → other.Sound) :
    let session := calls.foldl Session.serve (.start schema)
    (∀ played, List.Forall₂ Schema.Step.Alike session.ledger.steps played →
      session.PlayedBy played) ∧
    ∀ steps, session.publication.update (fun schema => outcome ((Schema.carryOut steps).run schema)) =
      outcome ((updateInPlace (Schema.carryOut steps)).run session.publication) := by
  intro session
  have start : (Session.start schema).Refines := ⟨sound, sound, rfl⟩
  have refines : session.Refines := Session.refines_foldl start installed
  exact ⟨fun played alike => refines.playedBy alike,
    fun steps => update_eq_outcome session.publication (Schema.carryOut steps)⟩

end Publication

namespace Sample

open Schema Publication

def waitingSchema : Schema := ⟨waiting, { kind := .attributeType }⟩

/-- A strict schema is replaced by a lenient one, into which a definition without its superior is loaded. -/
def opening : List Publication.Call :=
  [.replace (Schema.empty .defer), .update [.load personAlone .sorted]]

/-- The first calls of the session: a schema is put in place, and a step waits in it. -/
theorem opened : ∃ report, opening.foldl Session.serve (.start (Schema.empty .reject)) =
    ⟨⟨waitingSchema⟩, ⟨Schema.empty .defer, [.load personAlone .sorted], [.report report]⟩⟩ := by
  have lenient := (Schema.Reached.empty .defer).sound
  obtain ⟨report, loads⟩ :=
    @load_personAlone .sorted (Schema.empty .defer) waitingSchema lenient register_person rfl
  have performed := perform_load loads
  have updates : Publication.answer ⟨Schema.empty .defer⟩ (.update [.load personAlone .sorted]) =
      (.updated [.report report], ⟨waitingSchema⟩) :=
    (answer_eq_updated_iff lenient).2 (run_carryOut_cons_eq_ok_iff.2 ⟨_, _, [], performed, rfl, rfl⟩)
  have served := @Session.serve_of_updated (.start (Schema.empty .defer)) _ _ _ updates
  refine ⟨report, ?_⟩
  rw [opening, List.foldl_cons, List.foldl_cons, List.foldl_nil, Session.serve_replace]
  exact served

end Sample

/-- The second step of an update fails. The first one has succeeded, and nothing is seen of it. -/
theorem Publication.Session.refines_plain_sample :
    let session := Sample.opening.foldl Session.serve (.start (Schema.empty .reject))
    session.publication.answer (.update [.register .objectClass Sample.top,
        .register .objectClass Sample.person]) =
      (.failed [.definition Sample.top] (.duplicateOid "2.5.6.6"), session.publication) ∧
    session.publication.answer .snapshot = (.snapshot Sample.waitingSchema, session.publication) ∧
    session.plain [.load Sample.personAlone Sample.backwards] =
      .ok session.ledger.answers Sample.waitingSchema := by
  have installed : ∀ other, .replace other ∈ Sample.opening → other.Sound := by
    intro other member
    have same : other = Schema.empty .defer := by simpa [Sample.opening] using member
    exact same ▸ (Schema.Reached.empty .defer).sound
  have outcome := refines_plain (Schema.Reached.empty .reject).sound Sample.opening installed
  obtain ⟨report, opened⟩ := Sample.opened
  simp only [opened] at outcome ⊢
  have played := outcome.1 [.load Sample.personAlone Sample.backwards]
    (.cons (.relisted _ _ _) .nil)
  have registers : Sample.waitingSchema.perform (.register .objectClass Sample.top) =
      .ok (.definition Sample.top, ⟨Sample.full, { kind := .attributeType }⟩) :=
    map_eq_ok_iff.2 ⟨_, Schema.registerIn_eq_ok_iff.2 ⟨_, Sample.register_top, rfl⟩, rfl⟩
  have refused : Schema.perform ⟨Sample.full, { kind := .attributeType }⟩
      (.register .objectClass Sample.person) = .error (.duplicateOid "2.5.6.6") := by
    decide +kernel
  have runs : (Schema.carryOut [.load Sample.personAlone Sample.backwards,
      .register .objectClass Sample.top]).run (Schema.empty .defer) =
        .ok [.report report, .definition Sample.top] ⟨Sample.full, { kind := .attributeType }⟩ := by
    refine (Schema.run_carryOut_append played.current).trans ?_
    rw [Schema.run_carryOut_cons, registers]
    rfl
  exact ⟨(played.failed _ _ _ _).2 ⟨rfl, [.register .objectClass Sample.top], _, [], _, rfl, runs,
    Schema.Step.run_inPlace_eq_error_iff.2 ⟨refused, rfl⟩⟩, played.read, played.current⟩

end Subschema
