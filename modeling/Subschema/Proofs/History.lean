import Subschema.Proofs.Policies
import Subschema.Proofs.Queries

namespace Subschema

namespace Registry

/-- The registry after some calls, one after the other. -/
def run (start : Registry) (calls : List Call) : Registry := calls.foldl Registry.after start

/-- A call that registers something under an identifier. -/
def Registers (registry : Registry) (call : Call) (oid : String) : Prop :=
  ∃ d stored after, call = .register d ∧ registry.register d = .ok (stored, after) ∧
    stored.oid.text = oid

/-- A call that removes what is registered under an identifier. -/
def Removes (registry : Registry) (call : Call) (oid : String) : Prop :=
  ∃ name d after, call = .unregister name ∧ registry.unregister name = .ok (d, after) ∧
    d.oid.text = oid

/-- One of the calls has registered something under an identifier. -/
def Arrived (start : Registry) (calls : List Call) (oid : String) : Prop :=
  ∃ before call later, calls = before ++ call :: later ∧ (start.run before).Registers call oid

/-- One of the calls has removed what an earlier one had registered under an identifier, and nothing has
been registered under it since. -/
def Departed (start : Registry) (calls : List Call) (oid : String) : Prop :=
  ∃ before call later, calls = before ++ call :: later ∧ start.Arrived before oid ∧
    (start.run before).Removes call oid ∧
    ∀ front back, later = front ++ back →
      (start.run (before ++ call :: front)).store.contains oid = false

theorem run_snoc (start : Registry) (calls : List Call) (call : Call) :
    start.run (calls ++ [call]) = (start.run calls).after call := by
  simp [run]

/-- Whatever is called, what comes of a reached registry is reached. -/
theorem Reached.run {start : Registry} (reached : start.Reached) (calls : List Call) :
    (start.run calls).Reached := by
  induction calls using List.reverseRecOn with
  | nil => exact reached
  | append_singleton calls call ih =>
    rw [run_snoc]
    exact ih.next call

/-- All that a call can do. -/
theorem Reached.after_cases {registry : Registry} (reached : registry.Reached) (call : Call) :
    (∃ d stored, call = .register d ∧ registry.register d = .ok (stored, registry.after call)) ∨
    (∃ name d, call = .unregister name ∧ registry.unregister name = .ok (d, registry.after call)) ∨
    registry.after call = registry := by
  cases call with
  | register d =>
    cases run : registry.register d with
    | ok result =>
      obtain ⟨stored, after⟩ := result
      exact Or.inl ⟨d, stored, rfl, by simp only [Registry.after, run]⟩
    | error e => exact Or.inr (Or.inr (by simp only [Registry.after, run]))
  | unregister name =>
    cases run : registry.unregister name with
    | ok result =>
      obtain ⟨d, after⟩ := result
      exact Or.inr (Or.inl ⟨name, d, rfl, by simp only [Registry.after, run]⟩)
    | error e => exact Or.inr (Or.inr (by simp only [Registry.after, run]))
  | copy => exact Or.inr (Or.inr reached.copy_eq)

theorem Reached.policy_after {registry : Registry} (reached : registry.Reached) (call : Call) :
    (registry.after call).policy = registry.policy := by
  rcases reached.after_cases call with ⟨_, _, _, run⟩ | ⟨_, _, _, run⟩ | same
  · exact (get?_register run).2.1
  · exact (reached.get?_unregister run).2.1
  · rw [same]

theorem Reached.policy_run {start : Registry} (reached : start.Reached) (calls : List Call) :
    (start.run calls).policy = start.policy := by
  induction calls using List.reverseRecOn with
  | nil => rfl
  | append_singleton calls call ih => rw [run_snoc, (reached.run calls).policy_after, ih]

theorem Arrived.snoc {start : Registry} {calls : List Call} {oid : String}
    (arrived : start.Arrived calls oid) (call : Call) : start.Arrived (calls ++ [call]) oid := by
  obtain ⟨before, own, later, rfl, registers⟩ := arrived
  exact ⟨before, own, later ++ [call], by simp, registers⟩

/-- What has been removed stays so until it is registered again. -/
theorem Departed.snoc {start : Registry} {calls : List Call} {oid : String} {call : Call}
    (departed : start.Departed calls oid)
    (absent : (start.run (calls ++ [call])).store.contains oid = false) :
    start.Departed (calls ++ [call]) oid := by
  obtain ⟨before, own, later, rfl, arrived, removes, since⟩ := departed
  refine ⟨before, own, later ++ [call], by simp, arrived, removes, fun front back split => ?_⟩
  rcases List.append_eq_append_iff.1 split with ⟨rest, rfl, tail⟩ | ⟨rest, rfl, rfl⟩
  · rcases List.append_eq_singleton_iff.1 tail.symm with ⟨rfl, _⟩ | ⟨rfl, _⟩
    · rw [List.append_nil]
      exact since later [] (List.append_nil _).symm
    · simpa using absent
  · exact since front rest rfl

/-- What the calls have to do with what is registered: a definition was registered by one of them, and a
superior that is missing has been removed by one of them. -/
structure Accounted (start : Registry) (calls : List Call) : Prop where
  arrived : ∀ oid, (start.run calls).store.contains oid = true → start.Arrived calls oid
  departed : ∀ sub sup, (start.run calls).store.Names sub sup →
    (start.run calls).store.contains sup = false → start.Departed calls sup

theorem accounted_nil (kind : Kind) (policy : Policy) : Accounted { kind, policy } [] :=
  ⟨by simp [run, Store.contains, Store.get?], by simp [run, Store.Names, Store.get?]⟩

section Step

variable {start : Registry} {calls : List Call} (accounted : start.Accounted calls)
  (reached : (start.run calls).Reached)

include accounted reached

/-- What has just been registered names nothing that is missing. -/
theorem Accounted.register {d stored : Definition} (rejects : (start.run calls).policy = .reject)
    (registers : (start.run calls).register d = .ok (stored, start.run (calls ++ [.register d]))) :
    start.Accounted (calls ++ [.register d]) := by
  obtain ⟨_, policy, inserted⟩ := get?_register registers
  have last := reached.register registers
  have complete := (reached.extends_of_register registers).complete last (policy.trans rejects)
  have kept : ∀ oid, (start.run (calls ++ [.register d])).store.contains oid = true ↔
      oid = stored.oid.text ∨ (start.run calls).store.contains oid = true := by
    intro oid
    simp only [Store.contains, inserted]
    by_cases own : oid = stored.oid.text <;> simp [own]
  refine ⟨fun oid known => ?_, fun sub sup names absent => ?_⟩
  · rcases (kept oid).1 known with rfl | before
    · exact ⟨calls, _, [], rfl, d, stored, _, rfl, registers, rfl⟩
    · exact (accounted.arrived oid before).snoc _
  · obtain ⟨e, held, named⟩ := names
    have missing : (start.run calls).store.contains sup = false := by
      rw [← Bool.not_eq_true] at absent ⊢
      exact fun before => absent ((kept sup).2 (Or.inr before))
    by_cases old : (start.run calls).store.get? sub = none
    · rw [complete sub e held old sup named] at absent
      simp at absent
    · rw [inserted] at held
      split at held
      · rename_i own
        obtain ⟨superiors, accepts, rfl⟩ := reached.accepts_of_register registers
        exact absurd (own ▸ accepts.absent) old
      · exact (accounted.departed sub sup ⟨e, held, named⟩ missing).snoc absent

/-- What has just been removed had been registered before. -/
theorem Accounted.unregister {name : String} {d : Definition}
    (removes : (start.run calls).unregister name = .ok (d, start.run (calls ++ [.unregister name]))) :
    start.Accounted (calls ++ [.unregister name]) := by
  obtain ⟨_, _, stored, erased⟩ := reached.get?_unregister removes
  have kept : ∀ oid, (start.run (calls ++ [.unregister name])).store.contains oid = true ↔
      oid ≠ d.oid.text ∧ (start.run calls).store.contains oid = true := by
    intro oid
    simp only [Store.contains, erased]
    by_cases own : oid = d.oid.text <;> simp [own]
  refine ⟨fun oid known => (accounted.arrived oid ((kept oid).1 known).2).snoc _,
    fun sub sup names absent => ?_⟩
  obtain ⟨e, held, named⟩ := names
  rw [erased] at held
  split at held
  · simp at held
  by_cases own : sup = d.oid.text
  · subst own
    have known := Store.contains_eq_true_iff.2 ⟨d, stored⟩
    refine ⟨calls, _, [], rfl, accounted.arrived _ known, ⟨name, d, _, rfl, removes, rfl⟩, ?_⟩
    intro front back none
    obtain ⟨rfl, rfl⟩ := List.append_eq_nil_iff.1 none.symm
    exact absent
  · have missing : (start.run calls).store.contains sup = false := by
      rw [← Bool.not_eq_true] at absent ⊢
      exact fun before => absent ((kept sup).2 ⟨own, before⟩)
    exact (accounted.departed sub sup ⟨e, held, named⟩ missing).snoc absent

/-- In a registry that lets no superior wait, no call leaves a superior missing that was not
registered once. -/
theorem Accounted.snoc (rejects : (start.run calls).policy = .reject) (call : Call) :
    start.Accounted (calls ++ [call]) := by
  have next := run_snoc start calls call
  rcases reached.after_cases call with ⟨d, stored, rfl, run⟩ | ⟨name, d, rfl, run⟩ | same
  · exact accounted.register reached rejects (next ▸ run)
  · exact accounted.unregister reached (next ▸ run)
  · rw [same] at next
    refine ⟨fun oid known => ?_, fun sub sup names absent => ?_⟩
    · rw [next] at known
      exact (accounted.arrived oid known).snoc call
    · have before := accounted.departed sub sup (next ▸ names) (next ▸ absent)
      exact before.snoc absent

end Step

/-- A run from the empty registry has an account of all that is missing. What has been registered
and removed is read off the calls, as the registry keeps no record of it. -/
theorem accounted_run (kind : Kind) (calls : List Call) :
    Accounted { kind, policy := .reject } calls := by
  have start := Reached.empty kind .reject
  induction calls using List.reverseRecOn with
  | nil => exact accounted_nil kind .reject
  | append_singleton calls call ih => exact ih.snoc (start.run calls) (start.policy_run calls) call

/-- What is pending at the end of a run has been registered and removed. -/
theorem departed_of_pending {kind : Kind} {calls : List Call} {superior : String}
    {waiting : List String}
    (pending : (superior, waiting) ∈ (run { kind, policy := .reject } calls).pendingSuperiors) :
    Departed { kind, policy := .reject } calls superior := by
  have sound := ((Reached.empty kind .reject).run calls).sound
  obtain ⟨_, absent, ⟨oid, names⟩, _⟩ := sound.mem_pendingSuperiors.1 pending
  exact (accounted_run kind calls).departed oid superior names absent

/-- Where superiors may not wait, whatever is pending at some point of a run from the empty registry was
registered at an earlier point and has been removed since. If no call of the run removes anything, nothing
is pending at any point of it. -/
theorem pending_departed (kind : Kind) (calls : List Call) :
    (∀ front back, calls = front ++ back → ∀ superior waiting,
      (superior, waiting) ∈ (run { kind, policy := .reject } front).pendingSuperiors →
        Departed { kind, policy := .reject } front superior) ∧
    ((∀ front call back, calls = front ++ call :: back →
        ∀ oid, ¬ Removes (run { kind, policy := .reject } front) call oid) →
      ∀ front back, calls = front ++ back →
        (run { kind, policy := .reject } front).pendingSuperiors = []) := by
  refine ⟨fun front back _ superior waiting pending => departed_of_pending pending, ?_⟩
  rintro keeps front back rfl
  refine List.eq_nil_iff_forall_not_mem.2 ?_
  rintro ⟨superior, waiting⟩ pending
  obtain ⟨before, call, later, rfl, _, removes, _⟩ := departed_of_pending pending
  exact keeps before call (later ++ back) (by simp) superior removes

theorem pending_departed_orphaned :
    (∃ waiting, ("2.5.6.0", waiting) ∈ Sample.orphaned.pendingSuperiors) ∧
      Departed { kind := .objectClass, policy := .reject }
        [.register Sample.top, .register Sample.person, .unregister "top"] "2.5.6.0" := by
  have first : Registry.after { kind := .objectClass, policy := .reject } (.register Sample.top) =
      Sample.strictTop := by simp only [Registry.after, Sample.register_strictTop]
  have second : Sample.strictTop.after (.register Sample.person) = Sample.strictBoth := by
    simp only [Registry.after, Sample.register_strictBoth]
  have third : Sample.strictBoth.after (.unregister "top") = Sample.orphaned := by
    simp only [Registry.after, Sample.unregister_orphaned]
  have leads : run { kind := .objectClass, policy := .reject }
      [.register Sample.top, .register Sample.person, .unregister "top"] = Sample.orphaned := by
    simp only [run, List.foldl_cons, List.foldl_nil, first, second, third]
  have names : Sample.orphaned.store.Names "2.5.6.6" "2.5.6.0" :=
    ⟨Sample.person, by decide +kernel, List.mem_cons_self⟩
  have waits := Sample.orphaned_reached.sound.current.waiting.2 ⟨by decide +kernel, names⟩
  have pending : ("2.5.6.0", _) ∈ Sample.orphaned.pendingSuperiors := Links.mem_toList.2 ⟨⟨_, waits⟩, rfl⟩
  exact ⟨⟨_, pending⟩, (pending_departed .objectClass _).1 _ [] (List.append_nil _).symm _ _
    (leads.symm ▸ pending)⟩

end Registry

end Subschema
