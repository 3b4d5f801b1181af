import Escrow.Proofs.Engine.Staging
import Escrow.Proofs.Engine.Unlock
import Escrow.Proofs.Policy.Evaluation
import Escrow.Proofs.Policy.Compilation

/-! Evaluating a lock's policy.

A lock's policy is evaluated by resolving its criteria one by one, each logged, and reducing
the policy over the values. The log aside, that is the evaluation in `Except` with the engine's
criteria as the resolver (`run_evaluateLock`, through `Answers`). For a policy of the grammar
whose refs bind exactly its placeholders, in order, the evaluation is the tree's value at the
resolved criteria, or the first failed resolution (`evaluate_chain`): the reduction itself
never fails.
-/

set_option autoImplicit false

namespace Escrow

theorem length_of_mapM_eq_ok {α β ε : Type} {f : α → Except ε β} :
    ∀ {xs : List α} {ys : List β}, xs.mapM f = .ok ys → ys.length = xs.length
  | [], ys, mapped => by cases mapped; rfl
  | x :: rest, ys, mapped => by
    rw [List.mapM_cons] at mapped
    obtain ⟨y, -, mapped⟩ := bind_eq_ok.mp mapped
    obtain ⟨others, othersMapped, finished⟩ := bind_eq_ok.mp mapped
    cases finished
    simp [length_of_mapM_eq_ok othersMapped]

theorem exists_of_mapM_eq_error {α β ε : Type} {f : α → Except ε β} :
    ∀ {xs : List α} {fault : ε}, xs.mapM f = .error fault → ∃ x ∈ xs, f x = .error fault
  | [], fault, mapped => by cases mapped
  | x :: rest, fault, mapped => by
    rw [List.mapM_cons] at mapped
    cases first : f x with
    | error other =>
      rw [first] at mapped
      cases mapped
      exact ⟨x, List.mem_cons_self, first⟩
    | ok y =>
      cases others : rest.mapM f with
      | error other =>
        rw [first, others] at mapped
        cases mapped
        obtain ⟨failing, member, failed⟩ := exists_of_mapM_eq_error others
        exact ⟨failing, List.mem_cons_of_mem x member, failed⟩
      | ok ys =>
        rw [first, others] at mapped
        cases mapped

end Escrow

namespace Escrow.Policy

def fillPositions (slotted : List (Option Bool)) : List Nat → List Bool → List (Option Bool)
  | position :: positions, value :: values => fillPositions (slotted.set position (some value)) positions values
  | _, _ => slotted

theorem fillPositions_placeholderIndices (tokens : List Token) (before : List (Option Bool))
    (values : List Bool) (count : values.length = tokens.countP Token.isPlaceholder) :
    fillPositions (before ++ List.replicate tokens.length none) (placeholderIndices tokens before.length) values =
      before ++ slots tokens values := by
  induction tokens generalizing before values with
  | nil => cases values <;> simp [placeholderIndices, fillPositions, slots]
  | cons token rest ih =>
    by_cases placeholder : token.isPlaceholder
    · obtain ⟨value, values, rfl⟩ : ∃ value rest, values = value :: rest := by
        cases values with
        | nil => simp [placeholder] at count
        | cons value rest => exact ⟨value, rest, rfl⟩
      have shifted := ih (before ++ [some value]) values (by simpa [placeholder] using count)
      simp only [List.length_append, List.length_singleton, List.append_assoc, List.singleton_append] at shifted
      simp [placeholderIndices, placeholder, fillPositions, slots, List.replicate_succ, shifted]
    · have shifted := ih (before ++ [none]) values (by simpa [placeholder] using count)
      simp only [List.length_append, List.length_singleton, List.append_assoc, List.singleton_append] at shifted
      simp [placeholderIndices, placeholder, slots, List.replicate_succ, shifted]

theorem resolveRefs_except (tokens : List Token) (resolve : CriterionRef → Except LockError Bool) :
    ∀ (refs : List CriterionRef) (slotted : List (Option Bool)),
    (∀ r ∈ refs, placeholderAt tokens r.position = true) →
    resolveRefs tokens resolve refs slotted =
      (refs.mapM resolve).map (fillPositions slotted (refs.map CriterionRef.position))
  | [], slotted, _ => rfl
  | r :: rest, slotted, marked => by
    have markedRest : ∀ r ∈ rest, placeholderAt tokens r.position = true :=
      fun other member => marked other (List.mem_cons_of_mem r member)
    rw [resolveRefs, if_pos (marked r List.mem_cons_self)]
    cases resolving : resolve r with
    | error fault => simp [resolving, bind, Except.bind, Except.map, List.mapM_cons]
    | ok value =>
      simp only [resolving, bind, Except.bind, List.mapM_cons]
      rw [resolveRefs_except tokens resolve rest _ markedRest]
      cases rest.mapM resolve <;> rfl

theorem reduce_slots (chain : Chain) (values : List Bool) :
    reduce chain.tokens (slots chain.tokens values) = .ok (chain.value values) := by
  have run := chain.reduceFrom_tokens values (slots chain.tokens values) 0 [] [] [] rfl
    (List.prefix_refl _)
  rw [List.append_nil] at run
  rw [reduce, run, reduceFrom, chain.settleAll_open]
  rfl

/-- A policy of the grammar whose refs bind exactly its placeholders, in order, is the tree's
value at the resolved criteria, or the first failed resolution. -/
theorem evaluate_chain (chain : Chain) (refs : List CriterionRef)
    (resolve : CriterionRef → Except LockError Bool)
    (positions : refs.map CriterionRef.position = placeholderIndices chain.tokens 0) :
    evaluate chain.tokens refs resolve = (refs.mapM resolve).map chain.value := by
  have marked : ∀ r ∈ refs, placeholderAt chain.tokens r.position = true := fun r member =>
    mem_placeholderIndices_zero.mp (positions ▸ List.mem_map_of_mem member)
  unfold evaluate
  rw [resolveRefs_except _ _ refs _ marked]
  cases resolving : refs.mapM resolve with
  | error fault => rfl
  | ok values =>
    have count : values.length = chain.tokens.countP Token.isPlaceholder := by
      rw [length_of_mapM_eq_ok resolving, ← length_placeholderIndices chain.tokens 0, ← positions,
        List.length_map]
    have filled := fillPositions_placeholderIndices chain.tokens [] values count
    simp only [List.nil_append, List.length_nil] at filled
    simp only [Except.map, bind, Except.bind, positions, List.map_const', filled, reduce_slots]
    rfl

end Escrow.Policy

namespace Escrow.Action

open Escrow.Policy

def answered {α : Type} (answer : Except LockError α) (s : Session) (log : Array LogLine) :
    EStateM.Result LockError Session α :=
  match answer with
  | .ok value => .ok value { s with log }
  | .error fault => .error fault { s with log }

@[simp]
theorem answered_ok {α : Type} (value : α) (s : Session) (log : Array LogLine) :
    answered (.ok value) s log = .ok value { s with log } := rfl

@[simp]
theorem answered_error {α : Type} (fault : LockError) (s : Session) (log : Array LogLine) :
    answered (.error fault : Except LockError α) s log = .error fault { s with log } := rfl

def Answers {α : Type} (action : Action α) (answer : Except LockError α) : Prop :=
  ∀ s, ∃ log, action.run s = answered answer s log

theorem answers_pure {α : Type} (value : α) : Answers (pure value) (.ok value) :=
  fun s => ⟨s.log, rfl⟩

theorem answers_throw {α : Type} (fault : LockError) : Answers (throw fault : Action α) (.error fault) :=
  fun s => ⟨s.log, rfl⟩

theorem Answers.bind {α β : Type} {first : Action α} {next : α → Action β}
    {answer : Except LockError α} {answerNext : α → Except LockError β}
    (answersFirst : Answers first answer) (answersNext : ∀ value, Answers (next value) (answerNext value)) :
    Answers (first >>= next) (answer >>= answerNext) := by
  intro s
  obtain ⟨log, ran⟩ := answersFirst s
  cases answer with
  | error fault => exact ⟨log, by rw [EStateM.run_bind, ran]; rfl⟩
  | ok value =>
    obtain ⟨log', ranNext⟩ := answersNext value { s with log }
    exact ⟨log', by rw [EStateM.run_bind, ran]; exact ranNext⟩

theorem answers_lift_emit (r : Except LockError Bool) (message : String)
    (fields : Bool → List (String × String)) :
    Answers (do let v ← lift r; emit .trace .evaluator message (fields v); pure v) r := by
  intro s
  cases r with
  | error fault => exact ⟨s.log, rfl⟩
  | ok value => exact ⟨_, rfl⟩

theorem answers_resolveRefs (tokens : List Token) {resolve : CriterionRef → Action Bool}
    {answer : CriterionRef → Except LockError Bool} (answersResolve : ∀ r, Answers (resolve r) (answer r)) :
    ∀ (refs : List CriterionRef) (slotted : List (Option Bool)),
    Answers (resolveRefs tokens resolve refs slotted) (resolveRefs tokens answer refs slotted)
  | [], slotted => answers_pure slotted
  | r :: rest, slotted => by
    unfold resolveRefs
    split
    · exact (answersResolve r).bind fun value => answers_resolveRefs tokens answersResolve rest _
    · exact answers_throw _

theorem answers_evaluate (tokens : List Token) (refs : List CriterionRef)
    {resolve : CriterionRef → Action Bool} {answer : CriterionRef → Except LockError Bool}
    (answersResolve : ∀ r, Answers (resolve r) (answer r)) :
    Answers (evaluate tokens refs resolve) (evaluate tokens refs answer) := by
  unfold evaluate
  refine (answers_resolveRefs tokens answersResolve refs _).bind fun values => ?_
  split
  · exact answers_pure _
  · exact answers_throw _

theorem run_evaluateLock (l : Lock) (now : Int) (s : Session) :
    ∃ log, (evaluateLock l now).run s =
      answered (evaluate l.expression l.criteria (s.engine.isSatisfied · now)) s log := by
  simp only [evaluateLock, EStateM.run_bind, run_engine]
  refine answers_evaluate l.expression l.criteria (fun r => ?_) s
  exact answers_lift_emit _ _ _

theorem run_checkUnlock (id : Nat) (now : Int) (s : Session) :
    ∃ log, (checkUnlock id now).run s = answered
      (match s.engine.store.locks.get? id with
        | some l => evaluate l.expression l.criteria (s.engine.isSatisfied · now)
        | none => .error (.lockNotFound id)) s log := by
  unfold checkUnlock
  rw [EStateM.run_bind, run_loadLock]
  cases s.engine.store.locks.get? id with
  | none => exact ⟨s.log, rfl⟩
  | some l => exact run_evaluateLock l now s

end Escrow.Action

namespace Escrow

open Escrow.Policy

/-- A lock whose expression passes the grammar check with the positions its refs bind is a
tree of the grammar, and its policy is the tree's value at its criteria, or the first failed
resolution. -/
theorem Lock.evaluate_eq {l : Lock}
    (checked : checkGrammar l.expression = .ok (l.criteria.map CriterionRef.position)) :
    ∃ chain : Chain, chain.tokens = l.expression ∧ ∀ resolve : CriterionRef → Except LockError Bool,
      evaluate l.expression l.criteria resolve = (l.criteria.mapM resolve).map chain.value := by
  obtain ⟨chain, -, same⟩ := checkGrammar_tree checked
  refine ⟨chain, same, fun resolve => ?_⟩
  rw [← same]
  apply evaluate_chain
  rw [same]
  exact checkGrammar_positions checked

end Escrow
