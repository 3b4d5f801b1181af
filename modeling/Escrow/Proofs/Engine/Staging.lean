import Escrow.Engine.Create
import Escrow.Proofs.Ledger

/-! What binding a request's criteria stages.

Binding gives each placeholder, from the left, the next criterion id, and stages the record its
descriptor describes under that id. `staged_of_bindCriteria` says what comes out: the refs carry
the compiled positions in order, consecutive ids from the counter on, and the descriptors' kinds,
and the staged records match them id for id and kind for kind. Nothing is stored yet; the
create writes the records and the counter only once the lock is written too.
-/

set_option autoImplicit false

namespace Escrow

theorem CriterionSpec.kind_of_decode {d : Descriptor} {spec : CriterionSpec}
    (decoded : CriterionSpec.decode d = .ok spec) : spec.kind = d.kind := by
  unfold CriterionSpec.decode at decoded
  -- each kind's branch reads its words and builds parameters of that kind, or fails
  cases kind : d.kind <;> simp only [kind, bind, Except.bind, CriterionSpec.abi] at decoded <;>
    (repeat' split at decoded) <;> cases decoded <;> rfl

theorem Engine.prepare_eq_ok {e : Engine} {id : Nat} {d : Descriptor} {token : Address} {now : Int}
    {record : CriterionRecord} (prepared : e.prepare id d token now = .ok record) :
    record.id = id ∧ record.kind = d.kind := by
  unfold Engine.prepare at prepared
  simp only [bind, Except.bind] at prepared
  split at prepared
  · cases prepared
  rename_i spec decoded
  rw [← CriterionSpec.kind_of_decode decoded]
  -- each kind's checks either refuse or build a record of that kind under `id`
  cases spec <;> simp only at prepared <;> (repeat' split at prepared) <;> cases prepared <;>
    exact ⟨rfl, rfl⟩

namespace Action

open Escrow.Policy

theorem run_allocate (e : Engine) (token : Address) (now : Int) (d : Descriptor)
    (records : List CriterionRecord) (next : Nat) :
    (allocate e token now d).run (records, next) =
      (e.prepare next d token now).map fun record => (next, records ++ [record], next + 1) := by
  cases preparing : e.prepare next d token now <;> simp [allocate, preparing] <;> rfl

/-- What one binding step stages: the placeholder at the pair's position is bound to the next
criterion id, with the descriptor's kind, and one record of that kind is staged under that id. -/
def StagesRef (pair : Nat × Descriptor) (before : List CriterionRecord × Nat) (ref : CriterionRef)
    (after : List CriterionRecord × Nat) : Prop :=
  ref.position = pair.1 ∧ ref.kind = pair.2.kind ∧ ref.id = before.2 ∧
    ∃ record, after = (before.1 ++ [record], before.2 + 1) ∧ record.id = ref.id ∧ record.kind = ref.kind

theorem stagesRef_of_run (e : Engine) (token : Address) (now : Int) (pair : Nat × Descriptor)
    (before : List CriterionRecord × Nat) {ref : CriterionRef} {after : List CriterionRecord × Nat}
    (ran : (do let id ← allocate e token now pair.2; pure { position := pair.1, kind := pair.2.kind, id } :
      Staging CriterionRef).run before = .ok (ref, after)) : StagesRef pair before ref after := by
  obtain ⟨records, next⟩ := before
  simp only [StateT.run_bind, run_allocate] at ran
  cases preparing : e.prepare next pair.2 token now with
  | error fault => simp [preparing, Except.map, bind, Except.bind] at ran
  | ok record =>
    simp only [preparing, Except.map, bind, Except.bind] at ran
    cases ran
    obtain ⟨sameId, sameKind⟩ := Engine.prepare_eq_ok preparing
    exact ⟨rfl, rfl, rfl, record, rfl, sameId, sameKind⟩

/-- What binding stages, from the next criterion id `start` on: the refs bind the given
positions in order to the ids `start`, `start + 1`, …, and the records staged after `earlier`
are one per ref, under its id and of its kind. -/
structure Staged (pairs : List (Nat × Descriptor)) (earlier : List CriterionRecord) (start : Nat)
    (refs : List CriterionRef) (records : List CriterionRecord) (next : Nat) : Prop where
  positions : refs.map CriterionRef.position = pairs.map Prod.fst
  ids : refs.map CriterionRef.id = List.range' start pairs.length
  next_eq : next = start + pairs.length
  records_eq : ∃ added, records = earlier ++ added ∧
    added.map (fun record => (record.id, record.kind)) = refs.map fun ref => (ref.id, ref.kind)

theorem staged_of_run (e : Engine) (token : Address) (now : Int) :
    ∀ (pairs : List (Nat × Descriptor)) (earlier : List CriterionRecord) (start : Nat)
      {refs : List CriterionRef} {records : List CriterionRecord} {next : Nat},
    (pairs.mapM fun (pair : Nat × Descriptor) => (do
        let id ← allocate e token now pair.2
        pure { position := pair.1, kind := pair.2.kind, id } : Staging CriterionRef)).run
      (earlier, start) = .ok (refs, records, next) →
    Staged pairs earlier start refs records next
  | [], earlier, start, refs, records, next, ran => by
    cases ran
    exact ⟨rfl, rfl, rfl, [], by simp, rfl⟩
  | pair :: rest, earlier, start, refs, records, next, ran => by
    rw [List.mapM_cons, StateT.run_bind] at ran
    -- the first pair is staged, then the rest from the state it leaves
    obtain ⟨⟨ref, middle⟩, firstRan, restRan⟩ := bind_eq_ok.mp ran
    obtain ⟨position, kind, id, record, rfl, recordId, recordKind⟩ :=
      stagesRef_of_run e token now pair (earlier, start) firstRan
    rw [StateT.run_bind] at restRan
    obtain ⟨⟨others, after⟩, othersRan, finished⟩ := bind_eq_ok.mp restRan
    cases finished
    obtain ⟨positions, ids, rfl, added, rfl, addedPairs⟩ :=
      staged_of_run e token now rest _ _ othersRan
    refine ⟨by simp [position, positions], ?_, by simp; omega, record :: added, by simp, ?_⟩
    · simp [id, ids, List.range'_succ]
    · simp [recordId, recordKind, addedPairs]

theorem staged_of_bindCriteria {e : Engine} {token : Address} {now : Int} {compiled : Compiled}
    {descriptors : List Descriptor} {start : Nat} {refs : List CriterionRef}
    {records : List CriterionRecord} {next : Nat}
    (bound : (bindCriteria compiled descriptors (allocate e token now)).run ([], start) =
      .ok (refs, records, next)) :
    descriptors.length = compiled.positions.length ∧
      Staged (compiled.positions.zip descriptors) [] start refs records next := by
  unfold bindCriteria at bound
  by_cases counted : descriptors.length = compiled.positions.length
  · simp only [counted, ne_eq, not_true_eq_false, if_false] at bound
    exact ⟨counted, staged_of_run e token now _ [] start bound⟩
  · simp only [counted, ne_eq, not_false_eq_true, if_true] at bound
    cases bound

theorem prepared_of_run (e : Engine) (token : Address) (now : Int) :
    ∀ (pairs : List (Nat × Descriptor)) (earlier : List CriterionRecord) (start : Nat)
      {refs : List CriterionRef} {records : List CriterionRecord} {next : Nat},
    (pairs.mapM fun (pair : Nat × Descriptor) => (do
        let id ← allocate e token now pair.2
        pure { position := pair.1, kind := pair.2.kind, id } : Staging CriterionRef)).run
      (earlier, start) = .ok (refs, records, next) →
    ∀ record ∈ records, record ∈ earlier ∨ ∃ id d, e.prepare id d token now = .ok record
  | [], earlier, start, refs, records, next, ran => by
    cases ran
    exact fun record member => .inl member
  | pair :: rest, earlier, start, refs, records, next, ran => by
    rw [List.mapM_cons, StateT.run_bind] at ran
    obtain ⟨⟨ref, middle⟩, firstRan, restRan⟩ := bind_eq_ok.mp ran
    rw [StateT.run_bind] at restRan
    obtain ⟨⟨others, after⟩, othersRan, finished⟩ := bind_eq_ok.mp restRan
    cases finished
    -- the first pair stages the record `prepare` made for it, after the earlier ones
    simp only [StateT.run_bind, run_allocate] at firstRan
    cases preparing : e.prepare start pair.2 token now with
    | error fault => simp [preparing, Except.map, bind, Except.bind] at firstRan
    | ok record =>
      simp only [preparing, Except.map, bind, Except.bind] at firstRan
      cases firstRan
      intro staged member
      rcases prepared_of_run e token now rest _ _ othersRan staged member with old | made
      · rcases List.mem_append.mp old with old | new
        · exact .inl old
        · rw [List.mem_singleton.mp new]
          exact .inr ⟨start, pair.2, preparing⟩
      · exact .inr made

theorem prepared_of_bindCriteria {e : Engine} {token : Address} {now : Int} {compiled : Compiled}
    {descriptors : List Descriptor} {start : Nat} {refs : List CriterionRef}
    {records : List CriterionRecord} {next : Nat}
    (bound : (bindCriteria compiled descriptors (allocate e token now)).run ([], start) =
      .ok (refs, records, next)) :
    ∀ record ∈ records, ∃ id d, e.prepare id d token now = .ok record := by
  unfold bindCriteria at bound
  by_cases counted : descriptors.length = compiled.positions.length
  · simp only [counted, ne_eq, not_true_eq_false, if_false] at bound
    intro record member
    rcases prepared_of_run e token now _ [] start bound record member with earlier | made
    · cases earlier
    · exact made
  · simp only [counted, ne_eq, not_false_eq_true, if_true] at bound
    cases bound

end Action

end Escrow
