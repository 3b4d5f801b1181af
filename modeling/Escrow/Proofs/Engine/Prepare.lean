import Escrow.Proofs.Engine.Staging
import Escrow.Engine.Unlock

/-! What preparing a criterion checks.

A criterion is prepared for a lock on a token made at a time: its descriptor is decoded, and the
conditions of its kind are checked against the settings and the live ledger and oracle
(`Engine.Admits`). `prepare_validates_domain` says that preparing succeeds exactly when the
descriptor decodes to parameters the engine admits, that a time or burn criterion does not hold in
the state it is prepared in, and that a time criterion holds from its lock time plus its duration
on and never before.
-/

set_option autoImplicit false

namespace Escrow

/-- What a criterion's parameters ask of a lock on `token` made at `now`: a duration of at least
one second that keeps the unlock time in the signed 64-bit range; an authorised sink and a target
ratio in `(0, 10^18]` above the sink's current share of the supply; a positive target and a price
for the token; a positive target and a market cap the ledger can compute; a threshold of at least
one and a nonzero whitelist root. -/
def Engine.Admits (e : Engine) (token : Address) (now : Int) : CriterionSpec → Prop
  | .time duration => 1 ≤ duration ∧ (duration : Int) ≤ timestampMax ∧ now + duration ≤ timestampMax
  | .burn sink target => e.config.burnSinks.contains sink = true ∧ 0 < target ∧ target ≤ fixedOne ∧
      ∃ current, e.store.ledger.burnRatio token sink = .ok current ∧ current < target
  | .price target => 0 < target ∧ ∃ price, e.store.ledger.fetchPrice token = .ok price
  | .marketCap target => 0 < target ∧ ∃ cap, e.store.ledger.currentMarketCap token = .ok cap
  | .multisig threshold _ root _ => 1 ≤ threshold ∧ root.isZero = false

namespace Engine

variable {e : Engine} {id : Nat} {d : Descriptor} {token : Address} {now : Int}

theorem prepare_time {duration : Nat} (decoded : CriterionSpec.decode d = .ok (.time duration))
    {record : CriterionRecord} :
    e.prepare id d token now = .ok record ↔
      e.Admits token now (.time duration) ∧
        record = .time { id, lockTimestamp := now, unlockTimestamp := now + duration } := by
  simp only [prepare, decoded, bind, Except.bind, Admits]
  by_cases zero : duration = 0
  · simp [zero, throw, throwThe, MonadExceptOf.throw]
  by_cases late : timestampMax < duration ∨ timestampMax < now + duration
  · simp only [zero, late, if_false, if_true, throw, throwThe, MonadExceptOf.throw, reduceCtorEq,
      false_iff]
    omega
  · simp only [zero, late, if_false, pure, Except.pure, Except.ok.injEq]
    constructor
    · rintro rfl
      exact ⟨by omega, rfl⟩
    · rintro ⟨-, rfl⟩
      rfl

theorem prepare_burn {sink : Address} {target : Nat}
    (decoded : CriterionSpec.decode d = .ok (.burn sink target)) {record : CriterionRecord} :
    e.prepare id d token now = .ok record ↔
      e.config.burnSinks.contains sink = true ∧ 0 < target ∧ target ≤ fixedOne ∧
        ∃ current, e.store.ledger.burnRatio token sink = .ok current ∧ current < target ∧
          record = .burn { id, token, burnSink := sink, targetRatio := target,
                           ratioAtLock := current } := by
  simp only [prepare, decoded, bind, Except.bind]
  cases authorised : e.config.burnSinks.contains sink
  · simp [throw, throwThe, MonadExceptOf.throw]
  by_cases range : target = 0 ∨ fixedOne < target
  · simp only [range, Bool.not_true, Bool.false_eq_true, if_false, if_true, throw,
      throwThe, MonadExceptOf.throw, reduceCtorEq, false_iff]
    omega
  cases ratio : e.store.ledger.burnRatio token sink with
  | error fault => simp [range]
  | ok current =>
    by_cases reached : target ≤ current
    · simp only [range, reached, Bool.not_true, Bool.false_eq_true, if_false, if_true, throw,
        throwThe, MonadExceptOf.throw, reduceCtorEq, Except.ok.injEq, exists_eq_left', false_iff]
      omega
    · simp only [range, reached, Bool.not_true, Bool.false_eq_true, if_false, pure, Except.pure,
        Except.ok.injEq, exists_eq_left', true_and]
      constructor
      · rintro rfl
        exact ⟨by omega, by omega, by omega, rfl⟩
      · rintro ⟨-, -, -, rfl⟩
        rfl

theorem prepare_price {target : Nat} (decoded : CriterionSpec.decode d = .ok (.price target)) :
    (∃ record, e.prepare id d token now = .ok record) ↔ e.Admits token now (.price target) := by
  simp only [prepare, decoded, bind, Except.bind, Admits]
  by_cases zero : target = 0
  · simp [zero, throw, throwThe, MonadExceptOf.throw]
  cases price : e.store.ledger.fetchPrice token with
  | error fault => simp [zero]
  | ok p => simp [zero, pure, Except.pure]; omega

theorem prepare_marketCap {target : Nat}
    (decoded : CriterionSpec.decode d = .ok (.marketCap target)) :
    (∃ record, e.prepare id d token now = .ok record) ↔ e.Admits token now (.marketCap target) := by
  simp only [prepare, decoded, bind, Except.bind, Admits]
  by_cases zero : target = 0
  · simp [zero, throw, throwThe, MonadExceptOf.throw]
  cases cap : e.store.ledger.currentMarketCap token with
  | error fault => simp [zero]
  | ok c => simp [zero, pure, Except.pure]; omega

theorem prepare_multisig {threshold : Nat} {signers : List Address} {root : Digest} {listing : Nat}
    (decoded : CriterionSpec.decode d = .ok (.multisig threshold signers root listing)) :
    (∃ record, e.prepare id d token now = .ok record) ↔
      e.Admits token now (.multisig threshold signers root listing) := by
  simp only [prepare, decoded, bind, Except.bind, Admits]
  by_cases zero : threshold = 0
  · simp [zero, throw, throwThe, MonadExceptOf.throw]
  cases blank : root.isZero
  · simp [zero, pure, Except.pure]; omega
  · simp [zero, throw, throwThe, MonadExceptOf.throw]

theorem prepare_eq_ok_iff :
    (∃ record, e.prepare id d token now = .ok record) ↔
      ∃ spec, CriterionSpec.decode d = .ok spec ∧ e.Admits token now spec := by
  cases decoding : CriterionSpec.decode d with
  | error fault => simp [prepare, decoding, bind, Except.bind]
  | ok spec =>
    simp only [Except.ok.injEq, exists_eq_left']
    cases spec with
    | time duration =>
      exact ⟨fun ⟨_, prepared⟩ => ((prepare_time decoding).mp prepared).1,
        fun admitted => ⟨_, (prepare_time decoding).mpr ⟨admitted, rfl⟩⟩⟩
    | burn sink target =>
      constructor
      · rintro ⟨_, prepared⟩
        obtain ⟨authorised, positive, capped, current, ratio, below, -⟩ :=
          (prepare_burn decoding).mp prepared
        exact ⟨authorised, positive, capped, current, ratio, below⟩
      · rintro ⟨authorised, positive, capped, current, ratio, below⟩
        exact ⟨_, (prepare_burn decoding).mpr ⟨authorised, positive, capped, current, ratio, below, rfl⟩⟩
    | price target => exact prepare_price decoding
    | marketCap target => exact prepare_marketCap decoding
    | multisig threshold signers root listing => exact prepare_multisig decoding

theorem time_of_prepare {tr : TimeRecord} (prepared : e.prepare id d token now = .ok (.time tr)) :
    ∃ duration, CriterionSpec.decode d = .ok (.time duration) ∧ 1 ≤ duration ∧
      tr = { id, lockTimestamp := now, unlockTimestamp := now + duration } := by
  obtain ⟨spec, decoded, -⟩ := prepare_eq_ok_iff.mp ⟨_, prepared⟩
  have sameKind : spec.kind = .time :=
    (CriterionSpec.kind_of_decode decoded).trans (prepare_eq_ok prepared).2.symm
  cases spec with
  | time duration =>
    obtain ⟨⟨positive, -⟩, same⟩ := (prepare_time decoded).mp prepared
    exact ⟨duration, decoded, positive, CriterionRecord.time.inj same⟩
  | _ => cases sameKind

theorem burn_of_prepare {br : BurnRecord} (prepared : e.prepare id d token now = .ok (.burn br)) :
    br.id = id ∧ br.token = token ∧
      e.store.ledger.burnRatio token br.burnSink = .ok br.ratioAtLock ∧ br.ratioAtLock < br.targetRatio := by
  obtain ⟨spec, decoded, -⟩ := prepare_eq_ok_iff.mp ⟨_, prepared⟩
  have sameKind : spec.kind = .burn :=
    (CriterionSpec.kind_of_decode decoded).trans (prepare_eq_ok prepared).2.symm
  cases spec with
  | burn sink target =>
    obtain ⟨-, -, -, current, ratio, below, same⟩ := (prepare_burn decoded).mp prepared
    cases CriterionRecord.burn.inj same
    exact ⟨rfl, rfl, ratio, below⟩
  | _ => cases sameKind

theorem isSatisfied_putCriterion_time (tr : TimeRecord) (position : Nat) (t : Int) :
    ({ e with store := e.store.putCriterion (.time tr) } : Engine).isSatisfied
      { position, kind := .time, id := tr.id } t = .ok (decide (tr.unlockTimestamp ≤ t)) := by
  simp [isSatisfied, Store.timeRecord?, Store.putCriterion, CriterionRecord.id]

theorem isSatisfied_putCriterion_burn (br : BurnRecord) (position : Nat) (t : Int) :
    ({ e with store := e.store.putCriterion (.burn br) } : Engine).isSatisfied
        { position, kind := .burn, id := br.id } t =
      (e.store.ledger.burnRatio br.token br.burnSink).map fun ratio => decide (br.targetRatio ≤ ratio) := by
  simp only [isSatisfied, Store.burnRecord?, Store.putCriterion, CriterionRecord.id,
    Table.get?_insert_self]
  cases e.store.ledger.burnRatio br.token br.burnSink <;> rfl

end Engine

open Engine in
/-- Preparing a criterion validates exactly its domain: it succeeds iff the descriptor decodes
to parameters the engine admits. A time or burn criterion it returns does not hold when stored in
the state it was prepared in, at the time it was prepared for; a time criterion holds at exactly
the instants from the lock time plus the duration on. -/
theorem prepare_validates_domain (e : Engine) (id : Nat) (d : Descriptor) (token : Address)
    (now : Int) :
    ((∃ record, e.prepare id d token now = .ok record) ↔
      ∃ spec, CriterionSpec.decode d = .ok spec ∧ e.Admits token now spec) ∧
    (∀ record position, e.prepare id d token now = .ok record →
      (record.kind = .time ∨ record.kind = .burn) →
      ({ e with store := e.store.putCriterion record } : Engine).isSatisfied
        { position, kind := record.kind, id } now = .ok false) ∧
    (∀ duration record position t, CriterionSpec.decode d = .ok (.time duration) →
      e.prepare id d token now = .ok record →
      ({ e with store := e.store.putCriterion record } : Engine).isSatisfied
        { position, kind := .time, id } t = .ok (decide (now + duration ≤ t))) := by
  refine ⟨prepare_eq_ok_iff, ?_, ?_⟩
  · intro record position prepared kinds
    cases record with
    | time tr =>
      obtain ⟨duration, -, positive, rfl⟩ := time_of_prepare prepared
      rw [CriterionRecord.kind, isSatisfied_putCriterion_time]
      simp only [decide_eq_false_iff_not, Except.ok.injEq]
      omega
    | burn br =>
      obtain ⟨rfl, sameToken, ratio, below⟩ := burn_of_prepare prepared
      rw [CriterionRecord.kind, isSatisfied_putCriterion_burn, sameToken, ratio]
      simp only [Except.map, Except.ok.injEq, decide_eq_false_iff_not]
      omega
    | _ => simp [CriterionRecord.kind] at kinds
  · intro duration record position t decoded prepared
    obtain ⟨-, rfl⟩ := (prepare_time decoded).mp prepared
    exact isSatisfied_putCriterion_time _ position t

end Escrow
