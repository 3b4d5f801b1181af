import Escrow.Proofs.Engine.Action
import Escrow.Proofs.Ledger

/-! What a create does to the engine.

`run_create_cases` says once what a run of `create` can do: be refused before the intake, with
the session untouched; be refused at the fee, with the intake sent back; or write the lock and
its criteria under fresh ids. The facts below are read off it. A refused create leaves the
settings, the locks, the criteria, both counters and every balance as they were; the one
trace it can leave is the allowance the intake spent, which the refund does not restore.
-/

set_option autoImplicit false

namespace Escrow.Action

open Escrow.Policy

variable {caller : Address} {req : LockRequest} {now : Int} {s : Session}

theorem logsOnly_criterionLines (lockId : Nat) (records : List CriterionRecord) :
    LogsOnly (forIn records PUnit.unit fun r _ => do
      emit .debug .engine "criterion appended"
        [("lock_id", toString lockId), ("criterion_id", toString r.id), ("kind", r.kind.name)]
      pure (ForInStep.yield PUnit.unit)) :=
  logsOnly_forIn records _ fun _ _ => (logsOnly_emit _ _ _ _).bind fun _ => logsOnly_pure _

/-- Every run of a create ends in one of three ways. Up to the intake it can only be refused,
and then the session is untouched. If the fee cannot be collected, the intake is sent back to
the caller (kept only if that transfer goes through) and the request is refused. Otherwise the
staged criteria and the lock, holding the amount net of a percentage fee, are written. -/
theorem run_create_cases {result : EStateM.Result LockError Session Nat}
    (ran : (create caller req now).run s = result) :
    (∃ fault, result = .error fault s) ∨
    (∃ charge intake inner after,
      s.engine.config.fee.quote req.token req.amount = .ok charge ∧
      s.engine.store.ledger.transferFrom req.token s.engine.config.custody caller
        s.engine.config.custody req.amount = .ok intake ∧
      intake.chargeFee s.engine.config.custody caller req.token charge = .error inner ∧
      result = .error (.custodyTransferFailed .feeCollection inner) after ∧
      after.engine = { s.engine with store := { s.engine.store with
        ledger := match intake.transfer req.token s.engine.config.custody caller req.amount with
          | .ok back => back
          | .error _ => intake } }) ∨
    (∃ compiled refs records next charge intake charged after,
      req.amount ≠ 0 ∧
      (compile req.expression req.criterionCount req.positions req.criteria.length
        { maxTokens := s.engine.config.maxExpressionTokens }).mapError
        LockError.malformedExpression = .ok compiled ∧
      (bindCriteria compiled req.criteria (allocate s.engine req.token now)).run
        ([], s.engine.store.nextCriterionId) = .ok (refs, records, next) ∧
      s.engine.config.fee.quote req.token req.amount = .ok charge ∧
      s.engine.store.ledger.transferFrom req.token s.engine.config.custody caller
        s.engine.config.custody req.amount = .ok intake ∧
      intake.chargeFee s.engine.config.custody caller req.token charge = .ok charged ∧
      result = .ok s.engine.store.nextLockId after ∧
      after.engine = { s.engine with store :=
        { (records.foldl Store.putCriterion { s.engine.store with ledger := charged }).putLock
            { id := s.engine.store.nextLockId, owner := caller, token := req.token,
              amount := charge.netOf req.amount, feePaid := charge.paid,
              expression := compiled.tokens, criteria := refs, createdAt := now } with
          nextCriterionId := next, nextLockId := s.engine.store.nextLockId + 1 } }) := by
  unfold create at ran
  by_cases zero : req.amount = 0
  · simp only [zero, if_true, EStateM.run_bind, run_throw] at ran
    exact .inl ⟨_, ran.symm⟩
  simp only [zero, if_false, EStateM.run_bind, run_engine] at ran
  -- each stage before the intake is a lifted check: it passes with the session unchanged, or
  -- refuses the request
  split at ran
  case h_2 fault _ compiling =>
    obtain ⟨-, rfl⟩ := run_lift_eq_error.mp compiling
    exact .inl ⟨fault, ran.symm⟩
  rename_i compiled _ compileRan
  obtain ⟨compiling, rfl⟩ := run_lift_eq_ok.mp compileRan
  split at ran
  case h_2 fault _ binding =>
    obtain ⟨-, rfl⟩ := run_lift_eq_error.mp binding
    exact .inl ⟨fault, ran.symm⟩
  rename_i bound _ bindRan
  obtain ⟨binding, rfl⟩ := run_lift_eq_ok.mp bindRan
  obtain ⟨refs, records, next⟩ := bound
  split at ran
  case h_2 fault _ quoting =>
    obtain ⟨-, rfl⟩ := run_lift_eq_error.mp quoting
    exact .inl ⟨fault, ran.symm⟩
  rename_i charge _ quoteRan
  obtain ⟨quoting, rfl⟩ := run_lift_eq_ok.mp quoteRan
  split at ran
  case h_1 fault _ =>
    simp only [EStateM.run_bind, run_throw] at ran
    exact .inl ⟨_, ran.symm⟩
  rename_i intake taking
  simp only [EStateM.run_bind, run_setLedger, run_store] at ran
  split at ran
  case h_1 inner charging =>
    simp only [EStateM.run_bind, run_emit, run_throw] at ran
    obtain ⟨log, refunded⟩ := run_refund req.token caller req.amount _
    rw [refunded] at ran
    exact .inr (.inl ⟨charge, intake, inner, _, quoting, taking, charging, ran.symm, rfl⟩)
  rename_i charged charging
  simp only [EStateM.run_bind, run_setLedger, run_store, run_setStore, run_emit,
    EStateM.run_pure] at ran
  -- what follows the last write only logs
  split at ran
  case h_2 fault _ looped =>
    exact absurd looped ((logsOnly_criterionLines _ records).run_ne_error _ _ fault)
  rename_i looped
  refine .inr (.inr ⟨compiled, refs, records, next, charge, intake, charged, _, zero, compiling,
    binding, quoting, taking, charging, ran.symm, ?_⟩)
  exact (logsOnly_criterionLines _ records).engine_eq looped

/-- What a create refused with `fault` leaves behind: the settings, the locks, the criteria,
both counters and every balance as they were, and each allowance as it was, save that a
refusal at the fee leaves the allowance the intake was taken on spent by the amount. -/
structure CreateRefusal (caller : Address) (req : LockRequest) (before : Session) (fault : LockError)
    (after : Session) : Prop where
  config_eq : after.engine.config = before.engine.config
  store_eq : after.engine.store = { before.engine.store with ledger := after.engine.store.ledger }
  balanceOf_eq : ∀ t holder,
    after.engine.store.ledger.balanceOf t holder = before.engine.store.ledger.balanceOf t holder
  allowance_eq :
    (∀ t owner spender, after.engine.store.ledger.allowance t owner spender =
      before.engine.store.ledger.allowance t owner spender) ∨
    (∃ inner, fault = .custodyTransferFailed .feeCollection inner ∧
      ∀ t owner spender, after.engine.store.ledger.allowance t owner spender =
        if (req.token, caller, before.engine.config.custody) = (t, owner, spender) then
          before.engine.store.ledger.allowance t owner spender - req.amount
        else before.engine.store.ledger.allowance t owner spender)

/-- A refused create changes nothing but, when the fee could not be collected, the allowance
its intake spent: the intake itself is sent back. The caller's balance is in the amount range,
as every balance the ledger writes is. -/
theorem create_error_frame {fault : LockError} {after : Session}
    (inRange : s.engine.store.ledger.balanceOf req.token caller < amountBound)
    (refused : (create caller req now).run s = .error fault after) :
    CreateRefusal caller req s fault after := by
  rcases run_create_cases refused with
    ⟨_, refusedEarly⟩ | ⟨_, intake, inner, _, -, taking, -, feeRefused, restored⟩ |
      ⟨_, _, _, _, _, _, _, _, -, -, -, -, -, -, accepted, -⟩
  · -- refused before the intake: the session is the one it started from
    cases refusedEarly
    exact ⟨rfl, rfl, fun _ _ => rfl, .inl fun _ _ _ => rfl⟩
  · cases feeRefused
    -- the refund goes through and undoes the intake's balances, not its allowance
    obtain ⟨back, returned, allowancesKept, balancesRestored⟩ :=
      Ledger.transferFrom_back taking inRange
    rw [returned] at restored
    refine ⟨by rw [restored], by rw [restored], fun t holder => ?_, .inr ⟨inner, rfl, ?_⟩⟩
    · rw [restored]
      exact balancesRestored t holder
    · intro t owner spender
      rw [restored]
      show back.allowances.getD _ 0 = _
      rw [allowancesKept]
      exact Ledger.allowance_of_transferFrom taking t owner spender
  · cases accepted

def refusedAtFee {α : Type} : EStateM.Result LockError Session α → Bool
  | .error (.custodyTransferFailed .feeCollection _) _ => true
  | _ => false

theorem exists_of_refusedAtFee {α : Type} {result : EStateM.Result LockError Session α}
    (refused : refusedAtFee result = true) :
    ∃ inner after, result = .error (.custodyTransferFailed .feeCollection inner) after := by
  unfold refusedAtFee at refused
  split at refused
  · exact ⟨_, _, rfl⟩
  · cases refused

section FeeRefusal

def lockOwner : Address := Address.ofNat 0x0101

def lockToken : Address := Address.ofNat 0x7070

def feeToken : Address := Address.ofNat 0x7171

def feeWallet : Address := Address.ofNat 0x0303

def fundedLedger : Ledger :=
  { tokens := (({} : Table Address TokenInfo).insert lockToken ⟨"TKN", 18, 1000⟩).insert
      feeToken ⟨"FEE", 18, 0⟩
    balances := ({} : Table (Address × Address) Nat).insert (lockToken, lockOwner) 1000
    allowances := ({} : Table (Address × Address × Address) Nat).insert
      (lockToken, lockOwner, defaultCustody) 1000 }

def feeRefusalSession : Session :=
  { engine :=
    { config := { fee := { feeWallet := some feeWallet, feeToken := some feeToken, flatFee := 5000 } }
      store := { ledger := fundedLedger } } }

def minuteRequest : LockRequest :=
  LockRequest.ofExpression lockToken 100 ["c1"] [(CriterionSpec.time 60).encode]

/-- Two refusals and their frames: a lock of nothing is refused before anything is read, and the
minute lock under a fee its owner cannot pay is refused at the fee collection, after its intake. -/
theorem create_error_frame_zeroAmount_feeRefusal :
    (feeRefusalSession.engine.store.ledger.balanceOf lockToken lockOwner < amountBound ∧
      (create lockOwner { minuteRequest with amount := 0 } 0).run feeRefusalSession =
        .error .zeroAmount feeRefusalSession ∧
      CreateRefusal lockOwner { minuteRequest with amount := 0 } feeRefusalSession .zeroAmount
        feeRefusalSession) ∧
    ∃ inner after, (create lockOwner minuteRequest 0).run feeRefusalSession =
        .error (.custodyTransferFailed .feeCollection inner) after ∧
      CreateRefusal lockOwner minuteRequest feeRefusalSession
        (.custodyTransferFailed .feeCollection inner) after := by
  have inRange : feeRefusalSession.engine.store.ledger.balanceOf lockToken lockOwner < amountBound := by
    decide
  have refused : (create lockOwner { minuteRequest with amount := 0 } 0).run feeRefusalSession =
      .error .zeroAmount feeRefusalSession := rfl
  have atFee : refusedAtFee ((create lockOwner minuteRequest 0).run feeRefusalSession) = true := by
    decide +kernel
  refine ⟨⟨inRange, refused, create_error_frame inRange refused⟩, ?_⟩
  obtain ⟨inner, after, ran⟩ := exists_of_refusedAtFee atFee
  exact ⟨inner, after, ran, create_error_frame inRange ran⟩

/-- The create is refused at the fee, and of the 1000 approved for custody only 900 remain:
the intake of 100 came back, the allowance it spent did not. -/
theorem create_fee_refusal_spends_allowance :
    fundedLedger.allowance lockToken lockOwner defaultCustody = 1000 ∧
    (match (create lockOwner minuteRequest 0).run feeRefusalSession with
      | .error (.custodyTransferFailed .feeCollection _) after =>
        after.engine.store.ledger.allowance lockToken lockOwner defaultCustody
      | _ => 0) = 900 := by
  decide +kernel

end FeeRefusal

end Escrow.Action
