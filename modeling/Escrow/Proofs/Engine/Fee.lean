import Escrow.Proofs.Engine.Payout

/-! The creation fee.

Settings are validated before they are put in force, at start, on reopening and on each change,
so along every run the fee percentage is at most 10^18 (`feePercent_le_of_reachable`). For such
a percentage and an amount in the u128 range, quoting never overflows and never divides by zero:
the percentage fee is the floor of `amount · percent / 10^18`, at most the amount, so its 256-bit
product and 128-bit quotient always fit. The one refusal is a percentage of exactly 10^18, whose
fee would take the whole amount. A fee that floors to nothing is no charge at all. So the lock a
create writes keeps at least one unit, and in percent mode the fee and the lock's amount add up
to the amount requested.
-/

set_option autoImplicit false

namespace Escrow

namespace FeeCharge

/-- What a charge takes out of the amount being locked: a percentage fee. A flat fee is paid
from the owner's balance of the fee token instead. -/
def withheld : FeeCharge → Nat
  | .percent _ amount => amount
  | _ => 0

end FeeCharge

/-! ### The percentage fee -/

section Percent

variable {amount percent : Nat}

theorem percentFee_le (capped : percent ≤ fixedOne) : amount * percent / fixedOne ≤ amount :=
  Nat.div_le_of_le_mul (by rw [Nat.mul_comm fixedOne]; exact Nat.mul_le_mul_left amount capped)

theorem percentFee_lt_iff (positive : 0 < amount) (capped : percent ≤ fixedOne) :
    amount * percent / fixedOne < amount ↔ percent < fixedOne := by
  have scale : 0 < fixedOne := Nat.pos_of_ne_zero fixedOne_ne_zero
  rw [Nat.div_lt_iff_lt_mul scale]
  constructor
  · intro short
    exact Nat.lt_of_le_of_ne capped fun full => by rw [full] at short; exact Nat.lt_irrefl _ short
  · intro short
    exact Nat.mul_lt_mul_of_pos_left short positive

theorem mulDiv_percentFee (inRange : amount < amountBound) (capped : percent ≤ fixedOne) :
    mulDiv amount percent fixedOne = .ok (amount * percent / fixedOne) := by
  have narrow : percent < amountBound := Nat.lt_of_le_of_lt capped (by decide)
  rw [mulDiv_eq fixedOne inRange narrow, if_neg fixedOne_ne_zero,
    if_pos (Nat.lt_of_le_of_lt (percentFee_le capped) inRange)]

end Percent

/-! ### Quoting -/

namespace FeeSchedule

variable {s : FeeSchedule} {token : Address} {amount : Nat}

/-- Every charge a quote can give: none; the flat fee, for a token in flat mode while a fee
token and a positive fee are set; or, in percent mode, the floored percentage of the amount when
it is positive and short of the amount. In each of the last two a fee wallet is set. -/
theorem quote_eq_ok_cases {charge : FeeCharge} (quoted : s.quote token amount = .ok charge) :
    charge = .none ∨
    (∃ wallet feeToken, s.feeWallet = some wallet ∧ s.modeFor token = .flat ∧
      s.feeToken = some feeToken ∧ 0 < s.flatFee ∧ charge = .flat wallet feeToken s.flatFee) ∨
    (∃ wallet, s.feeWallet = some wallet ∧ s.modeFor token = .percent ∧
      0 < amount * s.feePercent / fixedOne ∧ amount * s.feePercent / fixedOne < amount ∧
      charge = .percent wallet (amount * s.feePercent / fixedOne)) := by
  unfold quote at quoted
  cases wallet? : s.feeWallet with
  | none =>
    simp only [wallet?, Except.ok.injEq] at quoted
    exact .inl quoted.symm
  | some wallet =>
    cases mode : s.modeFor token with
    | flat =>
      -- a flat fee needs both a fee token and a positive amount
      cases feeToken? : s.feeToken with
      | none =>
        simp only [wallet?, mode, feeToken?, Except.ok.injEq] at quoted
        exact .inl quoted.symm
      | some feeToken =>
        simp only [wallet?, mode, feeToken?] at quoted
        by_cases positive : s.flatFee > 0
        · simp only [positive, if_true, Except.ok.injEq] at quoted
          exact .inr (.inl ⟨wallet, feeToken, rfl, rfl, rfl, positive, quoted.symm⟩)
        · simp only [positive, if_false, Except.ok.injEq] at quoted
          exact .inl quoted.symm
    | percent =>
      simp only [wallet?, mode] at quoted
      obtain ⟨fee, computed, quoted⟩ := bind_eq_ok.mp quoted
      have floored := mulDiv_eq_ok computed
      subst floored
      by_cases zero : amount * s.feePercent / fixedOne = 0
      · simp only [zero, if_true, pure, Except.pure, Except.ok.injEq] at quoted
        exact .inl quoted.symm
      by_cases whole : amount * s.feePercent / fixedOne ≥ amount
      · simp [zero, whole, throw, throwThe, MonadExceptOf.throw] at quoted
      simp only [zero, whole, if_false, pure, Except.pure, Except.ok.injEq] at quoted
      exact .inr (.inr ⟨wallet, rfl, rfl, Nat.pos_of_ne_zero zero, Nat.lt_of_not_ge whole,
        quoted.symm⟩)

theorem quote_of_percent {wallet : Address} (inRange : amount < amountBound)
    (capped : s.feePercent ≤ fixedOne) (wallet? : s.feeWallet = some wallet)
    (mode : s.modeFor token = .percent) :
    s.quote token amount =
      if amount * s.feePercent / fixedOne = 0 then .ok .none
      else if amount ≤ amount * s.feePercent / fixedOne then
        .error (.invalidParameters "fee consumes the whole locked amount")
      else .ok (.percent wallet (amount * s.feePercent / fixedOne)) := by
  simp only [quote, wallet?, mode, mulDiv_percentFee inRange capped, bind, Except.bind, ge_iff_le]
  rfl

/-- A quote is refused only in percent mode with a wallet set and a percentage of exactly 10^18,
and then as a fee that would take the whole amount: never as an overflow or a division by zero. -/
theorem quote_eq_error_iff (positive : 0 < amount) (inRange : amount < amountBound)
    (capped : s.feePercent ≤ fixedOne) (fault : LockError) :
    s.quote token amount = .error fault ↔
      s.feeWallet ≠ none ∧ s.modeFor token = .percent ∧ s.feePercent = fixedOne ∧
        fault = .invalidParameters "fee consumes the whole locked amount" := by
  cases wallet? : s.feeWallet with
  | none => simp [quote, wallet?]
  | some wallet =>
    cases mode : s.modeFor token with
    | flat =>
      -- flat mode charges the flat fee or nothing, and never refuses
      have accepted : ∃ charge, s.quote token amount = .ok charge := by
        unfold quote
        rw [wallet?, mode]
        cases s.feeToken with
        | none => exact ⟨_, rfl⟩
        | some feeToken => by_cases positive : s.flatFee > 0 <;> simp [positive]
      obtain ⟨charge, quoted⟩ := accepted
      simp [quoted]
    | percent =>
      rw [quote_of_percent inRange capped wallet? mode]
      by_cases full : s.feePercent = fixedOne
      · -- the whole amount is the fee
        have whole : amount * s.feePercent / fixedOne = amount := by
          rw [full, Nat.mul_div_cancel amount (Nat.pos_of_ne_zero fixedOne_ne_zero)]
        rw [whole, if_neg (Nat.pos_iff_ne_zero.mp positive), if_pos (Nat.le_refl _)]
        simp [full, eq_comm]
      · have short : amount * s.feePercent / fixedOne < amount :=
          (percentFee_lt_iff positive capped).mpr (Nat.lt_of_le_of_ne capped full)
        split
        · simp [full]
        · simp [Nat.not_le.mpr short, full]

theorem quote_eq_percent {wallet : Address} {fee : Nat}
    (quoted : s.quote token amount = .ok (.percent wallet fee)) :
    fee = amount * s.feePercent / fixedOne ∧ 0 < fee ∧ fee < amount := by
  rcases quote_eq_ok_cases quoted with charged | ⟨_, _, _, _, _, _, charged⟩ |
    ⟨_, _, _, positive, short, charged⟩
  · cases charged
  · cases charged
  · cases charged
    exact ⟨rfl, positive, short⟩

theorem netOf_of_quote {charge : FeeCharge} (positive : 0 < amount)
    (quoted : s.quote token amount = .ok charge) :
    0 < charge.netOf amount ∧ charge.netOf amount + charge.withheld = amount := by
  rcases quote_eq_ok_cases quoted with rfl | ⟨_, _, _, _, _, _, rfl⟩ | ⟨_, _, _, _, short, rfl⟩
  · exact ⟨positive, rfl⟩
  · exact ⟨positive, rfl⟩
  · simp only [FeeCharge.netOf, FeeCharge.withheld]
    omega

theorem paid_eq_withheld_of_quote {charge : FeeCharge} (mode : s.modeFor token = .percent)
    (quoted : s.quote token amount = .ok charge) : charge.paid = charge.withheld := by
  rcases quote_eq_ok_cases quoted with rfl | ⟨_, _, _, flat, _, _, rfl⟩ | ⟨_, _, _, _, _, rfl⟩
  · rfl
  · rw [mode] at flat
    cases flat
  · rfl

end FeeSchedule

/-! ### Settings along a run -/

theorem Config.feePercent_le_of_validate {c : Config} (valid : c.validate = .ok ()) :
    c.fee.feePercent ≤ fixedOne := by
  unfold Config.validate at valid
  split at valid
  · cases valid
  split at valid
  · cases valid
  split at valid
  · cases valid
  · omega

theorem Engine.validate_of_start {config : Config} {st : Store} {e : Engine}
    (started : Engine.start config st = .ok e) : e.config.validate = .ok () := by
  obtain ⟨rfl, -⟩ := Engine.start_eq_ok started
  unfold Engine.start at started
  cases validating : config.validate with
  | error fault => simp [validating, bind, Except.bind] at started
  | ok u => rfl

namespace Action

def KeepsSettings {α : Type} (action : Action α) : Prop :=
  ∀ s, (sessionAfter (action.run s)).engine.config = s.engine.config

/-- An action that leaves the settings in force, or puts in force settings that pass
validation. -/
def ChecksSettings {α : Type} (action : Action α) : Prop :=
  ∀ s, (sessionAfter (action.run s)).engine.config = s.engine.config ∨
    (sessionAfter (action.run s)).engine.config.validate = .ok ()

theorem KeepsEngine.keepsSettings {α : Type} {action : Action α} (keeps : KeepsEngine action) :
    KeepsSettings action :=
  fun s => by rw [keeps s]

theorem ReplacesLedger.keepsSettings {α : Type} {action : Action α}
    {change : Ledger → Except LockError Ledger} (replaces : ReplacesLedger action change) :
    KeepsSettings action := by
  intro s
  rw [replaces s]
  split <;> rfl

theorem ChecksSettings.bind {α β : Type} {first : Action α} {next : α → Action β}
    (checks : ChecksSettings first) (keepsNext : ∀ value, KeepsEngine (next value)) :
    ChecksSettings (first >>= next) := by
  intro s
  rw [engine_sessionAfter_bind first keepsNext]
  exact checks s

theorem checksSettings_updateConfig (change : Config → Except LockError Config) :
    ChecksSettings (updateConfig change) := by
  intro s
  cases changing : change s.engine.config with
  | error fault => exact .inl (by simp [updateConfig, changing])
  | ok next =>
    -- the new settings go in force only after they pass validation
    cases validating : next.validate with
    | error fault =>
      refine .inl ?_
      simp only [updateConfig, EStateM.run_bind, run_config, changing, run_lift_ok, validating]
      rfl
    | ok u =>
      refine .inr ?_
      simp only [updateConfig, EStateM.run_bind, run_config, changing, run_lift_ok, validating]
      exact validating

theorem keepsSettings_create (caller : Address) (req : LockRequest) (now : Int) :
    KeepsSettings (create caller req now) := by
  intro s
  rcases run_create_cases (show (create caller req now).run s = _ from rfl) with
    ⟨fault, refused⟩ | ⟨_, _, _, after, -, -, -, refused, restored⟩ |
      ⟨_, _, _, _, _, _, _, after, -, -, -, -, -, -, accepted, written⟩
  · rw [refused]
    rfl
  · rw [refused, sessionAfter_error, restored]
  · rw [accepted, sessionAfter_ok, written]

theorem keepsSettings_unlockWith (caller : Address) (id : Nat) (recipient : Address)
    (mode : UnlockMode) (now : Int) : KeepsSettings (unlockWith caller id recipient mode now) := by
  intro s
  rcases run_unlockWith_cases (show (unlockWith caller id recipient mode now).run s = _ from rfl) with
    ⟨_, after, refused, same, -⟩ | ⟨_, _, _, after, -, -, -, -, -, -, -, refused, restored⟩ |
      ⟨_, _, _, _, after, -, -, -, -, -, -, -, -, accepted, written⟩
  · rw [refused, sessionAfter_error, same]
  · rw [refused, sessionAfter_error, restored]
  · rw [accepted, sessionAfter_ok, written]

theorem keepsSettings_unlock (caller : Address) (id : Nat) (recipient : Address) (mode : Nat)
    (data : List UInt8) (now : Int) : KeepsSettings (unlock caller id recipient mode data now) := by
  intro s
  rw [run_unlock]
  cases UnlockMode.decode mode data with
  | ok decoded => exact keepsSettings_unlockWith caller id recipient decoded now s
  | error fault => rfl

theorem keepsSettings_sign (signer : Address) (id : Nat) (proof : List Digest) :
    KeepsSettings (sign signer id proof) := by
  intro s
  rcases engine_sign signer id proof s with same | ⟨record, signed⟩
  · rw [same]
  · rw [signed]

theorem checksSettings_reopen (config : Option Config) : ChecksSettings (reopen config) := by
  intro s
  rcases engine_reopen config s with same | ⟨c, -, started⟩
  · exact .inl (by rw [same])
  · exact .inr (Engine.validate_of_start started)

end Action

open Escrow.Action

theorem Operation.checksSettings (op : Operation) (s : Session) :
    (op.perform s).engine.config = s.engine.config ∨ (op.perform s).engine.config.validate = .ok () := by
  cases op with
  | create caller req now => exact .inl (keepsSettings_create caller req now s)
  | unlock caller id recipient mode data now =>
    exact .inl (keepsSettings_unlock caller id recipient mode data now s)
  | unlockWith caller id recipient mode now =>
    exact .inl (keepsSettings_unlockWith caller id recipient mode now s)
  | sign signer id proof => exact .inl (keepsSettings_sign signer id proof s)
  | checkUnlock id now => exact .inl ((keepsEngine_checkUnlock id now).keepsSettings s)
  | setFeeWallet wallet =>
    exact ((checksSettings_updateConfig _).bind fun _ => keepsEngine_emit _ _ _ _) s
  | setFeeToken token =>
    exact ((checksSettings_updateConfig _).bind fun _ => keepsEngine_emit _ _ _ _) s
  | setFeeAmount amount =>
    exact ((checksSettings_updateConfig _).bind fun _ => keepsEngine_emit _ _ _ _) s
  | setFeePercent percent =>
    exact ((checksSettings_updateConfig _).bind fun _ => keepsEngine_emit _ _ _ _) s
  | toggleFeeType token =>
    exact ((checksSettings_updateConfig _).bind fun _ => keepsEngine_config.bind fun _ =>
      (keepsEngine_emit _ _ _ _).bind fun _ => keepsEngine_pure _) s
  | toggleBurnSink sink =>
    exact ((checksSettings_updateConfig _).bind fun _ => keepsEngine_config.bind fun _ =>
      (keepsEngine_emit _ _ _ _).bind fun _ => keepsEngine_pure _) s
  | reopen config => exact checksSettings_reopen config s
  | registerToken token symbol decimals =>
    exact .inl ((replacesLedger_registerToken token symbol decimals).keepsSettings s)
  | mint token receiver amount => exact .inl ((replacesLedger_mint token receiver amount).keepsSettings s)
  | approve token owner spender amount =>
    exact .inl ((replacesLedger_approve token owner spender amount).keepsSettings s)
  | transfer token sender receiver amount =>
    exact .inl ((replacesLedger_transfer token sender receiver amount).keepsSettings s)
  | transferFrom token spender owner receiver amount =>
    exact .inl ((replacesLedger_transferFrom token spender owner receiver amount).keepsSettings s)
  | setPrice token price => exact .inl ((replacesLedger_setPrice token price).keepsSettings s)

theorem validate_of_reachable {allowed : Operation → Session → Prop} {s : Session}
    (reached : Reachable allowed s) : s.engine.config.validate = .ok () := by
  induction reached with
  | start config started => exact Engine.validate_of_start started
  | step _ _ valid =>
    rcases Operation.checksSettings _ _ with same | checked
    · rw [same]
      exact valid
    · exact checked

theorem feePercent_le_of_reachable {allowed : Operation → Session → Prop} {s : Session}
    (reached : Reachable allowed s) : s.engine.config.fee.feePercent ≤ fixedOne :=
  Config.feePercent_le_of_validate (validate_of_reachable reached)

/-! ### The lock a create writes -/

/-- A create that succeeds writes its lock under the id it returns. The lock holds at least one
unit, and in percent mode its fee and its amount add up to the amount requested. -/
theorem create_lock_amount {caller : Address} {req : LockRequest} {now : Int} {s after : Session}
    {id : Nat} (created : (Action.create caller req now).run s = .ok id after) :
    ∃ lock, after.engine.store.locks.get? id = some lock ∧ 0 < lock.amount ∧
      (s.engine.config.fee.modeFor req.token = .percent → lock.feePaid + lock.amount = req.amount) := by
  rcases run_create_cases created with ⟨_, refused⟩ | ⟨_, _, _, _, -, -, -, refused, -⟩ |
    ⟨compiled, refs, _, _, charge, _, _, _, nonzero, -, -, quoting, -, -, accepted, written⟩
  · cases refused
  · cases refused
  cases accepted
  have kept := FeeSchedule.netOf_of_quote (Nat.pos_of_ne_zero nonzero) quoting
  let lock : Lock :=
    { id := s.engine.store.nextLockId, owner := caller, token := req.token,
      amount := charge.netOf req.amount, feePaid := charge.paid, expression := compiled.tokens,
      criteria := refs, createdAt := now }
  have stored : after.engine.store.locks.get? s.engine.store.nextLockId = some lock := by
    rw [written]
    exact Table.get?_insert_self _ _ _
  refine ⟨lock, stored, kept.1, fun mode => ?_⟩
  show charge.paid + charge.netOf req.amount = req.amount
  rw [FeeSchedule.paid_eq_withheld_of_quote mode quoting]
  omega

/-- Fee arithmetic is safe. For a percentage of at most 10^18, as along every run, and every
amount from one up to the u128 range, a quote is refused only at a percentage of exactly 10^18
in percent mode with a wallet set, and never for an overflow or a division by zero; a percentage
fee is the floor of `amount · percent / 10^18`, at least one and short of the amount; and every
charge leaves at least one unit locked, the amount splitting exactly into what is locked and
what the charge withholds. So the lock a create writes holds at least one unit, and in percent
mode its fee and its amount add up to the amount requested. -/
theorem fee_arithmetic_safe :
    (∀ (s : FeeSchedule) (token : Address) (amount : Nat),
      s.feePercent ≤ fixedOne → 0 < amount → amount < amountBound →
        (∀ fault, s.quote token amount = .error fault ↔
          s.feeWallet ≠ none ∧ s.modeFor token = .percent ∧ s.feePercent = fixedOne ∧
            fault = .invalidParameters "fee consumes the whole locked amount") ∧
        (∀ wallet fee, s.quote token amount = .ok (.percent wallet fee) →
          fee = amount * s.feePercent / fixedOne ∧ 0 < fee ∧ fee < amount) ∧
        (∀ charge, s.quote token amount = .ok charge →
          0 < charge.netOf amount ∧ charge.netOf amount + charge.withheld = amount)) ∧
    (∀ (allowed : Operation → Session → Prop) (s : Session), Reachable allowed s →
      s.engine.config.fee.feePercent ≤ fixedOne) ∧
    (∀ (caller : Address) (req : LockRequest) (now : Int) (s after : Session) (id : Nat),
      (Action.create caller req now).run s = .ok id after →
      ∃ lock, after.engine.store.locks.get? id = some lock ∧ 0 < lock.amount ∧
        (s.engine.config.fee.modeFor req.token = .percent →
          lock.feePaid + lock.amount = req.amount)) :=
  ⟨fun _ _ _ capped positive inRange =>
    ⟨FeeSchedule.quote_eq_error_iff positive inRange capped,
      fun _ _ quoted => FeeSchedule.quote_eq_percent quoted,
      fun _ quoted => FeeSchedule.netOf_of_quote positive quoted⟩,
    fun _ _ reached => feePercent_le_of_reachable reached,
    fun _ _ _ _ _ _ created => create_lock_amount created⟩

def twoPercentFees : FeeSchedule where
  feeWallet := some (Address.ofNat 3)
  feePercent := fixedOne / 50
  percentTokens := AddressSet.ofList [Address.ofNat 0x7070]

/-- A 2% fee on 5000 of a token in percent mode is 100, and 4900 stay locked. -/
theorem fee_arithmetic_safe_twoPercent :
    twoPercentFees.feePercent ≤ fixedOne ∧ 0 < 5000 ∧ 5000 < amountBound ∧
      twoPercentFees.quote (Address.ofNat 0x7070) 5000 = .ok (.percent (Address.ofNat 3) 100) ∧
      100 = 5000 * twoPercentFees.feePercent / fixedOne ∧
      (FeeCharge.percent (Address.ofNat 3) 100).netOf 5000 + 100 = 5000 := by
  have capped : twoPercentFees.feePercent ≤ fixedOne := by decide
  have quoted : twoPercentFees.quote (Address.ofNat 0x7070) 5000 =
      .ok (.percent (Address.ofNat 3) 100) := rfl
  have safe := fee_arithmetic_safe.1 twoPercentFees (Address.ofNat 0x7070) 5000 capped
    (by decide) (by decide)
  exact ⟨capped, by decide, by decide, quoted, (safe.2.1 _ _ quoted).1, (safe.2.2 _ quoted).2⟩

end Escrow
