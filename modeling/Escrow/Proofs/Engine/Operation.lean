import Escrow.Proofs.Engine.Create
import Escrow.Proofs.Engine.Unlock
import Escrow.Engine.Settings

/-! Runs of the engine.

A run starts an engine on a fresh store and then makes operations one after another: the
engine's own, and ledger operations made directly on its ledger. `Reachable` collects the
sessions a run reaches, with a predicate saying which operations the run admits. Beside it,
what each of the small operations can do to the engine, said once: a ledger operation replaces
the ledger (`ReplacesLedger`), a settings change puts new settings with the same custody in force
(`ResetsSettings`), a signature rewrites one criterion, and a reopening starts the engine afresh
over its store.
-/

set_option autoImplicit false

namespace Escrow

/-- One step of a run: an engine operation, or a ledger operation made directly, with the
arguments it is called with. -/
inductive Operation where
  | create (caller : Address) (req : LockRequest) (now : Int)
  | unlock (caller : Address) (id : Nat) (recipient : Address) (mode : Nat) (data : List UInt8)
      (now : Int)
  | unlockWith (caller : Address) (id : Nat) (recipient : Address) (mode : UnlockMode) (now : Int)
  | sign (signer : Address) (id : Nat) (proof : List Digest)
  | checkUnlock (id : Nat) (now : Int)
  | setFeeWallet (wallet : Option Address)
  | setFeeToken (token : Option Address)
  | setFeeAmount (amount : Nat)
  | setFeePercent (percent : Nat)
  | toggleFeeType (token : Address)
  | toggleBurnSink (sink : Address)
  | reopen (config : Option Config)
  | registerToken (token : Address) (symbol : String) (decimals : Nat)
  | mint (token receiver : Address) (amount : Nat)
  | approve (token owner spender : Address) (amount : Nat)
  | transfer (token sender receiver : Address) (amount : Nat)
  | transferFrom (token spender owner receiver : Address) (amount : Nat)
  | setPrice (token : Address) (price : Nat)

def Operation.perform : Operation → Session → Session
  | .create caller req now, s => Action.sessionAfter ((Action.create caller req now).run s)
  | .unlock caller id recipient mode data now, s =>
    Action.sessionAfter ((Action.unlock caller id recipient mode data now).run s)
  | .unlockWith caller id recipient mode now, s =>
    Action.sessionAfter ((Action.unlockWith caller id recipient mode now).run s)
  | .sign signer id proof, s => Action.sessionAfter ((Action.sign signer id proof).run s)
  | .checkUnlock id now, s => Action.sessionAfter ((Action.checkUnlock id now).run s)
  | .setFeeWallet wallet, s => Action.sessionAfter ((Action.setFeeWallet wallet).run s)
  | .setFeeToken token, s => Action.sessionAfter ((Action.setFeeToken token).run s)
  | .setFeeAmount amount, s => Action.sessionAfter ((Action.setFeeAmount amount).run s)
  | .setFeePercent percent, s => Action.sessionAfter ((Action.setFeePercent percent).run s)
  | .toggleFeeType token, s => Action.sessionAfter ((Action.toggleFeeType token).run s)
  | .toggleBurnSink sink, s => Action.sessionAfter ((Action.toggleBurnSink sink).run s)
  | .reopen config, s => Action.sessionAfter ((Action.reopen config).run s)
  | .registerToken token symbol decimals, s =>
    Action.sessionAfter ((Action.registerToken token symbol decimals).run s)
  | .mint token receiver amount, s => Action.sessionAfter ((Action.mint token receiver amount).run s)
  | .approve token owner spender amount, s =>
    Action.sessionAfter ((Action.approve token owner spender amount).run s)
  | .transfer token sender receiver amount, s =>
    Action.sessionAfter ((Action.transfer token sender receiver amount).run s)
  | .transferFrom token spender owner receiver amount, s =>
    Action.sessionAfter ((Action.transferFrom token spender owner receiver amount).run s)
  | .setPrice token price, s => Action.sessionAfter ((Action.setPrice token price).run s)

/-- The sessions a run reaches: an engine started with any settings on a fresh store, then any
operations that `allowed` admits in the session they are made in. -/
inductive Reachable (allowed : Operation → Session → Prop) : Session → Prop
  | start (config : Config) {e : Engine} (started : Engine.start config {} = .ok e) :
      Reachable allowed { engine := e }
  | step {s : Session} {op : Operation} (reached : Reachable allowed s) (admitted : allowed op s) :
      Reachable allowed (op.perform s)

end Escrow

namespace Escrow.Action

/-- An action that changes nothing of the engine but the ledger: it puts in the ledger `change`
makes of the one it finds, or leaves the engine as it was when `change` refuses. -/
def ReplacesLedger {α : Type} (action : Action α) (change : Ledger → Except LockError Ledger) :
    Prop :=
  ∀ s, (sessionAfter (action.run s)).engine =
    match change s.engine.store.ledger with
    | .ok l => { s.engine with store := { s.engine.store with ledger := l } }
    | .error _ => s.engine

theorem replacesLedger_registerToken (token : Address) (symbol : String) (decimals : Nat) :
    ReplacesLedger (registerToken token symbol decimals) fun l => .ok (l.register token symbol decimals) :=
  fun _ => rfl

theorem replacesLedger_setPrice (token : Address) (price : Nat) :
    ReplacesLedger (setPrice token price) fun l => .ok (l.setPrice token price) :=
  fun _ => rfl

theorem replacesLedger_mint (token receiver : Address) (amount : Nat) :
    ReplacesLedger (mint token receiver amount) (·.mint token receiver amount) := by
  intro s
  cases minting : s.engine.store.ledger.mint token receiver amount <;> simp [mint, minting]

theorem replacesLedger_approve (token owner spender : Address) (amount : Nat) :
    ReplacesLedger (approve token owner spender amount) (·.approve token owner spender amount) := by
  intro s
  cases approving : s.engine.store.ledger.approve token owner spender amount <;>
    simp [approve, approving]

theorem replacesLedger_transfer (token sender receiver : Address) (amount : Nat) :
    ReplacesLedger (transfer token sender receiver amount) (·.transfer token sender receiver amount) := by
  intro s
  cases moving : s.engine.store.ledger.transfer token sender receiver amount <;>
    simp [transfer, moving]

theorem replacesLedger_transferFrom (token spender owner receiver : Address) (amount : Nat) :
    ReplacesLedger (transferFrom token spender owner receiver amount)
      (·.transferFrom token spender owner receiver amount) := by
  intro s
  cases moving : s.engine.store.ledger.transferFrom token spender owner receiver amount <;>
    simp [transferFrom, moving]

end Escrow.Action
namespace Escrow.Action

/-- An action that may put new settings in force, storing them too, as long as they name the
same custody; it changes nothing else of the engine. -/
def ResetsSettings {α : Type} (action : Action α) : Prop :=
  ∀ s, (sessionAfter (action.run s)).engine = s.engine ∨
    ∃ next : Config, next.custody = s.engine.config.custody ∧
      (sessionAfter (action.run s)).engine =
        { config := next, store := { s.engine.store with config? := some next } }

theorem ResetsSettings.bind {α β : Type} {first : Action α} {next : α → Action β}
    (resets : ResetsSettings first) (keepsNext : ∀ value, KeepsEngine (next value)) :
    ResetsSettings (first >>= next) := by
  intro s
  rw [engine_sessionAfter_bind first keepsNext]
  exact resets s

theorem resetsSettings_updateConfig (change : Config → Except LockError Config)
    (keepsCustody : ∀ c next, change c = .ok next → next.custody = c.custody) :
    ResetsSettings (updateConfig change) := by
  intro s
  cases changing : change s.engine.config with
  | error fault => exact .inl (by simp [updateConfig, changing])
  | ok next =>
    -- the new settings are checked before anything is written
    cases validating : next.validate with
    | error fault =>
      refine .inl ?_
      simp only [updateConfig, EStateM.run_bind, run_config, changing, run_lift_ok, validating]
      rfl
    | ok u =>
      refine .inr ⟨next, keepsCustody _ _ changing, ?_⟩
      simp only [updateConfig, EStateM.run_bind, run_config, changing, run_lift_ok, validating]
      rfl

end Escrow.Action
namespace Escrow.Action

theorem engine_sign (signer : Address) (id : Nat) (proof : List Digest) (s : Session) :
    (sessionAfter ((sign signer id proof).run s)).engine = s.engine ∨
    ∃ record, (sessionAfter ((sign signer id proof).run s)).engine =
      { s.engine with store := s.engine.store.putCriterion record } := by
  unfold sign
  simp only [EStateM.run_bind, run_store]
  cases found : s.engine.store.multisigRecord? id with
  | none => exact .inl rfl
  | some c =>
    simp only [EStateM.run_bind, EStateM.run_pure, run_config]
    split
    · rename_i fault signed signing
      simp only [EStateM.run_bind, run_emit, run_throw]
      exact .inl rfl
    · rename_i status signed signing
      simp only [EStateM.run_bind, run_store, run_setStore, run_emit, EStateM.run_pure]
      exact .inr ⟨_, rfl⟩

/-- Every run of a signature ends in one of three ways: no multisig record under the id; the
signing step refuses, and the engine keeps the record as it was; or the step accepts, and the
record it leaves is stored. -/
theorem run_sign_cases {signer : Address} {id : Nat} {proof : List Digest} {s : Session}
    {result : EStateM.Result LockError Session MultisigStatus}
    (ran : (sign signer id proof).run s = result) :
    (s.engine.store.multisigRecord? id = none ∧ result = .error (.criterionNotFound .multisig id) s) ∨
    (∃ c fault c' after, s.engine.store.multisigRecord? id = some c ∧
      (applySignature signer proof s.engine.config.maxProofDepth).run.run c = (.error fault, c') ∧
      result = .error fault after ∧ after.engine = s.engine) ∨
    (∃ c status c' after, s.engine.store.multisigRecord? id = some c ∧
      (applySignature signer proof s.engine.config.maxProofDepth).run.run c = (.ok status, c') ∧
      result = .ok status after ∧
      after.engine = { s.engine with store := s.engine.store.putCriterion (.multisig c') }) := by
  unfold sign at ran
  simp only [EStateM.run_bind, run_store] at ran
  cases found : s.engine.store.multisigRecord? id with
  | none =>
    simp only [found, EStateM.run_bind, run_throw] at ran
    exact .inl ⟨rfl, ran.symm⟩
  | some c =>
    simp only [found, EStateM.run_bind, EStateM.run_pure, run_config] at ran
    split at ran
    · rename_i fault c' signing
      simp only [EStateM.run_bind, run_emit, run_throw] at ran
      exact .inr (.inl ⟨c, fault, c', _, rfl, signing, ran.symm, rfl⟩)
    · rename_i status c' signing
      simp only [EStateM.run_bind, run_store, run_setStore, run_emit, EStateM.run_pure] at ran
      exact .inr (.inr ⟨c, status, c', _, rfl, signing, ran.symm, rfl⟩)

end Escrow.Action
namespace Escrow

theorem Engine.start_eq_ok {config : Config} {st : Store} {e : Engine}
    (started : Engine.start config st = .ok e) :
    e = { config, store := { st with config? := some config } } ∧
      ∀ stored, st.config? = some stored → 0 < st.nextLockId → stored.custody = config.custody := by
  unfold Engine.start at started
  cases validating : config.validate with
  | error fault => simp [validating, bind, Except.bind] at started
  | ok u =>
    simp only [validating, bind, Except.bind] at started
    cases storedConfig : st.config? with
    | none =>
      simp only [storedConfig, pure, Except.pure, Except.ok.injEq] at started
      exact ⟨started.symm, fun _ absent => by cases absent⟩
    | some stored =>
      simp only [storedConfig] at started
      by_cases moved : stored.custody ≠ config.custody ∧ 0 < st.nextLockId
      · simp [moved, throw, throwThe, MonadExceptOf.throw] at started
      · simp only [moved, if_false, pure, Except.pure, Except.ok.injEq] at started
        refine ⟨started.symm, fun other same locked => ?_⟩
        cases same
        exact Classical.byContradiction fun differ => moved ⟨differ, locked⟩

namespace Action

/-- A reopening either leaves the engine, or starts it afresh over its store with the given
settings or, given none, the stored ones. -/
theorem engine_reopen (config : Option Config) (s : Session) :
    (sessionAfter ((reopen config).run s)).engine = s.engine ∨
    ∃ c, (config = some c ∨ config = none ∧ s.engine.store.config?.getD {} = c) ∧
      Engine.start c s.engine.store = .ok (sessionAfter ((reopen config).run s)).engine := by
  cases config with
  | some c =>
    cases started : Engine.start c s.engine.store with
    | error fault => exact .inl (by simp [reopen, EStateM.run, started])
    | ok e => exact .inr ⟨c, .inl rfl, by simp [reopen, EStateM.run, started]⟩
  | none =>
    -- resuming starts with the stored settings, or the defaults when none are stored
    have resumed : (Engine.resume s.engine.store).2 = Engine.start (s.engine.store.config?.getD {}) s.engine.store := by
      unfold Engine.resume
      cases s.engine.store.config? <;> rfl
    cases started : Engine.start (s.engine.store.config?.getD {}) s.engine.store with
    | error fault => exact .inl (by simp [reopen, EStateM.run, resumed, started])
    | ok e => exact .inr ⟨_, .inr ⟨rfl, rfl⟩, by simp [reopen, EStateM.run, resumed, started]⟩

end Action

end Escrow
namespace Escrow.Action

theorem resetsSettings_setFeeWallet (wallet : Option Address) : ResetsSettings (setFeeWallet wallet) :=
  (resetsSettings_updateConfig _ fun _ _ changed => by cases changed; rfl).bind
    fun _ => keepsEngine_emit _ _ _ _

theorem resetsSettings_setFeeToken (token : Option Address) : ResetsSettings (setFeeToken token) :=
  (resetsSettings_updateConfig _ fun _ _ changed => by cases changed; rfl).bind
    fun _ => keepsEngine_emit _ _ _ _

theorem resetsSettings_setFeeAmount (amount : Nat) : ResetsSettings (setFeeAmount amount) :=
  (resetsSettings_updateConfig _ fun _ _ changed => by cases changed; rfl).bind
    fun _ => keepsEngine_emit _ _ _ _

theorem resetsSettings_setFeePercent (percent : Nat) : ResetsSettings (setFeePercent percent) := by
  refine (resetsSettings_updateConfig _ fun c next changed => ?_).bind fun _ => keepsEngine_emit _ _ _ _
  cases setting : c.fee.setFeePercent percent with
  | error fault => simp [setting, bind, Except.bind] at changed
  | ok fee =>
    simp only [setting, bind, Except.bind, pure, Except.pure, Except.ok.injEq] at changed
    rw [← changed]

theorem resetsSettings_toggleFeeType (token : Address) : ResetsSettings (toggleFeeType token) :=
  (resetsSettings_updateConfig _ fun _ _ changed => by cases changed; rfl).bind fun _ =>
    keepsEngine_config.bind fun _ => (keepsEngine_emit _ _ _ _).bind fun _ => keepsEngine_pure _

theorem resetsSettings_toggleBurnSink (sink : Address) : ResetsSettings (toggleBurnSink sink) :=
  (resetsSettings_updateConfig _ fun _ _ changed => by cases changed; rfl).bind fun _ =>
    keepsEngine_config.bind fun _ => (keepsEngine_emit _ _ _ _).bind fun _ => keepsEngine_pure _

end Escrow.Action
