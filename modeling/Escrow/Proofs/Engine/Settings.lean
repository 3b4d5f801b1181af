import Escrow.Proofs.Engine.Fee
import Escrow.Proofs.Engine.Signing

/-! Settings along a run.

A change of settings is made on a copy, the copy is validated, and only then is it stored and put
in force. So a refused change leaves the session exactly as it was (`FailsCleanly`), and a
toggle, whose copy differs from valid settings only in one set, always goes through and flips
the membership of exactly the address it names (`AddressSet.contains_toggle`).

What every operation can do to the settings is said once (`SettingsStep`): keep them, put in
force and store settings with the same custody, or start the engine afresh over its store. From
it, along every run the settings in force are the stored ones, and once a lock has been made the
custody never changes, whatever settings a reopening is given.
-/

set_option autoImplicit false

namespace Escrow

theorem any_insertSorted (a : Address) (v : Nat) :
    ∀ l : List Address, (insertSorted a l).any (·.val == v) = (a.val == v || l.any (·.val == v))
  | [] => by simp [insertSorted]
  | b :: rest => by
    unfold insertSorted
    split
    · rfl
    · split
      -- an address already held is kept in place of the new one, which has the same value
      · rename_i same
        simp [same]
      · simp only [List.any_cons, any_insertSorted a v rest]
        exact Bool.or_left_comm _ _ _

namespace AddressSet

def toggle (s : AddressSet) (a : Address) : AddressSet :=
  if s.contains a then s.erase a else s.insert a

theorem contains_insert (s : AddressSet) (a b : Address) :
    (s.insert a).contains b = (a.val == b.val || s.contains b) :=
  any_insertSorted a b.val s.toList

theorem contains_erase (s : AddressSet) (a b : Address) :
    (s.erase a).contains b = (a.val != b.val && s.contains b) := by
  simp only [contains, erase, List.any_filter]
  induction s.toList with
  | nil => simp
  | cons c rest ih =>
    simp only [List.any_cons, ih]
    by_cases same : c.val = b.val
    · by_cases removed : a.val = b.val
      · simp [same, removed]
      · have kept : (b.val != a.val) = true := bne_iff_ne.mpr (Ne.symm removed)
        have differ : (a.val != b.val) = true := bne_iff_ne.mpr removed
        simp [same, kept, differ]
    · have other : (c.val == b.val) = false := beq_eq_false_iff_ne.mpr same
      simp [other]

theorem contains_toggle (s : AddressSet) (a b : Address) :
    (s.toggle a).contains b = if b = a then !s.contains a else s.contains b := by
  unfold toggle
  by_cases same : b = a
  · subst same
    cases held : s.contains b <;> simp [contains_insert, contains_erase, held]
  · have differ : a.val ≠ b.val := fun equal => same (Address.eq_of_val_eq equal).symm
    split <;> simp [contains_insert, contains_erase, differ]

theorem contains_toggle_toggle (s : AddressSet) (a b : Address) :
    ((s.toggle a).toggle a).contains b = s.contains b := by
  rw [contains_toggle]
  by_cases same : b = a
  · subst same
    rw [if_pos rfl, contains_toggle, if_pos rfl, Bool.not_not]
  · rw [if_neg same, contains_toggle, if_neg same]

end AddressSet

theorem FeeSchedule.toggleMode_eq (s : FeeSchedule) (token : Address) :
    s.toggleMode token = { s with percentTokens := s.percentTokens.toggle token } := by
  unfold toggleMode AddressSet.toggle
  split <;> rfl

namespace Action

def FailsCleanly {α : Type} (action : Action α) : Prop :=
  ∀ s fault after, action.run s = .error fault after → after = s

theorem FailsCleanly.bind {α β : Type} {first : Action α} {next : α → Action β}
    (clean : FailsCleanly first) (logsNext : ∀ value, LogsOnly (next value)) :
    FailsCleanly (first >>= next) := by
  intro s fault after ran
  rw [EStateM.run_bind] at ran
  cases ranFirst : first.run s with
  | ok value mid =>
    rw [ranFirst] at ran
    exact absurd ran ((logsNext value).run_ne_error mid after fault)
  | error refusal mid =>
    rw [ranFirst] at ran
    cases ran
    exact clean s fault after ranFirst

theorem logsOnly_config : LogsOnly config :=
  fun s => ⟨s.engine.config, s.log, rfl⟩

theorem failsCleanly_updateConfig (change : Config → Except LockError Config) :
    FailsCleanly (updateConfig change) := by
  intro s fault after ran
  cases changing : change s.engine.config with
  | error refusal =>
    simp only [updateConfig, EStateM.run_bind, run_config, changing, run_lift_error] at ran
    cases ran
    rfl
  | ok next =>
    cases validating : next.validate with
    | error refusal =>
      simp only [updateConfig, EStateM.run_bind, run_config, changing, run_lift_ok, validating] at ran
      cases ran
      rfl
    | ok u =>
      simp only [updateConfig, EStateM.run_bind, run_config, changing, run_lift_ok, validating] at ran
      cases ran

theorem run_updateConfig_eq_ok (change : Config → Except LockError Config) {s : Session}
    {next : Config} (changing : change s.engine.config = .ok next) (valid : next.validate = .ok ()) :
    (updateConfig change).run s =
      .ok () { s with engine := { config := next, store := { s.engine.store with config? := some next } } } := by
  simp only [updateConfig, EStateM.run_bind, run_config, changing, run_lift_ok, valid]
  rfl

theorem failsCleanly_setFeeWallet (wallet : Option Address) : FailsCleanly (setFeeWallet wallet) :=
  (failsCleanly_updateConfig _).bind fun _ => logsOnly_emit _ _ _ _

theorem failsCleanly_setFeeToken (token : Option Address) : FailsCleanly (setFeeToken token) :=
  (failsCleanly_updateConfig _).bind fun _ => logsOnly_emit _ _ _ _

theorem failsCleanly_setFeeAmount (amount : Nat) : FailsCleanly (setFeeAmount amount) :=
  (failsCleanly_updateConfig _).bind fun _ => logsOnly_emit _ _ _ _

theorem failsCleanly_setFeePercent (percent : Nat) : FailsCleanly (setFeePercent percent) :=
  (failsCleanly_updateConfig _).bind fun _ => logsOnly_emit _ _ _ _

theorem failsCleanly_toggleFeeType (token : Address) : FailsCleanly (toggleFeeType token) :=
  (failsCleanly_updateConfig _).bind fun _ =>
    logsOnly_config.bind fun _ => (logsOnly_emit _ _ _ _).bind fun _ => logsOnly_pure _

theorem failsCleanly_toggleBurnSink (sink : Address) : FailsCleanly (toggleBurnSink sink) :=
  (failsCleanly_updateConfig _).bind fun _ =>
    logsOnly_config.bind fun _ => (logsOnly_emit _ _ _ _).bind fun _ => logsOnly_pure _

/-- On valid settings a fee-mode toggle goes through: the token is toggled in the percent set,
the result stored, and the token's new mode given back. A toggle changes nothing validation
reads, so the copy is valid too. -/
theorem run_toggleFeeType (token : Address) {s : Session} (valid : s.engine.config.validate = .ok ()) :
    ∃ log, (toggleFeeType token).run s =
      let next : Config := { s.engine.config with
        fee := { s.engine.config.fee with percentTokens := s.engine.config.fee.percentTokens.toggle token } }
      .ok (next.fee.modeFor token)
        { engine := { config := next, store := { s.engine.store with config? := some next } }, log } := by
  have stillValid : ({ s.engine.config with
      fee := { s.engine.config.fee with percentTokens := s.engine.config.fee.percentTokens.toggle token } } :
        Config).validate = .ok () := valid
  unfold toggleFeeType
  rw [EStateM.run_bind, run_updateConfig_eq_ok (fun c => .ok { c with fee := c.fee.toggleMode token })
    (by dsimp only; rw [FeeSchedule.toggleMode_eq]) stillValid]
  simp only [EStateM.run_bind, run_config, run_emit, EStateM.run_pure]
  exact ⟨_, rfl⟩

theorem run_toggleBurnSink (sink : Address) {s : Session} (valid : s.engine.config.validate = .ok ()) :
    ∃ log, (toggleBurnSink sink).run s =
      let next : Config := { s.engine.config with burnSinks := s.engine.config.burnSinks.toggle sink }
      .ok (next.burnSinks.contains sink)
        { engine := { config := next, store := { s.engine.store with config? := some next } }, log } := by
  have stillValid : ({ s.engine.config with burnSinks := s.engine.config.burnSinks.toggle sink } :
      Config).validate = .ok () := valid
  unfold toggleBurnSink
  rw [EStateM.run_bind, run_updateConfig_eq_ok (fun c => .ok { c with
    burnSinks := if c.burnSinks.contains sink then c.burnSinks.erase sink else c.burnSinks.insert sink })
    rfl stillValid]
  simp only [EStateM.run_bind, run_config, run_emit, EStateM.run_pure]
  exact ⟨_, rfl⟩

theorem toggleFeeType_eq_ok (token : Address) {s : Session} (valid : s.engine.config.validate = .ok ()) :
    ∃ mode after, (toggleFeeType token).run s = .ok mode after ∧
      mode = after.engine.config.fee.modeFor token ∧
      after.engine.config.fee.percentTokens = s.engine.config.fee.percentTokens.toggle token ∧
      after.engine.config.validate = .ok () := by
  obtain ⟨_, ran⟩ := run_toggleFeeType token valid
  exact ⟨_, _, ran, rfl, rfl, valid⟩

theorem toggleBurnSink_eq_ok (sink : Address) {s : Session} (valid : s.engine.config.validate = .ok ()) :
    ∃ authorised after, (toggleBurnSink sink).run s = .ok authorised after ∧
      authorised = after.engine.config.burnSinks.contains sink ∧
      after.engine.config.burnSinks = s.engine.config.burnSinks.toggle sink ∧
      after.engine.config.validate = .ok () := by
  obtain ⟨_, ran⟩ := run_toggleBurnSink sink valid
  exact ⟨_, _, ran, rfl, rfl, valid⟩

/-- A fee-mode toggle on valid settings flips the token's membership of the percent set and no
other, gives back the token's new mode, and a second toggle gives the set back. -/
theorem toggleFeeType_flips (s : Session) (token : Address) (valid : s.engine.config.validate = .ok ()) :
    ∃ after, (toggleFeeType token).run s = .ok (after.engine.config.fee.modeFor token) after ∧
      (∀ a, after.engine.config.fee.percentTokens.contains a =
        if a = token then !s.engine.config.fee.percentTokens.contains token
        else s.engine.config.fee.percentTokens.contains a) ∧
      ∃ mode again, (toggleFeeType token).run after = .ok mode again ∧
        ∀ a, again.engine.config.fee.percentTokens.contains a = s.engine.config.fee.percentTokens.contains a := by
  obtain ⟨_, after, ran, rfl, toggled, stillValid⟩ := toggleFeeType_eq_ok token valid
  obtain ⟨_, again, ranAgain, -, toggledAgain, -⟩ := toggleFeeType_eq_ok token stillValid
  refine ⟨after, ran, fun a => ?_, _, again, ranAgain, fun a => ?_⟩
  · rw [toggled, AddressSet.contains_toggle]
  · rw [toggledAgain, toggled, AddressSet.contains_toggle_toggle]

theorem toggleBurnSink_flips (s : Session) (sink : Address) (valid : s.engine.config.validate = .ok ()) :
    ∃ after, (toggleBurnSink sink).run s = .ok (after.engine.config.burnSinks.contains sink) after ∧
      (∀ a, after.engine.config.burnSinks.contains a =
        if a = sink then !s.engine.config.burnSinks.contains sink else s.engine.config.burnSinks.contains a) ∧
      ∃ authorised again, (toggleBurnSink sink).run after = .ok authorised again ∧
        ∀ a, again.engine.config.burnSinks.contains a = s.engine.config.burnSinks.contains a := by
  obtain ⟨_, after, ran, rfl, toggled, stillValid⟩ := toggleBurnSink_eq_ok sink valid
  obtain ⟨_, again, ranAgain, -, toggledAgain, -⟩ := toggleBurnSink_eq_ok sink stillValid
  refine ⟨after, ran, fun a => ?_, _, again, ranAgain, fun a => ?_⟩
  · rw [toggled, AddressSet.contains_toggle]
  · rw [toggledAgain, toggled, AddressSet.contains_toggle_toggle]

end Action

/-! ### What a step does to the settings -/

/-- What one step can do to the settings: keep those in force and stored, with the lock counter
not going back; put in force and store settings with the same custody; or start the engine
afresh over its store. -/
inductive SettingsStep (e : Engine) : Engine → Prop
  | keep {after : Engine} (config : after.config = e.config)
      (stored : after.store.config? = e.store.config?)
      (counted : e.store.nextLockId ≤ after.store.nextLockId) : SettingsStep e after
  | reset (next : Config) (custody : next.custody = e.config.custody) :
      SettingsStep e { config := next, store := { e.store with config? := some next } }
  | restart {after : Engine} (c : Config) (started : Engine.start c e.store = .ok after) :
      SettingsStep e after

namespace SettingsStep

variable {e after : Engine}

theorem refl (e : Engine) : SettingsStep e e :=
  .keep rfl rfl (Nat.le_refl _)

theorem stored (step : SettingsStep e after) (stored : e.store.config? = some e.config) :
    after.store.config? = some after.config := by
  cases step with
  | keep config same _ =>
    rw [same, config]
    exact stored
  | reset next _ => rfl
  | restart c started =>
    obtain ⟨rfl, -⟩ := Engine.start_eq_ok started
    rfl

theorem nextLockId_le (step : SettingsStep e after) : e.store.nextLockId ≤ after.store.nextLockId := by
  cases step with
  | keep _ _ counted => exact counted
  | reset _ _ => exact Nat.le_refl _
  | restart c started =>
    obtain ⟨rfl, -⟩ := Engine.start_eq_ok started
    exact Nat.le_refl _

theorem custody_eq (step : SettingsStep e after) (stored : e.store.config? = some e.config)
    (locked : 0 < e.store.nextLockId) : after.config.custody = e.config.custody := by
  cases step with
  | keep config _ _ => rw [config]
  | reset next custody => exact custody
  | restart c started =>
    obtain ⟨rfl, fixed⟩ := Engine.start_eq_ok started
    exact (fixed e.config stored locked).symm

end SettingsStep

namespace Action

def StepsSettings {α : Type} (action : Action α) : Prop :=
  ∀ s, SettingsStep s.engine (sessionAfter (action.run s)).engine

theorem KeepsEngine.stepsSettings {α : Type} {action : Action α} (keeps : KeepsEngine action) :
    StepsSettings action := fun s => by
  rw [keeps s]
  exact .refl _

theorem ReplacesLedger.stepsSettings {α : Type} {action : Action α}
    {change : Ledger → Except LockError Ledger} (replaces : ReplacesLedger action change) :
    StepsSettings action := fun s => by
  rw [replaces s]
  split <;> exact .keep rfl rfl (Nat.le_refl _)

theorem ResetsSettings.stepsSettings {α : Type} {action : Action α} (resets : ResetsSettings action) :
    StepsSettings action := fun s => by
  rcases resets s with same | ⟨next, custody, changed⟩
  · rw [same]
    exact .refl _
  · rw [changed]
    exact .reset next custody

theorem stepsSettings_create (caller : Address) (req : LockRequest) (now : Int) :
    StepsSettings (create caller req now) := by
  intro s
  rcases run_create_cases (show (create caller req now).run s = _ from rfl) with
    ⟨fault, refused⟩ | ⟨_, _, _, after, -, -, -, refused, restored⟩ |
      ⟨_, _, _, _, _, _, _, after, -, -, -, -, -, -, accepted, written⟩
  · rw [refused]
    exact .refl _
  · rw [refused, sessionAfter_error, restored]
    exact .keep rfl rfl (Nat.le_refl _)
  -- a lock written moves the counter on by one
  · rw [accepted, sessionAfter_ok, written]
    exact .keep rfl (by simp) (Nat.le_succ _)

theorem stepsSettings_unlockWith (caller : Address) (id : Nat) (recipient : Address)
    (mode : UnlockMode) (now : Int) : StepsSettings (unlockWith caller id recipient mode now) := by
  intro s
  rcases run_unlockWith_cases (show (unlockWith caller id recipient mode now).run s = _ from rfl) with
    ⟨_, after, refused, same, -⟩ | ⟨_, _, _, after, -, -, -, -, -, -, -, refused, restored⟩ |
      ⟨_, _, _, _, after, -, -, -, -, -, -, -, -, accepted, written⟩
  · rw [refused, sessionAfter_error, same]
    exact .refl _
  · rw [refused, sessionAfter_error, restored]
    exact .keep rfl rfl (Nat.le_refl _)
  · rw [accepted, sessionAfter_ok, written]
    exact .keep rfl rfl (Nat.le_refl _)

theorem stepsSettings_unlock (caller : Address) (id : Nat) (recipient : Address) (mode : Nat)
    (data : List UInt8) (now : Int) : StepsSettings (unlock caller id recipient mode data now) := by
  intro s
  rw [run_unlock]
  cases UnlockMode.decode mode data with
  | ok decoded => exact stepsSettings_unlockWith caller id recipient decoded now s
  | error fault => exact .refl _

theorem stepsSettings_sign (signer : Address) (id : Nat) (proof : List Digest) :
    StepsSettings (sign signer id proof) := by
  intro s
  rcases engine_sign signer id proof s with same | ⟨record, signed⟩
  · rw [same]
    exact .refl _
  · rw [signed]
    exact .keep rfl rfl (Nat.le_refl _)

theorem stepsSettings_reopen (config : Option Config) : StepsSettings (reopen config) := by
  intro s
  rcases engine_reopen config s with same | ⟨c, -, started⟩
  · rw [same]
    exact .refl _
  · exact .restart c started

end Action

open Escrow.Action

theorem Operation.settingsStep (op : Operation) (s : Session) :
    SettingsStep s.engine (op.perform s).engine := by
  cases op with
  | create caller req now => exact stepsSettings_create caller req now s
  | unlock caller id recipient mode data now => exact stepsSettings_unlock caller id recipient mode data now s
  | unlockWith caller id recipient mode now => exact stepsSettings_unlockWith caller id recipient mode now s
  | sign signer id proof => exact stepsSettings_sign signer id proof s
  | checkUnlock id now => exact (keepsEngine_checkUnlock id now).stepsSettings s
  | setFeeWallet wallet => exact (resetsSettings_setFeeWallet wallet).stepsSettings s
  | setFeeToken token => exact (resetsSettings_setFeeToken token).stepsSettings s
  | setFeeAmount amount => exact (resetsSettings_setFeeAmount amount).stepsSettings s
  | setFeePercent percent => exact (resetsSettings_setFeePercent percent).stepsSettings s
  | toggleFeeType token => exact (resetsSettings_toggleFeeType token).stepsSettings s
  | toggleBurnSink sink => exact (resetsSettings_toggleBurnSink sink).stepsSettings s
  | reopen config => exact stepsSettings_reopen config s
  | registerToken token symbol decimals =>
    exact (replacesLedger_registerToken token symbol decimals).stepsSettings s
  | mint token receiver amount => exact (replacesLedger_mint token receiver amount).stepsSettings s
  | approve token owner spender amount =>
    exact (replacesLedger_approve token owner spender amount).stepsSettings s
  | transfer token sender receiver amount =>
    exact (replacesLedger_transfer token sender receiver amount).stepsSettings s
  | transferFrom token spender owner receiver amount =>
    exact (replacesLedger_transferFrom token spender owner receiver amount).stepsSettings s
  | setPrice token price => exact (replacesLedger_setPrice token price).stepsSettings s

theorem stored_of_reachable {allowed : Operation → Session → Prop} {s : Session}
    (reached : Reachable allowed s) : s.engine.store.config? = some s.engine.config := by
  induction reached with
  | start config started =>
    obtain ⟨rfl, -⟩ := Engine.start_eq_ok started
    rfl
  | step _ _ stored => exact (Operation.settingsStep _ _).stored stored

/-- From stored settings and a lock made, no sequence of operations moves the custody. The
induction carries the stored settings and a positive lock counter from step to step. -/
theorem custody_performAll : ∀ (ops : List Operation) {s : Session},
    s.engine.store.config? = some s.engine.config → 0 < s.engine.store.nextLockId →
    (Operation.performAll ops s).engine.config.custody = s.engine.config.custody
  | [], _, _, _ => rfl
  | op :: rest, s, stored, locked => by
    have step := Operation.settingsStep op s
    have later := custody_performAll rest (step.stored stored)
      (Nat.lt_of_lt_of_le locked step.nextLockId_le)
    exact later.trans (step.custody_eq stored locked)

/-- The settings stay valid, stored, and changed all or nothing. Along every run the settings in
force pass validation and are the stored ones. A refused setter leaves the session as it was.
On valid settings each toggle flips exactly the address it names, gives back its new membership,
and a second toggle gives the set back. Once a lock has been made, no sequence of operations,
reopenings with any settings included, moves the custody. -/
theorem settings_valid_stored_atomic :
    (∀ (allowed : Operation → Session → Prop) s, Reachable allowed s →
      s.engine.config.validate = .ok () ∧ s.engine.store.config? = some s.engine.config) ∧
    ((∀ wallet, FailsCleanly (setFeeWallet wallet)) ∧ (∀ token, FailsCleanly (setFeeToken token)) ∧
      (∀ amount, FailsCleanly (setFeeAmount amount)) ∧
      (∀ percent, FailsCleanly (setFeePercent percent)) ∧
      (∀ token, FailsCleanly (toggleFeeType token)) ∧ (∀ sink, FailsCleanly (toggleBurnSink sink))) ∧
    (∀ (s : Session) token, s.engine.config.validate = .ok () →
      ∃ after, (toggleFeeType token).run s = .ok (after.engine.config.fee.modeFor token) after ∧
        (∀ a, after.engine.config.fee.percentTokens.contains a =
          if a = token then !s.engine.config.fee.percentTokens.contains token
          else s.engine.config.fee.percentTokens.contains a) ∧
        ∃ mode again, (toggleFeeType token).run after = .ok mode again ∧
          ∀ a, again.engine.config.fee.percentTokens.contains a =
            s.engine.config.fee.percentTokens.contains a) ∧
    (∀ (s : Session) sink, s.engine.config.validate = .ok () →
      ∃ after, (toggleBurnSink sink).run s = .ok (after.engine.config.burnSinks.contains sink) after ∧
        (∀ a, after.engine.config.burnSinks.contains a =
          if a = sink then !s.engine.config.burnSinks.contains sink
          else s.engine.config.burnSinks.contains a) ∧
        ∃ authorised again, (toggleBurnSink sink).run after = .ok authorised again ∧
          ∀ a, again.engine.config.burnSinks.contains a = s.engine.config.burnSinks.contains a) ∧
    (∀ (allowed : Operation → Session → Prop) s, Reachable allowed s → 0 < s.engine.store.nextLockId →
      ∀ ops, (Operation.performAll ops s).engine.config.custody = s.engine.config.custody) :=
  ⟨fun _ _ reached => ⟨validate_of_reachable reached, stored_of_reachable reached⟩,
    ⟨failsCleanly_setFeeWallet, failsCleanly_setFeeToken, failsCleanly_setFeeAmount,
      failsCleanly_setFeePercent, failsCleanly_toggleFeeType, failsCleanly_toggleBurnSink⟩,
    fun s token valid => toggleFeeType_flips s token valid,
    fun s sink valid => toggleBurnSink_flips s sink valid,
    fun _ _ reached locked ops => custody_performAll ops (stored_of_reachable reached) locked⟩

end Escrow
