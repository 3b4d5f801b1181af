import Escrow.Engine.Create

/-! Running engine actions step by step.

An action runs on a session: the engine and the log. These lemmas give each primitive action's
run in closed form, so that a longer action is opened one bind at a time by `simp` with
`EStateM.run_bind`. Logging never fails and never touches the engine (`LogsOnly`), which is how
the log lines a successful operation writes after its last change are set aside.
-/

set_option autoImplicit false

namespace Escrow

namespace Store

variable (st : Store)

@[simp]
theorem ledger_putLock (l : Lock) : (st.putLock l).ledger = st.ledger := rfl

@[simp]
theorem locks_putLock (l : Lock) : (st.putLock l).locks = st.locks.insert l.id l := rfl

@[simp]
theorem config?_putLock (l : Lock) : (st.putLock l).config? = st.config? := rfl

@[simp]
theorem nextLockId_putLock (l : Lock) : (st.putLock l).nextLockId = st.nextLockId := rfl

@[simp]
theorem ownerIndex_putLock (l : Lock) :
    (st.putLock l).ownerIndex = st.ownerIndex.insert (ownerLockKey l.owner l.id) () := rfl

@[simp]
theorem ledger_putCriterion (c : CriterionRecord) : (st.putCriterion c).ledger = st.ledger := rfl

@[simp]
theorem locks_putCriterion (c : CriterionRecord) : (st.putCriterion c).locks = st.locks := rfl

@[simp]
theorem config?_putCriterion (c : CriterionRecord) : (st.putCriterion c).config? = st.config? := rfl

@[simp]
theorem nextLockId_putCriterion (c : CriterionRecord) :
    (st.putCriterion c).nextLockId = st.nextLockId := rfl

@[simp]
theorem ownerIndex_putCriterion (c : CriterionRecord) :
    (st.putCriterion c).ownerIndex = st.ownerIndex := rfl

@[simp]
theorem foldl_putCriterion (records : List CriterionRecord) :
    records.foldl putCriterion st =
      { st with criteria := records.foldl (fun t c => t.insert c.id c) st.criteria } := by
  induction records generalizing st with
  | nil => rfl
  | cons c rest ih => exact ih (st.putCriterion c)

end Store

namespace Action

@[simp]
theorem run_engine (s : Session) : engine.run s = .ok s.engine s := rfl

@[simp]
theorem run_config (s : Session) : config.run s = .ok s.engine.config s := rfl

@[simp]
theorem run_store (s : Session) : store.run s = .ok s.engine.store s := rfl

@[simp]
theorem run_setLedger (l : Ledger) (s : Session) :
    (setLedger l).run s =
      .ok () { s with engine := { s.engine with store := { s.engine.store with ledger := l } } } := rfl

@[simp]
theorem run_setStore (st : Store) (s : Session) :
    (setStore st).run s = .ok () { s with engine := { s.engine with store := st } } := rfl

@[simp]
theorem run_emit (level : Level) (component : Component) (message : String)
    (fields : List (String × String)) (s : Session) :
    (emit level component message fields).run s =
      .ok () { s with log := s.log.push { level, component, message, fields } } := rfl

@[simp]
theorem run_throw {α : Type} (fault : LockError) (s : Session) :
    (throw fault : Action α).run s = .error fault s := rfl

@[simp]
theorem run_lift_ok {α : Type} (a : α) (s : Session) : (lift (.ok a)).run s = .ok a s := rfl

@[simp]
theorem run_lift_error {α : Type} (fault : LockError) (s : Session) :
    (lift (.error fault : Except LockError α)).run s = .error fault s := rfl

theorem run_lift_eq_ok {α : Type} {r : Except LockError α} {a : α} {s after : Session} :
    (lift r).run s = .ok a after ↔ r = .ok a ∧ s = after := by
  cases r with
  | ok b => simp
  | error fault => simp

theorem run_lift_eq_error {α : Type} {r : Except LockError α} {fault : LockError}
    {s after : Session} : (lift r).run s = .error fault after ↔ r = .error fault ∧ s = after := by
  cases r with
  | ok b => simp
  | error other => simp

def LogsOnly {α : Type} (action : Action α) : Prop :=
  ∀ s : Session, ∃ value log, action.run s = .ok value { s with log := log }

theorem logsOnly_pure {α : Type} (value : α) : LogsOnly (pure value : Action α) :=
  fun s => ⟨value, s.log, rfl⟩

theorem logsOnly_emit (level : Level) (component : Component) (message : String)
    (fields : List (String × String)) : LogsOnly (emit level component message fields) :=
  fun _ => ⟨(), _, rfl⟩

theorem LogsOnly.bind {α β : Type} {first : Action α} {next : α → Action β} (logsFirst : LogsOnly first)
    (logsNext : ∀ value, LogsOnly (next value)) : LogsOnly (first >>= next) := by
  intro s
  obtain ⟨value, log, ranFirst⟩ := logsFirst s
  obtain ⟨result, log', ranNext⟩ := logsNext value { s with log := log }
  exact ⟨result, log', by simp [EStateM.run_bind, ranFirst, ranNext]⟩

theorem logsOnly_forIn {α : Type} (items : List α)
    (body : α → PUnit → Action (ForInStep PUnit)) (logsBody : ∀ item state, LogsOnly (body item state)) :
    LogsOnly (forIn items PUnit.unit body) := by
  induction items with
  | nil => exact logsOnly_pure _
  | cons item rest ih =>
    intro s
    obtain ⟨step, log, ranItem⟩ := logsBody item PUnit.unit s
    rw [List.forIn_cons]
    -- a pass either stops the loop or hands the unit value on to the rest
    cases step with
    | done value => exact ⟨value, log, by simp [EStateM.run_bind, ranItem]⟩
    | yield value =>
      cases value
      obtain ⟨value, log', ranRest⟩ := ih { s with log := log }
      exact ⟨value, log', by simp [EStateM.run_bind, ranItem, ranRest]⟩

theorem LogsOnly.engine_eq {α : Type} {action : Action α} (logs : LogsOnly action) {s after : Session}
    {value : α} (ran : action.run s = .ok value after) : after.engine = s.engine := by
  obtain ⟨_, log, ranLogs⟩ := logs s
  rw [ranLogs] at ran
  cases ran
  rfl

theorem LogsOnly.run_ne_error {α : Type} {action : Action α} (logs : LogsOnly action) (s after : Session)
    (fault : LockError) : action.run s ≠ .error fault after := by
  obtain ⟨_, log, ranLogs⟩ := logs s
  rw [ranLogs]
  simp

def sessionAfter {α : Type} : EStateM.Result LockError Session α → Session
  | .ok _ s => s
  | .error _ s => s

@[simp]
theorem sessionAfter_ok {α : Type} (value : α) (s : Session) : sessionAfter (.ok value s) = s := rfl

@[simp]
theorem sessionAfter_error {α : Type} (fault : LockError) (s : Session) :
    sessionAfter (.error fault s : EStateM.Result LockError Session α) = s := rfl

/-- An action that, whether it succeeds or is refused, leaves the engine as it found it: it may
read the engine and log, nothing else. -/
def KeepsEngine {α : Type} (action : Action α) : Prop :=
  ∀ s, (sessionAfter (action.run s)).engine = s.engine

theorem LogsOnly.keepsEngine {α : Type} {action : Action α} (logs : LogsOnly action) :
    KeepsEngine action := by
  intro s
  obtain ⟨_, log, ran⟩ := logs s
  rw [ran]
  rfl

theorem keepsEngine_pure {α : Type} (value : α) : KeepsEngine (pure value : Action α) :=
  (logsOnly_pure value).keepsEngine

theorem keepsEngine_throw {α : Type} (fault : LockError) : KeepsEngine (throw fault : Action α) :=
  fun _ => rfl

theorem keepsEngine_lift {α : Type} (r : Except LockError α) : KeepsEngine (lift r) := by
  cases r with
  | ok a => exact keepsEngine_pure a
  | error fault => exact keepsEngine_throw fault

theorem keepsEngine_emit (level : Level) (component : Component) (message : String)
    (fields : List (String × String)) : KeepsEngine (emit level component message fields) :=
  (logsOnly_emit level component message fields).keepsEngine

theorem keepsEngine_engine : KeepsEngine engine := fun _ => rfl

theorem keepsEngine_config : KeepsEngine config := fun _ => rfl

theorem engine_sessionAfter_bind {α β : Type} (first : Action α) {next : α → Action β}
    (keepsNext : ∀ value, KeepsEngine (next value)) (s : Session) :
    (sessionAfter ((first >>= next).run s)).engine = (sessionAfter (first.run s)).engine := by
  rw [EStateM.run_bind]
  cases first.run s with
  | ok value after => exact keepsNext value after
  | error fault after => rfl

theorem KeepsEngine.bind {α β : Type} {first : Action α} {next : α → Action β}
    (keepsFirst : KeepsEngine first) (keepsNext : ∀ value, KeepsEngine (next value)) :
    KeepsEngine (first >>= next) := fun s =>
  (engine_sessionAfter_bind first keepsNext s).trans (keepsFirst s)

theorem run_refund (token recipient : Address) (amount : Nat) (s : Session) :
    ∃ log, (refund token recipient amount).run s =
      .ok () { s with
        engine := { s.engine with store := { s.engine.store with
          ledger := match s.engine.store.ledger.transfer token s.engine.config.custody recipient amount with
            | .ok moved => moved
            | .error _ => s.engine.store.ledger } },
        log := log } := by
  cases moving : s.engine.store.ledger.transfer token s.engine.config.custody recipient amount with
  | ok moved => exact ⟨_, by simp [refund, EStateM.run_bind, moving]; rfl⟩
  | error fault => exact ⟨_, by simp [refund, EStateM.run_bind, moving]; rfl⟩

end Action

end Escrow
