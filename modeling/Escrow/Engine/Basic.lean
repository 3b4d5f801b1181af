import Escrow.Store
import Escrow.Log

/-!
The lock engine: the settings in force and the stored state. An engine operation is an `Action`:
it reads and changes the engine, writes log lines, and may stop at a fault. What an action did
before its fault stays done, as in a store without transactions; operations that must undo a step
do so themselves.

An engine starts from settings that pass validation; settings that move custody are refused once
a lock exists, since locks do not record the custody that holds them.
-/

set_option autoImplicit false

namespace Escrow

def timestampMax : Int := Int.ofNat (Nat.pow 2 63) - 1

/-- The settings in force and the stored state. -/
structure Engine where
  config : Config
  store : Store
  deriving Inhabited

/-- An engine together with the lines it logged. -/
structure Session where
  engine : Engine
  log : Array LogLine := #[]
  deriving Inhabited

abbrev Action := EStateM LockError Session

namespace Action

def engine : Action Engine := fun s => .ok s.engine s

def config : Action Config := fun s => .ok s.engine.config s

def store : Action Store := fun s => .ok s.engine.store s

def setStore (st : Store) : Action Unit := fun s =>
  .ok () { s with engine := { s.engine with store := st } }

def setLedger (l : Ledger) : Action Unit := fun s =>
  .ok () { s with engine := { s.engine with store := { s.engine.store with ledger := l } } }

def emit (level : Level) (component : Component) (message : String)
    (fields : List (String × String) := []) : Action Unit := fun s =>
  .ok () { s with log := s.log.push { level, component, message, fields } }

def lift {α : Type} (r : Except LockError α) : Action α :=
  match r with
  | .ok a => pure a
  | .error e => throw e

end Action

namespace Engine

/-- Starts an engine with `config` over `store`, storing the settings. The settings must be
valid, and may not name another custody than the stored settings once a lock exists. -/
def start (config : Config) (store : Store) : Except LockError Engine := do
  config.validate
  if let some stored := store.config? then
    if stored.custody ≠ config.custody ∧ 0 < store.nextLockId then
      throw (.config .custodyFixed)
  pure { config, store := { store with config? := some config } }

/-- Starts an engine with the stored settings, or with the defaults when none are stored; the
second case is logged. -/
def resume (store : Store) : List LogLine × Except LockError Engine :=
  match store.config? with
  | some c => ([], start c store)
  | none =>
    ([{ level := .debug, component := .engine,
        message := "no stored engine config; using defaults" }], start {} store)

end Engine

def debugAddress? : Option Address → String
  | some a => "Some(" ++ a.debug ++ ")"
  | none => "None"

end Escrow
