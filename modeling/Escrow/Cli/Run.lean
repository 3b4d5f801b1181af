import Escrow.Cli.Command
import Escrow.Cli.World
import Escrow.Config
import Escrow.Engine.Create
import Escrow.Engine.Settings
import Escrow.Criterion.Spec
import Escrow.FixedPoint
import Escrow.Text.Alphanumeric
import Escrow.Log
import Escrow.Store.Document
import Escrow.Engine.Views
import Escrow.Crypto.Merkle

/-!
Running the command line. `new-address` and `whitelist` need no state. Every other command opens
the engine over the state database of the data directory: the directory is created, then the
settings are read from `--config` and stored, or the stored settings are used (the defaults when
there are none, with a warning). The command then runs, and the state is written back whether it
succeeded or not, since what a command did before failing stays done.

A failure prints `Error: ` and its message, then the causes beneath it, and ends the run with
status 1. Log lines are kept when the log filter shows them.
-/

set_option autoImplicit false

/-! ## Documents

The JSON documents the command line prints besides stored records: lock summaries, and a
whitelist's root with each member's proof. Fields keep the order of the records; amounts are
numbers, addresses and digests hexadecimal strings.
-/

namespace Escrow.Cli

open Json

def summaryValue (s : LockSummary) : Value :=
  .obj [("id", .nat s.id), ("owner", addressValue s.owner), ("amount", .nat s.amount),
    ("token", addressValue s.token), ("operations", .arr (s.operations.map .str)),
    ("criterion_types", .arr (s.criterionKinds.map fun k => .str k.title)),
    ("criterion_ids", .arr (s.criterionIds.map .nat)), ("active", .bool s.active)]

/-- The whitelist of some addresses: the tree's root, and for each distinct member, in order of
its hexadecimal text, the proof of its first leaf. -/
def whitelistValue (addresses : List Address) : Value :=
  let tree := Crypto.MerkleTree.ofAddresses addresses
  let members := ((addresses.map (·.toHex)).eraseDups.mergeSort fun x y => decide (x ≤ y))
  let proofOf (hex : String) : List Digest :=
    match addresses.find? (·.toHex == hex) with
    | some a => (tree.proofFor a).getD []
    | none => []
  .obj [("proofs", .obj (members.map fun hex =>
          (hex, .arr ((proofOf hex).map fun d => .str d.toHex)))),
        ("root", .str tree.root.toHex)]

/-! ## Running a command -/

/-- What a run prints and how it ends. -/
structure Outcome where
  status : Nat := 0
  stdout : String := ""
  stderr : String := ""
  /-- The log lines the filter shows, in order. -/
  log : List LogLine := []
  deriving Inhabited

abbrev Step := EStateM Diagnostic Session

namespace Step

def ofAction {α : Type} (act : Action α) : Step α := fun s =>
  match act s with
  | .ok a s' => .ok a s'
  | .error e s' => .error { message := e.message } s'

def check {α : Type} (r : Except Diagnostic α) : Step α := fun s =>
  match r with
  | .ok a => .ok a s
  | .error d => .error d s

def needCaller (caller : Option Address) : Step Address :=
  check (match caller with
    | some c => .ok c
    | none => .error { message := "this command needs --caller" })

end Step

def boolText (b : Bool) : String := if b then "true" else "false"

def performFee : FeeAction → Step String
  | .show => do pure ((feeScheduleValue (← Step.ofAction Action.config).fee).pretty ++ "\n")
  | .wallet a => do Step.ofAction (Action.setFeeWallet a); pure ""
  | .token a => do Step.ofAction (Action.setFeeToken a); pure ""
  | .amount n => do Step.ofAction (Action.setFeeAmount n); pure ""
  | .percent p => do
    let v ← Step.check (Text.parseFixed p)
    Step.ofAction (Action.setFeePercent v)
    pure ""
  | .toggle t => do
    let mode ← Step.ofAction (Action.toggleFeeType t)
    pure (t.toHex ++ ": " ++ Action.feeModeName mode ++ "\n")

/-- Runs an engine command and gives what it prints. `fresh` is the address a token registered
without one receives. -/
def perform (caller : Option Address) (now : Int) (fresh : Address) : Command → Step String
  | .newAddress => pure ""
  | .whitelist _ => pure ""
  | .registerToken token symbol decimals => do
    let t := token.getD fresh
    Step.ofAction (Action.registerToken t symbol decimals)
    pure (t.toHex ++ "\n")
  | .mint token receiver amount => do
    Step.ofAction (Action.mint token receiver amount)
    pure ""
  | .approve token amount => do
    let owner ← Step.needCaller caller
    let custody := (← Step.ofAction Action.config).custody
    Step.ofAction (Action.approve token owner custody amount)
    pure ""
  | .transfer token receiver amount => do
    let sender ← Step.needCaller caller
    Step.ofAction (Action.transfer token sender receiver amount)
    pure ""
  | .balance token holder => do
    let h ← match holder with
      | some h => pure h
      | none => Step.needCaller caller
    pure (toString ((← Step.ofAction Action.store).ledger.balanceOf token h) ++ "\n")
  | .setPrice token price => do
    let p ← Step.check (Text.parseFixed price)
    Step.ofAction (Action.setPrice token p)
    pure ""
  | .burnSink sink => do
    let authorised ← Step.ofAction (Action.toggleBurnSink sink)
    pure (sink.toHex ++ " authorised: " ++ boolText authorised ++ "\n")
  | .fee action => performFee action
  | .lock token amount expression criteria => do
    let owner ← Step.needCaller caller
    let specs ← Step.check (criteria.mapM parseCriterion)
    let req := LockRequest.ofExpression token amount (Text.blankWords expression)
      (specs.map CriterionSpec.encode)
    let id ← Step.ofAction (Action.create owner req now)
    pure (toString id ++ "\n")
  | .sign criterion proof => do
    let signer ← Step.needCaller caller
    let status ← Step.ofAction (Action.sign signer criterion proof)
    pure (status.name ++ "\n")
  | .unlock id recipient fraction => do
    let c ← Step.needCaller caller
    let r := recipient.getD c
    let mode ← match fraction with
      | some f => do pure (UnlockMode.fraction (← Step.check (Text.parseFixed f)))
      | none => pure UnlockMode.full
    let paid ← Step.ofAction (Action.unlockWith c id r mode now)
    pure (toString paid ++ "\n")
  | .check id => do
    pure (boolText (← Step.ofAction (Action.checkUnlock id now)) ++ "\n")
  | .show id json => do
    if json then pure ((lockValue (← Step.ofAction (Action.loadLock id))).pretty ++ "\n")
    else pure ((← Step.ofAction (Action.describe id now)) ++ "\n")
  | .list owner => do
    let summaries ← match owner with
      | some o => Step.ofAction (Action.viewData o)
      | none => Step.ofAction Action.allLocks
    pure ((Json.Value.arr (summaries.map summaryValue)).pretty ++ "\n")

def failed (d : Diagnostic) (log : List LogLine) : Outcome :=
  { status := 1, stderr := d.report, log }

def commandLine (level : Escrow.Level) (message : String) (fields : List (String × String) := []) :
    LogLine :=
  { level, component := .command, message, fields }

/-- Opens the engine over a store: with the settings of the `--config` file, or with the stored
ones. Gives the log lines written on the way. -/
def openEngine {m : Type → Type} [Monad m] (host : Host m) (configPath : Option String)
    (store : Store) : m (List LogLine × Except Diagnostic Engine) := do
  match configPath with
  | some path =>
    match ← host.readText path with
    | .error e =>
      pure ([], .error (Diagnostic.within ("reading engine config from " ++ path)
        { message := e.message }))
    | .ok text =>
      match Config.ofJson text with
      | .error e =>
        pure ([], .error (Diagnostic.within "parsing engine config JSON" { message := e.message }))
      | .ok config =>
        let line := commandLine .info "applying engine config" [("path", path)]
        pure ([line], (Engine.start config store).mapError fun e => { message := e.message })
  | none =>
    let warning := if store.config?.isNone then
      [commandLine .warn "no stored engine config; using defaults"] else []
    let (lines, r) := Engine.resume store
    pure (warning ++ lines, r.mapError fun e => { message := e.message })

def runWithEngine {m : Type → Type} [Monad m] (host : Host m) (env : Environment)
    (inv : Invocation) : m Outcome := do
  let dir := expandHome env.home inv.dataDir
  match ← host.createDirAll dir with
  | .error e =>
    pure (failed (Diagnostic.within ("creating data dir " ++ dir) { message := e.message }) [])
  | .ok () =>
  match ← host.loadStore dir with
  | .error e => pure (failed (Diagnostic.within "opening state database" { message := e }) [])
  | .ok store =>
  let (opening, opened) ← openEngine host inv.configPath store
  match opened with
  | .error d => pure (failed d opening)
  | .ok engine =>
  let fresh ← match inv.command with
    | .registerToken none _ _ => host.freshAddress
    | _ => pure Address.zero
  let now := inv.now.getD env.clock
  match perform inv.caller now fresh inv.command { engine } with
  | .ok out s =>
    host.saveStore dir s.engine.store
    pure { stdout := out, log := opening ++ s.log.toList }
  | .error d s =>
    host.saveStore dir s.engine.store
    pure (failed d (opening ++ s.log.toList))

def runCommandLine {m : Type → Type} [Monad m] (host : Host m) (env : Environment)
    (words : List String) : m Outcome := do
  let filter := LogFilter.ofSetting env.logSetting
  let outcome ← match readInvocation words with
    | .error (.print text) => pure { stdout := text }
    | .error (.refuse text status) => pure { status, stderr := text }
    | .ok inv =>
      match inv.command with
      | .newAddress => do pure { stdout := (← host.freshAddress).toHex ++ "\n" }
      | .whitelist addresses => pure { stdout := (whitelistValue addresses).pretty ++ "\n" }
      | _ => runWithEngine host env inv
  pure { outcome with log := outcome.log.filter filter.admits }

end Escrow.Cli
