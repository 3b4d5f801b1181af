import Escrow.Cli.Parse

/-!
The commands of the command line as typed values, built from the values read at each level. A
global option given at several levels takes the value given deepest; one not given takes its
default.
-/

set_option autoImplicit false

namespace Escrow.Cli

/-- What the `fee` group does. -/
inductive FeeAction where
  | show
  | wallet (address : Option Address)
  | token (address : Option Address)
  | amount (amount : Nat)
  | percent (percent : String)
  | toggle (token : Address)
  deriving Inhabited

/-- One command of the program with its arguments. -/
inductive Command where
  | newAddress
  | registerToken (token : Option Address) (symbol : String) (decimals : Nat)
  | mint (token receiver : Address) (amount : Nat)
  | approve (token : Address) (amount : Nat)
  | transfer (token receiver : Address) (amount : Nat)
  | balance (token : Address) (holder : Option Address)
  | setPrice (token : Address) (price : String)
  | burnSink (sink : Address)
  | fee (action : FeeAction)
  | lock (token : Address) (amount : Nat) (expression : String) (criteria : List String)
  | sign (criterion : Nat) (proof : List Digest)
  | unlock (id : Nat) (recipient : Option Address) (fraction : Option String)
  | check (id : Nat)
  | show (id : Nat) (json : Bool)
  | list (owner : Option Address)
  | whitelist (addresses : List Address)
  deriving Inhabited

/-- A command with the global settings it runs under. -/
structure Invocation where
  dataDir : String
  configPath : Option String
  caller : Option Address
  now : Option Int
  command : Command
  deriving Inhabited

def givenValues (levels : List Matches) (id : String) : Option (List ArgValue) :=
  levels.reverse.findSome? fun m => (m.find? (·.1 == id)).map (·.2)

def valuesOf (levels : List Matches) (id : String) (default : Option String) : List ArgValue :=
  match givenValues levels id with
  | some vs => vs
  | none => (default.map fun d => [ArgValue.text d]).getD []

def addressOf? (vs : List ArgValue) : Option Address :=
  match vs.getLast? with
  | some (.address a) => some a
  | _ => none

def natOf? (vs : List ArgValue) : Option Nat :=
  match vs.getLast? with
  | some (.nat n) => some n
  | some (.text t) => t.toNat?
  | _ => none

def textOf? (vs : List ArgValue) : Option String :=
  match vs.getLast? with
  | some (.text t) => some t
  | _ => none

def addressesOf (vs : List ArgValue) : List Address :=
  vs.filterMap fun v => match v with
    | .address a => some a
    | _ => none

def digestsOf (vs : List ArgValue) : List Digest :=
  vs.filterMap fun v => match v with
    | .digest d => some d
    | _ => none

def textsOf (vs : List ArgValue) : List String :=
  vs.filterMap fun v => match v with
    | .text t => some t
    | _ => none

def commandOf (path : List String) (levels : List Matches) : Option Command :=
  let v (id : String) := valuesOf levels id none
  match path with
  | ["new-address"] => some .newAddress
  | ["register-token"] => do
    let symbol ← textOf? (v "symbol")
    let decimals ← natOf? (valuesOf levels "decimals" (some "18"))
    pure (.registerToken (addressOf? (v "token")) symbol decimals)
  | ["mint"] => do
    pure (.mint (← addressOf? (v "token")) (← addressOf? (v "to")) (← natOf? (v "amount")))
  | ["approve"] => do pure (.approve (← addressOf? (v "token")) (← natOf? (v "amount")))
  | ["transfer"] => do
    pure (.transfer (← addressOf? (v "token")) (← addressOf? (v "to")) (← natOf? (v "amount")))
  | ["balance"] => do pure (.balance (← addressOf? (v "token")) (addressOf? (v "holder")))
  | ["set-price"] => do pure (.setPrice (← addressOf? (v "token")) (← textOf? (v "price")))
  | ["burn-sink"] => do pure (.burnSink (← addressOf? (v "sink")))
  | ["fee", "show"] => some (.fee .show)
  | ["fee", "wallet"] => some (.fee (.wallet (addressOf? (v "address"))))
  | ["fee", "token"] => some (.fee (.token (addressOf? (v "address"))))
  | ["fee", "amount"] => do pure (.fee (.amount (← natOf? (v "amount"))))
  | ["fee", "percent"] => do pure (.fee (.percent (← textOf? (v "percent"))))
  | ["fee", "toggle"] => do pure (.fee (.toggle (← addressOf? (v "token"))))
  | ["lock"] => do
    pure (.lock (← addressOf? (v "token")) (← natOf? (v "amount")) (← textOf? (v "expression"))
      (textsOf (v "criteria")))
  | ["sign"] => do pure (.sign (← natOf? (v "criterion")) (digestsOf (v "proof")))
  | ["unlock"] => do
    pure (.unlock (← natOf? (v "id")) (addressOf? (v "to")) (textOf? (v "fraction")))
  | ["check"] => do pure (.check (← natOf? (v "id")))
  | ["show"] => do pure (.show (← natOf? (v "id")) (givenValues levels "json").isSome)
  | ["list"] => some (.list (addressOf? (v "owner")))
  | ["whitelist"] => some (.whitelist (addressesOf (v "addresses")))
  | _ => none

def readInvocation (words : List String) : Except Exit Invocation := do
  let levels ← parseCommandLine words
  let path := ((levels.getLast?.map (·.1.path)).getD []).drop 1
  let given := levels.map (·.2)
  match commandOf path given with
  | none => .error (.refuse "" 2)
  | some command =>
    let now := match (valuesOf given "now" none).getLast? with
      | some (.int t) => some t
      | _ => none
    pure { dataDir := (textOf? (valuesOf given "data_dir" (some "~/.cryptolock/data"))).getD "",
           configPath := textOf? (valuesOf given "config" none),
           caller := addressOf? (valuesOf given "caller" none), now, command }

end Escrow.Cli
