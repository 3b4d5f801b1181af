/-!
The command line's grammar: which commands exist, and which options and positional arguments
each accepts. Four options (`--data-dir`, `--config`, `--caller`, `--now`) are global: they are
accepted before or after any command name, and a command lists them after its own. Every command
also takes `-h`/`--help`, and the program itself `-V`/`--version`. `cryptolock` and `fee` are
groups: each expects one of its commands, `help` among them.

A command is described by a `CommandSpec`, found from its path of names by `specAt`.
-/

set_option autoImplicit false

namespace Escrow.Cli

/-- How the text given for an argument is read. -/
inductive ValueType where
  /-- A 20-byte address in hexadecimal. -/
  | address
  /-- A 32-byte digest in hexadecimal. -/
  | digest
  /-- An unsigned 128-bit amount. -/
  | amount
  /-- An unsigned 64-bit id. -/
  | count
  /-- A signed 64-bit time in seconds. -/
  | timestamp
  /-- An integer from 0 to 255. -/
  | byte
  /-- Any text. -/
  | text
  /-- A path; it may not be empty. -/
  | path
  deriving DecidableEq, Repr, Inhabited

/-- One argument of a command: an option `--long <VALUE>`, a flag `--long`, or, when `long` is
empty, a positional argument. `order` ranks it among its command's options in the help text. -/
structure Arg where
  id : String
  long : String := ""
  valueName : String := ""
  help : String := ""
  type : ValueType := .text
  required : Bool := false
  /-- The argument may be given again; the values add up. -/
  repeated : Bool := false
  /-- One given text holds several values separated by commas. -/
  delimited : Bool := false
  default : Option String := none
  /-- The option takes no value. -/
  flag : Bool := false
  order : Nat := 0
  deriving Repr, Inhabited

namespace Arg

def positional (a : Arg) : Bool := a.long.isEmpty

def placeholder (a : Arg) : String :=
  "<" ++ a.valueName ++ ">" ++ if a.positional && a.repeated then "..." else ""

/-- How the argument is named in messages: `--long <VALUE>`, `--long`, `<VALUE>` for a required
positional and `[VALUE]` for an optional one. -/
def display (a : Arg) : String :=
  if a.positional then
    if a.required then a.placeholder
    else "[" ++ a.valueName ++ "]" ++ if a.repeated then "..." else ""
  else if a.flag then "--" ++ a.long
  else "--" ++ a.long ++ " <" ++ a.valueName ++ ">"

def displayRequired (a : Arg) : String :=
  if a.positional then a.placeholder else a.display

end Arg

/-- One command as the parser and the help text see it. -/
structure CommandSpec where
  /-- The names from the program's own on, e.g. `["cryptolock", "fee", "show"]`. -/
  path : List String
  about : String
  /-- Own options first, then the inherited global ones. -/
  options : List Arg := []
  positionals : List Arg := []
  /-- The commands of a group with their one-line descriptions, `help` last. -/
  commands : List (String × String) := []
  /-- Whether `-V`/`--version` is accepted. -/
  versioned : Bool := false
  /-- Whether `-h`/`--help` is accepted. -/
  helpFlag : Bool := true
  deriving Inhabited

namespace CommandSpec

def name (l : CommandSpec) : String := " ".intercalate l.path

def isGroup (l : CommandSpec) : Bool := !l.commands.isEmpty

def hasCommand (l : CommandSpec) (n : String) : Bool := l.commands.any (·.1 == n)

def findLong (l : CommandSpec) (long : String) : Option Arg := l.options.find? (·.long == long)

def args (l : CommandSpec) : List Arg := l.options ++ l.positionals

def find (l : CommandSpec) (id : String) : Option Arg := l.args.find? (·.id == id)

def requiredArgs (l : CommandSpec) : List Arg := l.args.filter (·.required)

def longNames (l : CommandSpec) : List String :=
  l.options.map (·.long) ++ (if l.helpFlag then ["help"] else []) ++
    (if l.versioned then ["version"] else [])

end CommandSpec

def programName : String := "cryptolock"

def programVersion : String := "0.1.0"

def helpAbout : String := "Print this message or the help of the given subcommand(s)"

def globalOptions : List Arg :=
  [{ id := "data_dir", long := "data-dir", valueName := "DATA_DIR",
     help := "Directory for the persistent state database", type := .path,
     default := some "~/.cryptolock/data", order := 0 },
   { id := "config", long := "config", valueName := "CONFIG",
     help := "Engine config JSON. Replaces the stored config when given", type := .path,
     order := 1 },
   { id := "caller", long := "caller", valueName := "CALLER",
     help := "Acting address for commands that need one", type := .address, order := 2 },
   { id := "now", long := "now", valueName := "NOW",
     help := "Override the current Unix time (seconds)", type := .timestamp, order := 3 }]

def option (id valueName : String) (type : ValueType) (order : Nat) (required : Bool := true)
    (help : String := "") : Arg :=
  { id, long := id, valueName, help, type, required, order }

def programCommands : List (String × String) :=
  [("new-address", "Print a fresh random address"),
   ("register-token", "Register a token in the local ledger"),
   ("mint", "Mint base units of a token to an address"),
   ("approve", "Allow the custody address to pull the caller's tokens"),
   ("transfer", "Send the caller's tokens to another address"),
   ("balance", "Print a token balance"),
   ("set-price", "Set the oracle price of a token (decimal, e.g. `1.5`)"),
   ("burn-sink", "Toggle whether an address is accepted as a burn sink"),
   ("fee", "Inspect or change the treasury settings"),
   ("lock", "Lock the caller's tokens behind a policy expression"),
   ("sign", "Sign a multisig criterion as the caller"),
   ("unlock", "Unlock a lock whose policy holds"),
   ("check", "Print whether a lock's policy currently holds"),
   ("show", "Describe one lock and its criteria"),
   ("list", "List locks as JSON, optionally only those of one owner"),
   ("whitelist", "Build a whitelist Merkle root and per-address proofs"),
   ("help", helpAbout)]

def feeCommands : List (String × String) :=
  [("show", "Print the current settings"),
   ("wallet", "Set the treasury wallet. Omit the address to clear it"),
   ("token", "Set the flat-fee token. Omit the address to clear it"),
   ("amount", "Set the flat fee in base units of the fee token"),
   ("percent", "Set the percentage fee (decimal fraction, e.g. `0.01`)"),
   ("toggle", "Switch a token between flat and percentage fees"),
   ("help", helpAbout)]

def commandOptions : String → List Arg
  | "register-token" =>
    [option "token" "TOKEN" .address 0 false
       "Token address. A random one is generated when omitted",
     option "symbol" "SYMBOL" .text 1,
     { option "decimals" "DECIMALS" .byte 2 false with default := some "18" }]
  | "mint" => [option "token" "TOKEN" .address 0, option "to" "TO" .address 1,
      option "amount" "AMOUNT" .amount 2]
  | "approve" => [option "token" "TOKEN" .address 0, option "amount" "AMOUNT" .amount 1]
  | "transfer" => [option "token" "TOKEN" .address 0, option "to" "TO" .address 1,
      option "amount" "AMOUNT" .amount 2]
  | "balance" => [option "token" "TOKEN" .address 0,
      option "holder" "HOLDER" .address 1 false "Holder. Defaults to the caller"]
  | "set-price" => [option "token" "TOKEN" .address 0, option "price" "PRICE" .text 1]
  | "burn-sink" => [option "sink" "SINK" .address 0]
  | "lock" =>
    [option "token" "TOKEN" .address 0, option "amount" "AMOUNT" .amount 1,
     { option "expression" "EXPRESSION" .text 2 true
         "Whitespace-separated expression, e.g. `( c1 a c2 ) o c3`" with long := "expr" },
     { option "criteria" "CRITERIA" .text 3 false
         ("One per placeholder, in order: `time:<secs>`, `burn:<sink>:<ratio>`, " ++
          "`price:<target>`, `marketcap:<target>`, " ++
          "`multisig:<threshold>:<root>[:<signer,...>]`")
         with long := "criterion", repeated := true }]
  | "sign" =>
    [option "criterion" "CRITERION" .count 0,
     { option "proof" "PROOF" .digest 1 false "Merkle proof siblings (hex, comma-separated)"
         with repeated := true, delimited := true }]
  | "unlock" =>
    [option "id" "ID" .count 0,
     option "to" "TO" .address 1 false "Recipient. Defaults to the caller",
     option "fraction" "FRACTION" .text 2 false "Pay out only this fraction (decimal in (0, 1])"]
  | "check" => [option "id" "ID" .count 0]
  | "show" =>
    [option "id" "ID" .count 0,
     { option "json" "" .text 1 false "Print the stored record as JSON instead" with flag := true }]
  | "list" => [option "owner" "OWNER" .address 0 false]
  | "whitelist" =>
    [{ option "addresses" "ADDRESSES" .address 0 true "Member addresses (comma-separated)"
         with repeated := true, delimited := true }]
  | _ => []

def feePositionals : String → List Arg
  | "wallet" => [{ id := "address", valueName := "ADDRESS", type := .address }]
  | "token" => [{ id := "address", valueName := "ADDRESS", type := .address }]
  | "amount" => [{ id := "amount", valueName := "AMOUNT", type := .amount, required := true }]
  | "percent" => [{ id := "percent", valueName := "PERCENT", type := .text, required := true }]
  | "toggle" => [{ id := "token", valueName := "TOKEN", type := .address, required := true }]
  | _ => []

def aboutOf (commands : List (String × String)) (n : String) : String :=
  ((commands.find? (·.1 == n)).map (·.2)).getD ""

def helpLevel (path : List String) : CommandSpec :=
  { path := path ++ ["help"], about := helpAbout, helpFlag := false,
    positionals := [{ id := "command", valueName := "COMMAND", repeated := true,
                      help := "Print help for the subcommand(s)" }] }

def specAt : List String → Option CommandSpec
  | [] => some { path := [programName], about := "Conditional token locks",
                 options := globalOptions, commands := programCommands, versioned := true }
  | ["help"] => some (helpLevel [programName])
  | ["fee"] => some { path := [programName, "fee"], about := aboutOf programCommands "fee",
                      options := globalOptions, commands := feeCommands }
  | ["fee", "help"] => some (helpLevel [programName, "fee"])
  | ["fee", n] =>
    if (feeCommands.any (·.1 == n)) then
      some { path := [programName, "fee", n], about := aboutOf feeCommands n,
             options := globalOptions, positionals := feePositionals n }
    else none
  | [n] =>
    if programCommands.any (·.1 == n) then
      some { path := [programName, n], about := aboutOf programCommands n,
             options := commandOptions n ++ globalOptions }
    else none
  | _ => none

end Escrow.Cli
