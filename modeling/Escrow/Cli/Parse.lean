import Escrow.Cli.Help
import Escrow.Cli.Suggest
import Escrow.Address
import Escrow.FixedPoint

/-!
Reading the arguments of a command line into the values given at each command level.

Arguments are read left to right. At a group, a word naming one of its commands moves to that
command, and `help` prints the help of the commands named after it; a word that an option is
waiting for is that option's value even when it names a command. `--` makes every later word
positional. An option takes the next word as its value unless that word starts with `-`, or the
value may be attached as `--long=value`.

The words given for an argument are kept pending and only read when the next argument starts,
or when the level's words run out. So an error in a value is reported when the argument after it
is met; an unknown argument is reported before the value in front of it, since its error wins;
and a command's own errors come before those of a value pending at the level above it, which is
read only once the command is read. An option that takes one value is checked for repetition when
it is read: the second occurrence drops the first, which is why an unknown argument met later
does not count the option among those given.

The outcome is either the values given at each level, from the program down to the chosen
command, or an `Exit`: a help screen or version on standard output, or a usage error (status 2).
-/

set_option autoImplicit false

namespace Escrow.Cli

/-- A value given on the command line, read according to its argument's type. -/
inductive ArgValue where
  | address (a : Address)
  | digest (d : Digest)
  | nat (n : Nat)
  | int (i : Int)
  | text (s : String)
  deriving Inhabited

/-- The values given at one command level, by argument id, in the order the arguments came. A
flag is present with no values. -/
abbrev Matches := List (String × List ArgValue)

/-- How a run of the command line ends without running a command. -/
inductive Exit where
  /-- Help or version text on standard output; status 0. -/
  | print (text : String)
  /-- Text on standard error with a failing status. -/
  | refuse (text : String) (status : Nat)
  deriving Inhabited

def usageError (text : String) : Exit := .refuse text 2

def emptyValue (a : Arg) : Exit :=
  usageError (errorText ("a value is required for '" ++ a.display ++ "' but none was supplied")
    [] none)

def invalidValue (a : Arg) (raw reason : String) : Exit :=
  usageError (errorText ("invalid value '" ++ raw ++ "' for '" ++ a.display ++ "': " ++ reason)
    [] none)

def readArgValue (a : Arg) (raw : String) : Except Exit ArgValue :=
  let fail (reason : String) : Except Exit ArgValue := .error (invalidValue a raw reason)
  match a.type with
  | .address =>
    match Address.ofHex raw with
    | .ok v => .ok (.address v)
    | .error e => fail e.message
  | .digest =>
    match Digest.ofHex raw with
    | .ok v => .ok (.digest v)
    | .error e => fail e.message
  | .amount =>
    match Text.parseNat (Nat.pow 2 128) raw with
    | .ok n => .ok (.nat n)
    | .error e => fail e.message
  | .count =>
    match Text.parseNat (Nat.pow 2 64) raw with
    | .ok n => .ok (.nat n)
    | .error e => fail e.message
  | .timestamp =>
    match Text.parseInt (Nat.pow 2 63) raw with
    | .ok n => .ok (.int n)
    | .error e => fail e.message
  | .byte =>
    match Text.parseInt (Nat.pow 2 63) raw with
    | .ok n =>
      if 0 ≤ n ∧ n ≤ 255 then .ok (.nat n.toNat)
      else fail (toString n ++ " is not in 0..=255")
    | .error e => fail e.message
  | .text => .ok (.text raw)
  | .path => if raw.isEmpty then .error (emptyValue a) else .ok (.text raw)

def addValues (id : String) (vs : List ArgValue) : Matches → Matches
  | [] => [(id, vs)]
  | (k, old) :: rest =>
    if k = id then (k, old ++ vs) :: rest else (k, old) :: addValues id vs rest

def Matches.has (m : Matches) (id : String) : Bool := m.any (·.1 == id)

def Matches.ids (m : Matches) : List String := m.map (·.1)

def givenTwice (l : CommandSpec) (a : Arg) : Exit :=
  usageError (errorText ("the argument '" ++ a.display ++ "' cannot be used multiple times") []
    (some l.usage))

/-- Records the words given for an argument: the entries after it, and the error if any.

An option needs a value. One that takes a single value may not be given twice: its entry is then
dropped along with the error. A delimited option's words are split at commas. The entry is made
before the values are read, so it stays when one of them cannot be read. -/
def record (l : CommandSpec) (given : Matches) (a : Arg) (words : List String) :
    Matches × Option Exit :=
  if !a.flag && words.isEmpty then (given, some (emptyValue a))
  else if !a.repeated && given.has a.id then
    (given.filter (·.1 != a.id), some (givenTwice l a))
  else
    let given := if given.has a.id then given else given ++ [(a.id, [])]
    let words := if a.delimited then words.flatMap (·.splitOn ",") else words
    match words.mapM (readArgValue a) with
    | .ok vs => (addValues a.id vs given, none)
    | .error e => (given, some e)

/-- The reading state at one command level. -/
structure Scan where
  /-- The arguments read so far. -/
  given : Matches := []
  /-- An argument whose words have been collected but not yet read. -/
  pending : Option (Arg × List String) := none
  /-- The last option still waits for its value. -/
  awaiting : Bool := false
  /-- A `--` has been met. -/
  trailing : Bool := false
  /-- How many positional arguments have been filled. -/
  position : Nat := 0
  deriving Inhabited

/-- Reads the pending argument's words, if any: the state after it, and the error if any. The
pending words are gone either way. -/
def resolve (l : CommandSpec) (st : Scan) : Scan × Option Exit :=
  match st.pending with
  | none => (st, none)
  | some (a, words) =>
    let (given, failure) := record l st.given a words
    ({ st with given, pending := none }, failure)

def settle (l : CommandSpec) (st : Scan) : Except Exit Scan :=
  match resolve l st with
  | (st, none) => .ok st
  | (_, some e) => .error e

def react (l : CommandSpec) (st : Scan) (a : Arg) (words : List String) : Except Exit Scan := do
  let st ← settle l st
  match record l st.given a words with
  | (given, none) => pure { st with given, awaiting := false }
  | (_, some e) => .error e

/-- What a long name stands for at a level. -/
inductive LongName where
  | help
  | version
  | option (a : Arg)
  | unknown

def CommandSpec.longName (l : CommandSpec) (name : String) : LongName :=
  if name = "help" && l.helpFlag then .help
  else if name = "version" && l.versioned then .version
  else
    match l.findLong name with
    | some a => .option a
    | none => .unknown

def CommandSpec.idOfLong (l : CommandSpec) (name : String) : Option String :=
  match l.longName name with
  | .help => some "help"
  | .version => some "version"
  | .option a => some a.id
  | .unknown => none

/-- Among suggestions found in the commands of a group, the one whose command is named first in
the words that follow. -/
def earliest (found : List (Nat × String × String)) : Option (String × String) :=
  (found.foldl (fun best e =>
    match best with
    | some b => if e.1 < b.1 then some e else some b
    | none => some e) none).map (·.2)

/-- The error for an unknown `--name` option.

The most similar long name of the level is suggested; failing one, the most similar long name of
a command named in the words that follow, the command named first winning. A suggestion of the
level's own counts as given, so the usage line names it along with every argument given. -/
def unknownLong (l : CommandSpec) (given : Matches) (name : String) (rest : List String) : Exit :=
  let own := (similarNames name l.longNames).getLast?
  let elsewhere : Option (String × String) :=
    if own.isSome then none
    else
      earliest (l.commands.filterMap fun (n, _) => do
        let sub ← specAt ((l.path.drop 1) ++ [n])
        let s ← (similarNames name sub.longNames).getLast?
        let place ← rest.findIdx? (· == n)
        pure (place, n, s))
  let given :=
    match own.bind l.idOfLong with
    | some id => if given.has id then given else given ++ [(id, [])]
    | none => given
  let tips :=
    match own, elsewhere with
    | some s, _ => ["a similar argument exists: '--" ++ s ++ "'"]
    | none, some (n, s) => ["'" ++ n ++ " --" ++ s ++ "' exists"]
    | none, none =>
      if l.positionals.isEmpty then []
      else ["to pass '--" ++ name ++ "' as a value, use '-- --" ++ name ++ "'"]
  usageError (errorText ("unexpected argument '--" ++ name ++ "' found") tips
    (some (if given.isEmpty then l.usage else l.usageWith given.ids)))

/-- The error for a value attached to a flag. Its usage line names the flag and the arguments
read before it that are not required. -/
def unneededValue (l : CommandSpec) (given : Matches) (id shown value : String) : Exit :=
  let used := given.ids.filter (fun g => !(l.requiredArgs.any (·.id == g))) ++ [id]
  usageError (errorText ("unexpected value '" ++ value ++ "' for '" ++ shown ++
    "' found; no more were expected") [] (some (l.usageWith used)))

def unknownShort (l : CommandSpec) (c : Char) : Exit :=
  let shown := String.ofList ['-', c]
  usageError (errorText ("unexpected argument '" ++ shown ++ "' found")
    (if l.positionals.isEmpty then []
     else ["to pass '" ++ shown ++ "' as a value, use '-- " ++ shown ++ "'"])
    (some l.usage))

def strayWord (l : CommandSpec) (word : String) (trailing : Bool) : Exit :=
  if trailing && l.hasCommand word then
    usageError (errorText ("unexpected argument '" ++ word ++ "' found")
      ["subcommand '" ++ word ++ "' exists; to use it, remove the '--' before it"] (some l.usage))
  else if l.isGroup then
    let similar := similarNames word (l.commands.map (·.1))
    usageError (errorText ("unrecognized subcommand '" ++ word ++ "'")
      (similarTip "subcommand" similar) (some l.usage))
  else
    usageError (errorText ("unexpected argument '" ++ word ++ "' found") [] (some l.usage))

def helpCommand (l : CommandSpec) : List String → Exit
  | [] => .print l.helpText
  | n :: rest =>
    match (if l.hasCommand n then specAt ((l.path.drop 1) ++ [n]) else none) with
    | some sub => helpCommand sub rest
    | none =>
      usageError (errorText ("unrecognized subcommand '" ++ n ++ "'") [] (some l.usage)
        l.helpPointer)

/-- Checks a level that names no command once its words are read: a group needs a command, and
required arguments must be given. -/
def finishLevel (l : CommandSpec) (st : Scan) : Except Exit Matches :=
  if l.isGroup then
    if st.given.isEmpty then .error (.refuse l.helpText 2)
    else
      .error (usageError (errorText ("'" ++ l.name ++
        "' requires a subcommand but one was not provided\n  [subcommands: " ++
        ", ".intercalate (l.commands.map (·.1)) ++ "]") [] (some l.usage)))
  else
    let missing := l.requiredArgs.filter fun a => !st.given.has a.id
    if missing.isEmpty then .ok st.given
    else
      let used := st.given.ids ++ missing.map (·.id)
      .error (usageError (errorText ("the following required arguments were not provided:" ++
        String.join (missing.map fun a => "\n  " ++ a.displayRequired)) []
        (some (l.usageWith used))))

def splitAttached (body : String) : String × Option String :=
  match body.splitOn "=" with
  | name :: value :: more => (name, some ("=".intercalate (value :: more)))
  | _ => (body, none)

/-- Reads the words at level `l`, moving into a command when one is named. The result lists the
values given at each level from `l` down. -/
def parseLevel (l : CommandSpec) :
    List String → Scan → Except Exit (List (CommandSpec × Matches))
  | [], st => do
    let st ← settle l st
    let m ← finishLevel l st
    pure [(l, m)]
  | word :: rest, st =>
    if !st.trailing && !st.awaiting && l.hasCommand word then
      if word = "help" then .error (helpCommand l rest)
      else
        match specAt ((l.path.drop 1) ++ [word]) with
        | some sub => do
          let below ← parseLevel sub rest {}
          let st ← settle l st
          pure ((l, st.given) :: below)
        | none => .error (strayWord l word false)
    else if !st.trailing && word = "--" then parseLevel l rest { st with trailing := true }
    else if !st.trailing && word.startsWith "--" then
      let (name, attached) := splitAttached (word.drop 2).toString
      match l.longName name, attached with
      | .unknown, _ => .error (unknownLong l (resolve l st).1.given name rest)
      | .help, none => do
        let _ ← settle l st
        .error (.print l.helpText)
      | .version, none => do
        let _ ← settle l st
        .error (.print versionText)
      | .help, some v => .error (unneededValue l st.given "help" "--help" v)
      | .version, some v => .error (unneededValue l st.given "version" "--version" v)
      | .option a, none =>
        if a.flag then do parseLevel l rest (← react l st a [])
        else do
          let st ← settle l st
          parseLevel l rest { st with pending := some (a, []), awaiting := true }
      | .option a, some v =>
        if a.flag then .error (unneededValue l st.given a.id a.display v)
        else do parseLevel l rest (← react l st a [v])
    else if !st.trailing && word.startsWith "-" && 1 < word.length then
      let c := (word.drop 1).front
      if c = 'h' && l.helpFlag then do
        let _ ← settle l st
        .error (.print l.helpText)
      else if c = 'V' && l.versioned then do
        let _ ← settle l st
        .error (.print versionText)
      else .error (unknownShort l c)
    else if !st.trailing && st.awaiting then
      parseLevel l rest
        { st with pending := st.pending.map (fun (a, ws) => (a, ws ++ [word])), awaiting := false }
    else
      match l.positionals[st.position]? with
      | some p => do
        let st ← settle l st
        parseLevel l rest
          { st with pending := some (p, [word]), position := st.position + 1, awaiting := false }
      | none => .error (strayWord l word st.trailing)

def parseCommandLine (words : List String) : Except Exit (List (CommandSpec × Matches)) :=
  match specAt [] with
  | some root => parseLevel root words {}
  | none => .error (.refuse "" 2)

end Escrow.Cli
