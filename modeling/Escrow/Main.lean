import Escrow.Cli.Run
import Escrow.Store.Document
import Std.Time

/-!
The `cryptolock` program: the command line run on the real machine. The state database of a data
directory is the file `state.json` inside it. Directories are created the way the operating
system's `mkdir -p` works, one missing parent at a time, so a file in the way is reported as the
system reports it. Log lines go to standard error, each after its UTC time and with its level
right-aligned.
-/

set_option autoImplicit false

/-! ## Clock

Times of day for log lines: a count of nanoseconds since 1970-01-01 written as an RFC 3339 UTC
time with microseconds, such as `2024-05-01T12:00:00.123456Z`. Days are turned into dates of the
proleptic Gregorian calendar by counting 400-year eras of 146097 days from 0000-03-01, so that
the leap day ends each counted year.
-/

namespace Escrow.Cli

def civilDate (days : Int) : Int × Nat × Nat :=
  let z := days + 719468
  let era := z / 146097
  let doe := z - era * 146097
  let yoe := (doe - doe / 1460 + doe / 36524 - doe / 146096) / 365
  let doy := doe - (365 * yoe + yoe / 4 - yoe / 100)
  let mp := (5 * doy + 2) / 153
  let day := doy - (153 * mp + 2) / 5 + 1
  let month := if mp < 10 then mp + 3 else mp - 9
  let year := yoe + era * 400 + if month ≤ 2 then 1 else 0
  (year, month.toNat, day.toNat)

def padded (width : Nat) (n : Nat) : String :=
  let s := toString n
  String.ofList (List.replicate (width - s.length) '0') ++ s

def utcStamp (nanos : Int) : String :=
  let seconds := nanos / 1000000000
  let micros := (nanos % 1000000000).toNat / 1000
  let days := seconds / 86400
  let inDay := (seconds % 86400).toNat
  let (year, month, day) := civilDate days
  toString year ++ "-" ++ padded 2 month ++ "-" ++ padded 2 day ++ "T" ++
    padded 2 (inDay / 3600) ++ ":" ++ padded 2 (inDay / 60 % 60) ++ ":" ++ padded 2 (inDay % 60) ++
    "." ++ padded 6 micros ++ "Z"

/-! ## The program -/

def ioFault (e : IO.Error) : IoFault :=
  match e with
  | .alreadyExists _ _ _ => .alreadyExists
  | .noFileOrDirectory _ _ _ => .notFound
  | .inappropriateType _ code details =>
    if code = 20 || code = 4294967276 then .notADirectory
    else if code = 21 || code = 4294967275 then .isADirectory
    else .other details
  | e => .other (toString e)

def isDirectory (path : String) : IO Bool := do
  try
    let _ ← IO.FS.readBinFile path
    pure false
  catch e => pure (ioFault e == .isADirectory)

def parentPath (path : String) : Option String :=
  let names := path.splitOn "/"
  if path.isEmpty || path = "/" then none
  else
    match (names.reverse.dropWhile String.isEmpty).drop 1 |>.reverse with
    | [] => some ""
    | [""] => some "/"
    | kept => some ("/".intercalate kept)

def makeDirectory (path : String) : IO (Except IoFault Unit) := do
  try
    IO.FS.createDir path
    pure (.ok ())
  catch e => pure (.error (ioFault e))

partial def makeDirectories (path : String) : IO (Except IoFault Unit) := do
  if path.isEmpty || (← isDirectory path) then return .ok ()
  match ← makeDirectory path with
  | .ok () => return .ok ()
  | .error .notFound => pure ()
  | .error e => return (if ← isDirectory path then .ok () else .error e)
  match parentPath path with
  | some parent =>
    match ← makeDirectories parent with
    | .error e => return .error e
    | .ok () => pure ()
  | none => return .error (.other "failed to create whole tree")
  match ← makeDirectory path with
  | .ok () => return .ok ()
  | .error e => return (if ← isDirectory path then .ok () else .error e)

def readTextFile (path : String) : IO (Except IoFault String) := do
  try pure (.ok (← IO.FS.readFile path))
  catch e => pure (.error (ioFault e))

def stateFile (dir : String) : String := joinPath dir "state.json"

def loadState (dir : String) : IO (Except String Store) := do
  match ← readTextFile (stateFile dir) with
  | .error .notFound => pure (.ok {})
  | .error e => pure (.error e.message)
  | .ok text =>
    match Json.Value.parse text with
    | .error e => pure (.error e.message)
    | .ok v =>
      match Store.ofDocument v with
      | some s => pure (.ok s)
      | none => pure (.error "the state file does not describe a state")

def saveState (dir : String) (s : Store) : IO Unit :=
  IO.FS.writeFile (stateFile dir) (s.toDocument.compact ++ "\n")

def randomAddress : IO Address := do
  let bytes ← IO.getRandomBytes 20
  pure (Address.ofNat (Text.ofBigEndian bytes.toList))

def machine : Host IO where
  createDirAll := makeDirectories
  readText := readTextFile
  loadStore := loadState
  saveStore := saveState
  freshAddress := randomAddress

def stampedLine (stamp : String) (l : LogLine) : String :=
  stamp ++ " " ++ String.ofList (List.replicate (5 - l.level.name.length) ' ') ++ l.render

end Escrow.Cli

open Escrow.Cli in
def main (args : List String) : IO UInt32 := do
  let home ← match ← IO.getEnv "HOME" with
    | some h => pure (some h)
    | none => IO.getEnv "USERPROFILE"
  let logSetting ← IO.getEnv "RUST_LOG"
  let now ← Std.Time.Timestamp.now
  let env : Environment := { home, logSetting, clock := now.toSecondsSinceUnixEpoch.val }
  let outcome ← runCommandLine machine env args
  let stamp := utcStamp now.toNanosecondsSinceUnixEpoch.val
  let stderr ← IO.getStderr
  for l in outcome.log do
    stderr.putStrLn (stampedLine stamp l)
  IO.print outcome.stdout
  stderr.putStr outcome.stderr
  stderr.flush
  pure outcome.status.toUInt32
