import Escrow.Crypto.Merkle
import Escrow.Store

/-!
A model machine for the command line: a working directory holding files, directories and the
state databases of data directories, all addressed by their path of names below the working
directory. A path is read relative to the working directory unless it begins with the working
directory's own name, or with `/` for a place elsewhere. Empty names and `.` are skipped and `..`
goes up one level.

Creating a directory fails when a file stands at its place (`File exists`) or at the place of one
of its parents (`Not a directory`). Reading a file fails for a directory (`Is a directory`), a
path under a file (`Not a directory`), and a missing file (`No such file or directory`). Fresh
addresses are digests of a counter.
-/

set_option autoImplicit false

/-! ## Host

What a run of the command line needs from the machine it runs on: directories and files, the
state database kept in the data directory, and fresh random addresses. The operations are
gathered in `Host m` for a monad `m`, so the same run can be carried out on a real machine or on a
model of one. The environment gives the home directory, the log filter and the clock.

A data directory written `~` or `~/rest` stands for the home directory, or for `rest` inside it;
without a home directory the path is kept as written.
-/

namespace Escrow.Cli

/-- A failed file operation, as the operating system reports it. -/
inductive IoFault where
  | notFound
  | notADirectory
  | alreadyExists
  | isADirectory
  | other (text : String)
  deriving DecidableEq, Repr, Inhabited

def IoFault.message : IoFault → String
  | .notFound => "No such file or directory (os error 2)"
  | .notADirectory => "Not a directory (os error 20)"
  | .alreadyExists => "File exists (os error 17)"
  | .isADirectory => "Is a directory (os error 21)"
  | .other text => text

/-- The operations a run uses, in the monad `m`. -/
structure Host (m : Type → Type) where
  /-- Creates a directory and its missing parents. -/
  createDirAll : String → m (Except IoFault Unit)
  /-- Reads a text file. -/
  readText : String → m (Except IoFault String)
  /-- The state database in a directory; empty when there is none yet. -/
  loadStore : String → m (Except String Store)
  /-- Writes the state database of a directory. -/
  saveStore : String → Store → m Unit
  /-- A fresh random address. -/
  freshAddress : m Address

/-- The environment of a run. -/
structure Environment where
  /-- The home directory, if one is set. -/
  home : Option String := none
  /-- The log filter text, if one is set. -/
  logSetting : Option String := none
  /-- The current time in seconds, for commands given no `--now`. -/
  clock : Int := 0
  deriving Inhabited

/-- Joins a directory and a relative path, adding a separator when the directory has none at
its end. -/
def joinPath (dir rest : String) : String :=
  if dir.isEmpty || dir.endsWith "/" then dir ++ rest else dir ++ "/" ++ rest

def expandHome (home : Option String) (path : String) : String :=
  match home, path.splitOn "/" with
  | some h, "~" :: rest =>
    joinPath h ("/".intercalate (rest.dropWhile (fun p => p.isEmpty || p = ".")))
  | _, _ => path

/-! ## The model machine -/

abbrev Place := List String

/-- The model machine. -/
structure World where
  /-- How paths name the working directory. -/
  root : String
  files : Table Place String := {}
  /-- The directories made so far; the working directory itself is always there. -/
  dirs : List Place := []
  stores : Table Place Store := {}
  /-- How many fresh addresses have been handed out. -/
  drawn : Nat := 0
  deriving Inhabited

def normalizePlace (names : List String) : Place :=
  (names.foldl (fun acc n =>
    if n.isEmpty || n = "." then acc
    else if n = ".." then acc.dropLast
    else acc ++ [n]) [])

namespace World

def place (w : World) (path : String) : Place :=
  match path.splitOn "/" with
  | "" :: rest =>
    match rest with
    | first :: more => if "/" ++ first = w.root then normalizePlace more
                       else "/" :: normalizePlace rest
    | [] => ["/"]
  | first :: rest => if first = w.root then normalizePlace rest else normalizePlace (first :: rest)
  | [] => []

def prefixes (p : Place) : List Place := (List.range p.length).map fun i => p.take (i + 1)

def isFile (w : World) (p : Place) : Bool := (w.files.get? p).isSome

def isDir (w : World) (p : Place) : Bool := p.isEmpty || w.dirs.contains p

def createDirAll (w : World) (p : Place) : Except IoFault World :=
  match (prefixes p).find? w.isFile with
  | some q => .error (if q.length = p.length then .alreadyExists else .notADirectory)
  | none => .ok { w with dirs := (prefixes p).foldl (fun ds q =>
      if ds.contains q then ds else ds ++ [q]) w.dirs }

def readText (w : World) (p : Place) : Except IoFault String :=
  if (prefixes p).dropLast.any w.isFile then .error .notADirectory
  else if w.isDir p then .error .isADirectory
  else
    match w.files.get? p with
    | some t => .ok t
    | none => .error .notFound

def writeFile (w : World) (path : String) (text : String) : World :=
  let p := w.place path
  let parents := (prefixes p).dropLast
  { w with
    dirs := parents.foldl (fun ds q => if ds.contains q then ds else ds ++ [q]) w.dirs,
    files := w.files.insert p text }

def freshAt (n : Nat) : Address :=
  Address.ofNat (Crypto.digestOf (Text.bigEndian 8 (n + 1))).val

def host : Host (StateM World) where
  createDirAll path := fun w =>
    match w.createDirAll (w.place path) with
    | .ok w' => (.ok (), w')
    | .error e => (.error e, w)
  readText path := fun w => (w.readText (w.place path), w)
  loadStore path := fun w => (.ok ((w.stores.get? (w.place path)).getD {}), w)
  saveStore path s := fun w => ((), { w with stores := w.stores.insert (w.place path) s })
  freshAddress := fun w => (freshAt w.drawn, { w with drawn := w.drawn + 1 })

end World

end Escrow.Cli
