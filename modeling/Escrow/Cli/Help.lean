import Escrow.Cli.Spec

/-!
Texts of the command line: usage lines, help screens, and the messages of usage errors.

A full usage line names the command, `[OPTIONS]` when it has options that may be left out, its
required options, its positional arguments, and `<COMMAND>` for a group. A help screen gives the
description, the usage line, and the sections `Commands:`, `Arguments:` and `Options:`, each
entry's text aligned two blanks past the longest name of its section. The usage line of an error
about given arguments names only the required options and those given, but every positional
argument. Options are ordered by their
rank and then by name; since a command's own options and the inherited global ones are each ranked
from zero, the two lists interleave. A usage error reads `error: `, the message, any tips, the
usage line for most errors, and a pointer to `--help` where the command has that flag.
-/

set_option autoImplicit false

namespace Escrow.Cli

def blanks (n : Nat) : String := String.ofList (List.replicate n ' ')

def trimEnd (s : String) : String :=
  String.ofList (s.toList.reverse.dropWhile (fun c => c = ' ' || c = '\n')).reverse

namespace CommandSpec

def hasOptionalOptions (l : CommandSpec) : Bool := l.options.any (!·.required)

def usage (l : CommandSpec) : String :=
  l.name ++ (if l.hasOptionalOptions then " [OPTIONS]" else "") ++
    String.join ((l.options.filter (·.required)).map (" " ++ ·.display)) ++
    String.join (l.positionals.map (" " ++ ·.display)) ++
    (if l.isGroup then " <COMMAND>" else "")

def optionDisplay (l : CommandSpec) (id : String) : Option String :=
  if id = "help" && l.helpFlag then some "--help"
  else if id = "version" && l.versioned then some "--version"
  else ((l.options.find? (·.id == id)).map (·.display))

/-- The usage line that names the required options and then the options in `used`, each once,
followed by every positional argument: in angle brackets when it is required or in `used`, in its
usual form otherwise. -/
def usageWith (l : CommandSpec) (used : List String) : String :=
  let ids := ((l.requiredArgs.map (·.id)) ++ used).eraseDups
  let shown := fun (p : Arg) => if ids.contains p.id then p.displayRequired else p.display
  l.name ++ String.join ((ids.filterMap l.optionDisplay).map (" " ++ ·)) ++
    String.join (l.positionals.map (" " ++ shown ·)) ++
    (if l.isGroup then " <COMMAND>" else "")

/-- Where an error at this command points for more information: its `--help` flag, or for a
group without one its `help` command. -/
def helpPointer (l : CommandSpec) : Option String :=
  if l.helpFlag then some "--help" else if l.isGroup then some "help" else none

def optionKey (a : Arg) : String := a.long

def sectionLines (entries : List (String × String × String)) : List String :=
  let longest := entries.foldl (fun m (_, n, _) => max m n.length) 2
  entries.map fun (lead, n, text) => lead ++ n ++ blanks (longest + 2 - n.length) ++ text

def argText (a : Arg) : String :=
  match a.default, a.help with
  | some d, "" => "[default: " ++ d ++ "]"
  | some d, h => h ++ " [default: " ++ d ++ "]"
  | none, h => h

def optionLines (l : CommandSpec) : List String :=
  let ranked := l.options.mergeSort fun x y =>
    x.order < y.order || (x.order = y.order && optionKey x ≤ optionKey y)
  let own := ranked.map fun a => ("      ", a.display, argText a)
  let help := if l.helpFlag then [("  -h, ", "--help", "Print help")] else []
  let version := if l.versioned then [("  -V, ", "--version", "Print version")] else []
  sectionLines (own ++ help ++ version)

def helpText (l : CommandSpec) : String :=
  let commands :=
    if l.isGroup then ["Commands:\n" ++ "\n".intercalate (sectionLines
      (l.commands.map fun (n, about) => ("  ", n, about)))] else []
  let arguments :=
    if l.positionals.isEmpty then [] else ["Arguments:\n" ++ "\n".intercalate (sectionLines
      (l.positionals.map fun a => ("  ", a.display, argText a)))]
  let options :=
    if l.optionLines.isEmpty then [] else ["Options:\n" ++ "\n".intercalate l.optionLines]
  trimEnd (l.about ++ "\n\nUsage: " ++ l.usage ++ "\n\n" ++
    "\n\n".intercalate (commands ++ arguments ++ options)) ++ "\n"

end CommandSpec

def versionText : String := programName ++ " " ++ programVersion ++ "\n"

/-- A usage error: the message, tips, an optional usage line, and where to look for more
information, `--help` unless the command has no such flag. -/
def errorText (message : String) (tips : List String) (usage : Option String)
    (pointer : Option String := some "--help") : String :=
  "error: " ++ message ++
    (if tips.isEmpty then "" else "\n" ++ String.join (tips.map ("\n  tip: " ++ ·))) ++
    (match usage with
     | some u => "\n\nUsage: " ++ u
     | none => "") ++
    (match pointer with
     | some p => "\n\nFor more information, try '" ++ p ++ "'.\n"
     | none => "\n")

def similarTip (what : String) : List String → List String
  | [] => []
  | [n] => ["a similar " ++ what ++ " exists: '" ++ n ++ "'"]
  | ns => ["some similar " ++ what ++ "s exist: " ++ ", ".intercalate (ns.map ("'" ++ · ++ "'"))]

end Escrow.Cli
