import Escrow.Text.Alphanumeric

/-!
Log lines, and the filter that decides which of them are shown.
-/

set_option autoImplicit false

/-! ## Log lines

Log lines. Each line has a level, the component that wrote it, a message, and named fields whose
values are already written out. A line is shown as the level, the component's target followed by
a colon, the message, and ` name=value` per field in the order given.
-/

namespace Escrow

/-- The severity of a log line, from the most to the least severe. -/
inductive Level where
  | error
  | warn
  | info
  | debug
  | trace
  deriving DecidableEq, Repr, Inhabited

namespace Level

def name : Level → String
  | .error => "ERROR"
  | .warn => "WARN"
  | .info => "INFO"
  | .debug => "DEBUG"
  | .trace => "TRACE"

/-- Verbosity rank: 1 for errors up to 5 for traces. A filter at rank `r` shows levels of rank
at most `r`. -/
def rank : Level → Nat
  | .error => 1
  | .warn => 2
  | .info => 3
  | .debug => 4
  | .trace => 5

end Level

/-- The component that writes a log line. -/
inductive Component where
  /-- The lock engine. -/
  | engine
  /-- The token ledger and price oracle. -/
  | ledger
  /-- The policy evaluator. -/
  | evaluator
  /-- The command line. -/
  | command
  deriving DecidableEq, Repr, Inhabited

def Component.target : Component → String
  | .engine => "cryptolock_state::engine"
  | .ledger => "cryptolock_state::ledger"
  | .evaluator => "cryptolock_policy::evaluator"
  | .command => "cryptolock"

/-- One log line. -/
structure LogLine where
  level : Level
  component : Component
  message : String
  fields : List (String × String) := []
  deriving Inhabited

def LogLine.render (l : LogLine) : String :=
  l.fields.foldl (fun acc (k, v) => acc ++ " " ++ k ++ "=" ++ v)
    (l.level.name ++ " " ++ l.component.target ++ ": " ++ l.message)

end Escrow

/-! ## Filters

Which log lines are shown. A filter is written as comma-separated directives, empty ones skipped.
A directive is either a level alone (`warn`, `4`), which sets the level for every line, or a
selector `target[span{field,...}]` with an optional `=level`:

* `target` limits the directive to lines whose target begins with it;
* `[span]` limits it to lines inside a span of that name, and `{a,b}` to lines carrying the
  fields `a` and `b`; the span's name may be left out (`[{a}]`);
* a missing level, in `target` or `target=`, shows every level.

A level is a number from 0 (`off`) to 5 (`trace`), written with digits and an optional `+`, or
a level name in any case. A selector must name a target, a span or a field, and no field name
may be empty. The text before `=` is always a selector, even when it spells a level; its target
has to begin with a letter, a digit or `_`, while a selector standing alone only has to hold
something other than blanks. Text that is not a list of directives leaves the whole filter
unreadable, and the command line then falls back to `warn,cryptolock=info`.

A line is decided by the most specific directive that applies to it: the one with the longest
target, then the one naming more fields. The program opens no spans, so a directive naming a
span applies to no line.
-/

namespace Escrow

/-- A directive for lines outside spans: the target prefix it applies to, if any, the fields a
line must carry, and the most verbose rank it shows (0 shows nothing, 5 everything). -/
structure Directive where
  target : Option String := none
  fields : List String := []
  rank : Nat
  deriving Repr, DecidableEq

/-- What a directive reads as: a rule for lines outside spans, or one that only applies inside
a span it names. -/
inductive FilterRule where
  | lines (d : Directive)
  | withinSpan
  deriving Repr, DecidableEq

def unsignedValue? (s : String) : Option Nat :=
  let digits := match s.toList with
    | '+' :: rest => rest
    | cs => cs
  if !digits.isEmpty && digits.all Char.isDigit then
    some (digits.foldl (fun acc c => 10 * acc + (c.toNat - '0'.toNat)) 0)
  else none

/-- The rank a level text stands for: a number up to 5, a level name in any case, or the empty
text for `error`. -/
def levelRank? (s : String) : Option Nat :=
  match unsignedValue? s with
  | some n => if n ≤ 5 then some n else none
  | none =>
    match s.toLower with
    | "" => some 1
    | "off" => some 0
    | "error" => some 1
    | "warn" => some 2
    | "info" => some 3
    | "debug" => some 4
    | "trace" => some 5
    | _ => none

def splitAtFirst (sep : Char) (s : String) : Option (String × String) :=
  match s.toList.span (· != sep) with
  | (_, []) => none
  | (front, _ :: back) => some (String.ofList front, String.ofList back)

def withoutCloser (close : Char) (s : String) : Option String :=
  match s.toList.reverse with
  | c :: rest => if c = close then some (String.ofList rest.reverse) else none
  | [] => none

def nonEmpty (s : String) : Option String := if s.isEmpty then none else some s

def fieldNames? (s : String) : Option (List String) :=
  let names := s.splitOn ","
  if names.any (·.isEmpty) then none else some names

/-- A selector as read: its target, the span it names, and its fields. -/
structure Selector where
  target : Option String
  span : Option String
  fields : List String

/-- Reads `target[span{a,b}]`. The part in brackets has to end the text, and a field list has to
end the part in brackets. -/
def readSelector? (head : String) : Option Selector :=
  match splitAtFirst '[' head with
  | none => some ⟨nonEmpty head, none, []⟩
  | some (target, bracket) => do
    let inner ← withoutCloser ']' bracket
    match splitAtFirst '\x7b' inner with
    | none => some ⟨nonEmpty target, nonEmpty inner, []⟩
    | some (name, list) =>
      let fields ← fieldNames? (← withoutCloser '\x7d' list)
      some ⟨nonEmpty target, nonEmpty name, fields⟩

def targetStart (c : Char) : Bool := Text.isAlphanumeric c || c = '_'

/-- Reads a selector at a rank. It has to name something; before `=` (`strict`), its target has
to begin with a letter, a digit or `_`. -/
def readRule? (head : String) (rank : Nat) (strict : Bool) : Option FilterRule := do
  let sel ← readSelector? head
  if sel.target.isNone && sel.span.isNone && sel.fields.isEmpty then none
  else if strict && !(sel.target.all fun t => t.toList.head?.all targetStart) then none
  else if sel.span.isSome then some .withinSpan
  else some (.lines { target := sel.target, fields := sel.fields, rank })

def parseDirective (s : String) : Option FilterRule :=
  match levelRank? s with
  | some rank => some (.lines { rank })
  | none =>
    match s.splitOn "=" with
    | [alone] => if alone.all Text.isBlank then none else readRule? alone 5 false
    | [head, level] => do
      let rank ← if level.isEmpty then some 5 else levelRank? level
      readRule? head rank true
    | _ => none

/-- How specific a directive is, compared with another: by the length of its target in bytes (a
directive without one is the least specific), then by the number of fields it names, then, to
order directives that are equally specific, by its target and its fields as texts. -/
def Directive.compareSpecific (d e : Directive) : Ordering :=
  let length : Option String → Nat := fun t => match t with
    | some t => t.utf8ByteSize + 1
    | none => 0
  (compare (length d.target) (length e.target)).then
    ((compare d.fields.length e.fields.length).then
      ((compare (d.target.getD "") (e.target.getD "")).then
        (compare d.fields e.fields)))

/-- A filter: its directives, most specific first. -/
structure LogFilter where
  directives : List Directive := []
  deriving Repr

/-- Places a directive among directives ordered most specific first, replacing one that is as
specific. -/
def insertDirective (d : Directive) : List Directive → List Directive
  | [] => [d]
  | e :: rest =>
    match d.compareSpecific e with
    | .gt => d :: e :: rest
    | .eq => d :: rest
    | .lt => e :: insertDirective d rest

def LogFilter.add (f : LogFilter) (d : Directive) : LogFilter :=
  { directives := insertDirective d f.directives }

/-- Reads a filter; `none` when any directive cannot be read. Empty directives are skipped, and
those that only apply inside spans are left out. -/
def LogFilter.parse (spec : String) : Option LogFilter :=
  let parts := (spec.splitOn ",").filter (!·.isEmpty)
  (parts.mapM parseDirective).map fun rs =>
    (rs.filterMap fun r => match r with
      | .lines d => some d
      | .withinSpan => none).foldl LogFilter.add {}

def LogFilter.fallback : LogFilter :=
  { directives := [{ target := some "cryptolock", rank := 3 }, { rank := 2 }] }

def LogFilter.ofSetting (spec : Option String) : LogFilter :=
  (spec.bind LogFilter.parse).getD LogFilter.fallback

def Directive.appliesTo (d : Directive) (target : String) (fields : List String) : Bool :=
  (match d.target with
    | some t => t.isPrefixOf target
    | none => true) &&
  d.fields.all (fields.contains ·)

def LogFilter.shows (f : LogFilter) (target : String) (fields : List String) (level : Level) :
    Bool :=
  match f.directives.find? (·.appliesTo target fields) with
  | some d => level.rank ≤ d.rank
  | none => false

def LogFilter.admits (f : LogFilter) (l : LogLine) : Bool :=
  f.shows l.component.target ("message" :: l.fields.map (·.1)) l.level

end Escrow
