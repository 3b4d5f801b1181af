import Escrow.Json.Scan

/-!
Reading a JSON document straight into typed values, one byte at a time, without building a tree
first. The reader keeps the bytes ahead with the line and column of the next one; each typed
reader takes exactly the bytes of its value, so the first fault met in the text is the one
reported, with the place it was met.

A container closes even when reading its contents failed, so that a fault without a place (a
wrong field, a value's own refusal) is placed where the container ends. Loops over the members of
a container take a step bound; every step reads at least one byte, so a bound of one more than
the document's length is never reached.
-/

set_option autoImplicit false

namespace Escrow.Json

/-- A reading position: the bytes not yet read, and the line and column of the next one. -/
structure Cursor where
  rest : List UInt8
  line : Nat := 1
  column : Nat := 0
  deriving Repr

namespace Cursor

def ofString (text : String) : Cursor := { rest := text.toUTF8.toList }

def place (c : Cursor) : Nat × Nat := (c.line, c.column)

def advance (c : Cursor) : Cursor :=
  match c.rest with
  | [] => c
  | b :: rest =>
    if b = 0x0A then { rest, line := c.line + 1, column := 0 }
    else { rest, line := c.line, column := c.column + 1 }

def advanceBy : Nat → Cursor → Cursor
  | 0, c => c
  | n + 1, c => advanceBy n c.advance

def nextPlace (c : Cursor) : Nat × Nat := c.advance.place

def isBlank (b : UInt8) : Bool := b == 0x20 || b == 0x09 || b == 0x0A || b == 0x0D

def skipBlank (c : Cursor) : Cursor := c.advanceBy (c.rest.takeWhile isBlank).length

end Cursor

/-- A reading step: it moves the cursor and gives a value, or stops at a fault with the cursor
where reading stopped. -/
abbrev Reading := EStateM JsonError Cursor

namespace Reading

def peek : Reading (Option UInt8) := fun c => .ok c.rest.head? c

def bump : Reading Unit := fun c => .ok () c.advance

def peekAfterBlank : Reading (Option UInt8) := fun c =>
  let c := c.skipBlank
  .ok c.rest.head? c

def failHere {α : Type} (f : JsonFault) : Reading α := fun c =>
  .error { fault := f, place := some c.place } c

def failAhead {α : Type} (f : JsonFault) : Reading α := fun c =>
  .error { fault := f, place := some c.nextPlace } c

def faultAhead (f : JsonFault) : Reading JsonError := fun c =>
  .ok { fault := f, place := some c.nextPlace } c

def raise {α : Type} (f : JsonFault) : Reading α := fun c => .error { fault := f } c

def placed (e : JsonError) : Reading JsonError := fun c => .ok (e.placeAt c.place) c

def run {α : Type} (scan : List UInt8 → Scan α) : Reading α := fun c =>
  match scan c.rest with
  | .done taken value => .ok value (c.advanceBy taken)
  | .fault taken f ahead =>
    let c := c.advanceBy taken
    .error { fault := f, place := some (if ahead then c.nextPlace else c.place) } c

def attempt {α : Type} (r : Reading α) : Reading (Except JsonError α) := fun c =>
  match r c with
  | .ok a c => .ok (.ok a) c
  | .error e c => .ok (.error e) c

/-- Runs `body` and then `close`, also when `body` failed. The first fault wins, and a fault
without a place gets the place reached after `close`. -/
def closing {α : Type} (body : Reading α) (close : Reading Unit) : Reading α := fun c =>
  match body c with
  | .ok a c =>
    match close c with
    | .ok _ c => .ok a c
    | .error e c => .error (e.placeAt c.place) c
  | .error e c =>
    let c := match close c with
      | .ok _ c => c
      | .error _ c => c
    .error (e.placeAt c.place) c

/-! ## Scalars -/

def ident (letters : String) : Reading Unit := run (fun bs => scanIdent letters.toList bs 0)

def strBody : Reading String := do
  let bytes ← run (fun bs => scanStr bs 0 [])
  pure ((String.fromUTF8? (ByteArray.mk bytes.toArray)).getD "")

/-- The fault for a value of the wrong kind where `expected` was wanted. The value is read to
name it; a fault met inside it is reported instead. -/
def invalidType (expected : String) : Reading JsonError := do
  let found ← attempt (do
    match ← peek with
    | none => pure none
    | some b =>
      match ch b with
      | 'n' => bump; ident "ull"; pure (some Found.null)
      | 't' => bump; ident "rue"; pure (some (Found.bool true))
      | 'f' => bump; ident "alse"; pure (some (Found.bool false))
      | '-' => bump; let n ← run (scanNumber false); pure (some n.found)
      | '"' => bump; let s ← strBody; pure (some (Found.str s))
      | '[' => pure (some Found.seq)
      | '{' => pure (some Found.map)
      | _ =>
        if isDigitByte b then do let n ← run (scanNumber true); pure (some n.found)
        else pure none)
  match found with
  | .error e => pure e
  | .ok (some found) => placed { fault := .invalidType found expected }
  | .ok none => faultAhead .expectedValue

def str : Reading String := do
  match ← peekAfterBlank with
  | none => failAhead .eofValue
  | some b => if ch b = '"' then do bump; strBody else throw (← invalidType "a string")

def count : Reading Nat := do
  let number ← match ← peekAfterBlank with
    | none => failAhead .eofValue
    | some b =>
      if ch b = '-' then do bump; run (scanNumber false)
      else if isDigitByte b then run (scanNumber true)
      else throw (← invalidType "usize")
  match number with
  | .unsigned n => pure n
  | .negative n => throw (← placed { fault := .invalidValue (.signed (-(n : Int))) "usize" })
  | .float .. => throw (← placed { fault := .invalidType number.found "usize" })

def amount : Reading Nat := do
  match ← peekAfterBlank with
  | none => failAhead .eofValue
  | some b => if ch b = '-' then failAhead .numberOutOfRange else pure ()
  let n ← run scanWide
  if n < Nat.pow 2 128 then pure n else failHere .numberOutOfRange

def optional {α : Type} (r : Reading α) : Reading (Option α) := do
  match ← peekAfterBlank with
  | some b => if ch b = 'n' then do bump; ident "ull"; pure none else some <$> r
  | none => some <$> r

def finish : Reading Unit := do
  match ← peekAfterBlank with
  | some _ => failAhead .trailingCharacters
  | none => pure ()

/-! ## Containers -/

def nextElement (first : Bool) : Reading Bool := do
  match ← peekAfterBlank with
  | none => failAhead .eofList
  | some b =>
    if ch b = ']' then pure false
    else if ch b = ',' && !first then do
      bump
      match ← peekAfterBlank with
      | none => failAhead .eofValue
      | some b => if ch b = ']' then failAhead .trailingComma else pure true
    else if first then pure true
    else failAhead .expectedListCommaOrEnd

/-- The key of the next member of an object whose `{` is read, if another follows; a separating
comma and the key are taken. -/
def nextKey (first : Bool) : Reading (Option String) := do
  match ← peekAfterBlank with
  | none => failAhead .eofObject
  | some b =>
    if ch b = '}' then pure none
    else
      let next ←
        if ch b = ',' && !first then do bump; peekAfterBlank
        else if first then pure (some b)
        else failAhead .expectedObjectCommaOrEnd
      match next with
      | none => failAhead .eofValue
      | some b =>
        if ch b = '"' then do bump; some <$> strBody
        else if ch b = '}' then failAhead .trailingComma
        else failAhead .keyMustBeString

def colon : Reading Unit := do
  match ← peekAfterBlank with
  | some b => if ch b = ':' then bump else failAhead .expectedColon
  | none => failAhead .eofObject

def closeSeq : Reading Unit := do
  match ← peekAfterBlank with
  | none => failAhead .eofList
  | some b =>
    if ch b = ']' then bump
    else if ch b = ',' then do
      bump
      match ← peekAfterBlank with
      | some b => if ch b = ']' then failAhead .trailingComma else failAhead .trailingCharacters
      | none => failAhead .trailingCharacters
    else failAhead .trailingCharacters

def closeMap : Reading Unit := do
  match ← peekAfterBlank with
  | none => failAhead .eofObject
  | some b =>
    if ch b = '}' then bump
    else if ch b = ',' then failAhead .trailingComma
    else failAhead .trailingCharacters

def seq {α : Type} (expected : String) (body : Reading α) : Reading α := do
  match ← peekAfterBlank with
  | none => failAhead .eofValue
  | some b => if ch b = '[' then do bump; closing body closeSeq else throw (← invalidType expected)

/-- Reads a record, written either as an array of its fields in order (`asSeq`) or as an object
(`asMap`). -/
def record {α : Type} (expected : String) (asSeq asMap : Reading α) : Reading α := do
  match ← peekAfterBlank with
  | none => failAhead .eofValue
  | some b =>
    if ch b = '[' then do bump; closing asSeq closeSeq
    else if ch b = '{' then do bump; closing asMap closeMap
    else throw (← invalidType expected)

/-- Reads the members of an object up to its `}`, which is left unread; `member` reads the colon
and the value of a member with the given key. -/
def members {σ : Type} (member : String → σ → Reading σ) : Nat → Bool → σ → Reading σ
  | 0, _, acc => pure acc
  | bound + 1, first, acc => do
    match ← nextKey first with
    | none => pure acc
    | some key => members member bound false (← member key acc)

def elements {σ : Type} (element : σ → Reading σ) : Nat → Bool → σ → Reading σ
  | 0, _, acc => pure acc
  | bound + 1, first, acc => do
    if ← nextElement first then elements element bound false (← element acc) else pure acc

mutual

def skipValue : Nat → Reading Unit
  | 0 => failHere .eofValue
  | bound + 1 => do
    match ← peekAfterBlank with
    | none => failAhead .eofValue
    | some b =>
      match ch b with
      | 'n' => bump; ident "ull"
      | 't' => bump; ident "rue"
      | 'f' => bump; ident "alse"
      | '-' => bump; run skipNumber
      | '"' => bump; run (fun bs => skipStr bs 0)
      | '[' => bump; skipItems bound
      | '{' => bump; skipFields bound
      | _ => if isDigitByte b then run skipNumber else failAhead .expectedValue

def skipItems : Nat → Reading Unit
  | 0 => failHere .eofList
  | bound + 1 => do
    match ← peekAfterBlank with
    | none => failAhead .eofList
    | some b =>
      if ch b = ']' then bump
      else do skipValue bound; skipMoreItems bound

def skipMoreItems : Nat → Reading Unit
  | 0 => failHere .eofList
  | bound + 1 => do
    match ← peekAfterBlank with
    | none => failAhead .eofList
    | some b =>
      if ch b = ',' then do bump; skipValue bound; skipMoreItems bound
      else if ch b = ']' then bump
      else failAhead .expectedListCommaOrEnd

def skipFields : Nat → Reading Unit
  | 0 => failHere .eofObject
  | bound + 1 => do
    match ← peekAfterBlank with
    | none => failAhead .eofObject
    | some b =>
      if ch b = '}' then bump
      else do skipMember bound; skipMoreFields bound

def skipMoreFields : Nat → Reading Unit
  | 0 => failHere .eofObject
  | bound + 1 => do
    match ← peekAfterBlank with
    | none => failAhead .eofObject
    | some b =>
      if ch b = ',' then do bump; skipMember bound; skipMoreFields bound
      else if ch b = '}' then bump
      else failAhead .expectedObjectCommaOrEnd

def skipMember : Nat → Reading Unit
  | 0 => failHere .eofObject
  | bound + 1 => do
    match ← peekAfterBlank with
    | none => failAhead .eofObject
    | some b =>
      if ch b = '"' then do
        bump
        run (fun bs => skipStr bs 0)
        colon
        skipValue bound
      else failAhead .keyMustBeString

end

/-- Reads a whole document with `r`, which is given a step bound, and requires nothing but
blanks after the value. -/
def document {α : Type} (r : Nat → Reading α) (text : String) : Except JsonError α :=
  let c := Cursor.ofString text
  match (do let v ← r (c.rest.length + 1); finish; pure v) c with
  | .ok v _ => .ok v
  | .error e _ => .error e

end Reading

end Escrow.Json
