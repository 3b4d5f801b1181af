/-!
JSON documents as the command line prints them. A value is written either compactly, with no
blank at all, or pretty: two blanks of indentation per level, one member or element per line,
and `[]` or `{}` for an empty array or object. Strings escape the quote, the backslash and the
control characters, and keep every other character as it is.
-/

set_option autoImplicit false

namespace Escrow.Json

/-- A JSON value. Object members keep the order they are given in. -/
inductive Value where
  | null
  | bool (b : Bool)
  | number (n : Int)
  | str (s : String)
  | arr (items : List Value)
  | obj (members : List (String × Value))
  deriving Repr, Inhabited

def lowerHexDigit (n : Nat) : Char :=
  if n < 10 then Char.ofNat (48 + n) else Char.ofNat (87 + n)

def escapeChar (c : Char) : String :=
  if c = '"' then "\\\""
  else if c = '\\' then "\\\\"
  else if c = '\n' then "\\n"
  else if c = '\r' then "\\r"
  else if c = '\t' then "\\t"
  else if c.toNat = 8 then "\\b"
  else if c.toNat = 12 then "\\f"
  else if c.toNat < 32 then
    String.ofList ['\\', 'u', '0', '0', lowerHexDigit (c.toNat / 16), lowerHexDigit (c.toNat % 16)]
  else c.toString

def quote (s : String) : String :=
  "\"" ++ String.join (s.toList.map escapeChar) ++ "\""

def indentation (depth : Nat) : String := String.ofList (List.replicate (2 * depth) ' ')

def scalarText : Value → String
  | .null => "null"
  | .bool b => if b then "true" else "false"
  | .number n => toString n
  | .str s => quote s
  | .arr _ => "[]"
  | .obj _ => "\x7b\x7d"

mutual

def Value.compact : Value → String
  | .arr items => "[" ++ compactItems items ++ "]"
  | .obj members => "\x7b" ++ compactMembers members ++ "\x7d"
  | v => scalarText v

def compactItems : List Value → String
  | [] => ""
  | [v] => v.compact
  | v :: rest => v.compact ++ "," ++ compactItems rest

def compactMembers : List (String × Value) → String
  | [] => ""
  | [(k, v)] => quote k ++ ":" ++ v.compact
  | (k, v) :: rest => quote k ++ ":" ++ v.compact ++ "," ++ compactMembers rest

end

mutual

def Value.prettyAt (depth : Nat) : Value → String
  | .arr [] => "[]"
  | .arr items => "[" ++ prettyItems (depth + 1) items ++ "\n" ++ indentation depth ++ "]"
  | .obj [] => "\x7b\x7d"
  | .obj members =>
    "\x7b" ++ prettyMembers (depth + 1) members ++ "\n" ++ indentation depth ++ "\x7d"
  | v => scalarText v

def prettyItems (depth : Nat) : List Value → String
  | [] => ""
  | [v] => "\n" ++ indentation depth ++ v.prettyAt depth
  | v :: rest => "\n" ++ indentation depth ++ v.prettyAt depth ++ "," ++ prettyItems depth rest

def prettyMembers (depth : Nat) : List (String × Value) → String
  | [] => ""
  | [(k, v)] => "\n" ++ indentation depth ++ quote k ++ ": " ++ v.prettyAt depth
  | (k, v) :: rest =>
    "\n" ++ indentation depth ++ quote k ++ ": " ++ v.prettyAt depth ++ "," ++
      prettyMembers depth rest

end

def Value.pretty (v : Value) : String := v.prettyAt 0

def Value.nat (n : Nat) : Value := .number n

def Value.option {α : Type} (f : α → Value) : Option α → Value
  | some a => f a
  | none => .null

end Escrow.Json
