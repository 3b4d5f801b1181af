import Escrow.Text.Alphanumeric
import Escrow.Error

/-!
Policy tokens. A policy is a flat list of symbols: `(`, `)`, the connectives AND and OR, and
placeholders, each of which stands for one criterion. A symbol is read after trimming blank
characters; `a`, `and`, `&&` are AND and `o`, `or`, `||` are OR, in any ASCII case.
-/

set_option autoImplicit false

namespace Escrow.Policy

open Escrow.Text

/-- The two connectives of a policy. -/
inductive Connective where
  | and
  | or
  deriving DecidableEq, Repr, Inhabited

def Connective.apply : Connective → Bool → Bool → Bool
  | .and, a, b => a && b
  | .or, a, b => a || b

/-- One symbol of a policy. -/
inductive Token where
  | lparen
  | rparen
  | op (c : Connective)
  /-- Any other symbol; stands for one criterion. -/
  | placeholder (name : String)
  deriving DecidableEq, Repr, Inhabited

namespace Token

def isPlaceholder : Token → Bool
  | .placeholder _ => true
  | _ => false

def symbol : Token → String
  | .lparen => "("
  | .rparen => ")"
  | .op .and => "a"
  | .op .or => "o"
  | .placeholder name => name

def display : Token → String
  | .op .and => "AND"
  | .op .or => "OR"
  | t => t.symbol

def classify (trimmed : String) : Token :=
  match trimmed.toLower with
  | "(" => .lparen
  | ")" => .rparen
  | "a" | "and" | "&&" => .op .and
  | "o" | "or" | "||" => .op .or
  | _ => .placeholder trimmed

def ofSymbol? (symbol : String) : Option Token :=
  let trimmed := trimBlank symbol
  if trimmed.isEmpty then none else some (classify trimmed)

end Token

end Escrow.Policy

/-! ## Rendering

Rendering a bound policy as text: tokens joined by single spaces, connectives as `AND` and
`OR`, and each placeholder that the next ref binds written as `kind#id`. Refs are taken in
order, each at most once, so a ref that does not bind the placeholder at hand holds back the
refs after it.
-/

namespace Escrow.Policy

def renderParts : List Token → Nat → List CriterionRef → List String
  | [], _, _ => []
  | t :: rest, position, refs =>
    match t, refs with
    | .placeholder _, r :: later =>
      if r.position = position then
        (r.kind.name ++ "#" ++ toString r.id) :: renderParts rest (position + 1) later
      else t.display :: renderParts rest (position + 1) refs
    | _, _ => t.display :: renderParts rest (position + 1) refs

def renderPolicy (tokens : List Token) (refs : List CriterionRef) : String :=
  " ".intercalate (renderParts tokens 0 refs)

end Escrow.Policy
