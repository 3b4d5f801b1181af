import Escrow.Policy.Token
import Escrow.Error
import Escrow.Criterion.Spec

/-!
Compiling a submitted expression. A compiled policy is a token list in the grammar
`S ::= T (op T)*`, `T ::= placeholder | ( S )`, in which every group, the top level included,
uses one connective only, together with the positions of its placeholders from the left.
The checks run in a fixed order: size, symbols, grammar, then the counts and positions the
request declares; the first failure is reported.
-/

set_option autoImplicit false

namespace Escrow.Policy

/-- Size bounds on a submitted expression. -/
structure Limits where
  maxTokens : Nat := 64
  deriving Repr, Inhabited

/-- A well-formed expression and the positions of its placeholders, left to right. -/
structure Compiled where
  tokens : List Token
  positions : List Nat
  deriving DecidableEq, Repr, Inhabited

/-- Where the grammar walk stands: the connective used so far in the innermost open group,
those of the enclosing groups (innermost first; empty at top level), whether an operand comes
next, and the placeholder positions met so far (last first). -/
structure Walk where
  current : Option Connective := none
  enclosing : List (Option Connective) := []
  expectOperand : Bool := true
  placeholders : List Nat := []
  deriving Repr, Inhabited

namespace Walk

def step (w : Walk) (i : Nat) : Token → Except ExprFault Walk
  | .placeholder _ =>
    if w.expectOperand then .ok { w with expectOperand := false, placeholders := i :: w.placeholders }
    else .error (.missingOperator i)
  | .lparen =>
    if w.expectOperand then .ok { w with current := none, enclosing := w.current :: w.enclosing }
    else .error (.openAfterOperand i)
  | .rparen =>
    if w.expectOperand then .error (.closeWithoutOperand i)
    else match w.enclosing with
      | [] => .error (.unbalancedClose i)
      | outer :: rest => .ok { w with current := outer, enclosing := rest }
  | .op c =>
    if w.expectOperand then .error (.operatorWithoutOperand i)
    else match w.current with
      | some prev => if prev = c then .ok { w with expectOperand := true }
        else .error (.mixedConnectives i)
      | none => .ok { w with current := some c, expectOperand := true }

def run (w : Walk) (i : Nat) : List Token → Except ExprFault Walk
  | [] => .ok w
  | t :: rest => do
    let w' ← w.step i t
    w'.run (i + 1) rest

def finish (w : Walk) : Except ExprFault (List Nat) :=
  if w.expectOperand then .error .danglingOperator
  else if w.enclosing.isEmpty then .ok w.placeholders.reverse
  else .error (.unclosed w.enclosing.length)

end Walk

def checkGrammar (tokens : List Token) : Except ExprFault (List Nat) := do
  let w ← ({} : Walk).run 0 tokens
  w.finish

def tokenize (symbols : List String) : Except ExprFault (List Token) :=
  symbols.mapM fun s => match Token.ofSymbol? s with
    | some t => .ok t
    | none => .error .emptySymbol

def compile (symbols : List String) (criterionCount : Nat) (declared : List Nat)
    (descriptorCount : Nat) (limits : Limits := {}) : Except ExprFault Compiled := do
  if symbols.isEmpty then throw .empty
  if symbols.length > limits.maxTokens then throw (.tooLong symbols.length limits.maxTokens)
  let tokens ← tokenize symbols
  let positions ← checkGrammar tokens
  let found := positions.length
  if criterionCount ≠ found then throw (.criterionCount criterionCount found)
  if descriptorCount ≠ found then throw (.descriptorCount descriptorCount found)
  if declared ≠ positions then throw (.positions declared positions)
  pure { tokens, positions }

end Escrow.Policy

/-! ## Binding

Binding a compiled policy to its criteria: one criterion is allocated per placeholder, from the
left, and each placeholder is bound to the id it gets. The first failed allocation ends the
binding, and its error is the result.
-/

namespace Escrow.Policy

variable {m : Type → Type} [Monad m] [MonadExceptOf LockError m]

/-- Allocates a criterion for each placeholder of `compiled`, in order, with the matching
descriptor, and binds the placeholder to the id the allocation returns. -/
def bindCriteria (compiled : Compiled) (descriptors : List Descriptor)
    (allocate : Descriptor → m Nat) : m (List CriterionRef) := do
  if descriptors.length ≠ compiled.positions.length then
    throw (LockError.malformedExpression .descriptorCountChanged)
  (compiled.positions.zip descriptors).mapM fun (position, d) => do
    let id ← allocate d
    pure { position, kind := d.kind, id }

end Escrow.Policy
