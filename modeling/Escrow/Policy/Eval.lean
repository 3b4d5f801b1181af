import Escrow.Policy.Token
import Escrow.Error

/-!
Evaluating a policy to one truth value. AND and OR share one precedence level and apply left
to right; `(` opens a group that the matching `)` closes. The reduction keeps two stacks: the
operands computed so far and the pending connectives, with a barrier for each open group.
Every criterion is resolved before the reduction starts, so a failing lookup always surfaces.
-/

set_option autoImplicit false

namespace Escrow.Policy

/-- An entry of the connective stack: a pending connective, or the barrier of an open group. -/
inductive Pending where
  | barrier
  | op (c : Connective)
  deriving DecidableEq, Repr

def applyTop (c : Connective) : List Bool → Except PolicyFault (List Bool)
  | rhs :: lhs :: rest => .ok (c.apply lhs rhs :: rest)
  | [_] => .error .noLeftOperand
  | [] => .error .noRightOperand

def closeGroup (position : Nat) : List Pending → List Bool → Except PolicyFault (List Pending × List Bool)
  | .barrier :: ops, vals => .ok (ops, vals)
  | .op c :: ops, vals => do closeGroup position ops (← applyTop c vals)
  | [], _ => .error (.unbalancedClose position)

def settle : List Pending → List Bool → Except PolicyFault (List Pending × List Bool)
  | .op c :: ops, vals => do settle ops (← applyTop c vals)
  | ops, vals => .ok (ops, vals)

def settleAll : List Pending → List Bool → Except PolicyFault (List Bool)
  | [], vals => .ok vals
  | .barrier :: _, _ => .error .unbalancedOpen
  | .op c :: ops, vals => do settleAll ops (← applyTop c vals)

/-- The two-stack reduction of the tokens from `position` on, with the value of each
placeholder looked up by its position. -/
def reduceFrom (values : List (Option Bool)) : List Token → Nat → List Pending → List Bool →
    Except PolicyFault Bool
  | [], _, ops, vals => do
    match ← settleAll ops vals with
    | [v] => .ok v
    | other => .error (.reducedTo other.length)
  | .placeholder name :: rest, position, ops, vals =>
    match values[position]? with
    | some (some v) => reduceFrom values rest (position + 1) ops (v :: vals)
    | _ => .error (.unbound name position)
  | .lparen :: rest, position, ops, vals => reduceFrom values rest (position + 1) (.barrier :: ops) vals
  | .rparen :: rest, position, ops, vals => do
    let (ops', vals') ← closeGroup position ops vals
    reduceFrom values rest (position + 1) ops' vals'
  | .op c :: rest, position, ops, vals => do
    let (ops', vals') ← settle ops vals
    reduceFrom values rest (position + 1) (.op c :: ops') vals'

def reduce (tokens : List Token) (values : List (Option Bool)) : Except PolicyFault Bool :=
  reduceFrom values tokens 0 [] []

def spreadValues : List Token → List Bool → Except PolicyFault (List (Option Bool))
  | [], [] => .ok []
  | [], _ :: _ => .error .moreValues
  | t :: rest, vs =>
    if t.isPlaceholder then
      match vs with
      | v :: vs' => do pure (some v :: (← spreadValues rest vs'))
      | [] => .error .fewerValues
    else do pure (none :: (← spreadValues rest vs))

def evaluateValues (tokens : List Token) (values : List Bool) : Except PolicyFault Bool := do
  reduce tokens (← spreadValues tokens values)

def placeholderAt (tokens : List Token) (position : Nat) : Bool :=
  (tokens[position]?).any Token.isPlaceholder

section Resolve

variable {m : Type → Type} [Monad m] [MonadExceptOf LockError m]

/-- Resolves each ref in turn, stopping at the first failure, and records each value at its
ref's position. A ref that points at no placeholder is a fault, found before it is resolved. -/
def resolveRefs (tokens : List Token) (resolve : CriterionRef → m Bool) :
    List CriterionRef → List (Option Bool) → m (List (Option Bool))
  | [], values => pure values
  | r :: rest, values =>
    if placeholderAt tokens r.position then do
      let v ← resolve r
      resolveRefs tokens resolve rest (values.set r.position (some v))
    else throw (LockError.policyInvariant (.nonPlaceholder r.kind r.id r.position))

/-- Evaluates a policy whose placeholders are bound by `refs`, each resolved by `resolve` in
the order of `refs`. -/
def evaluate (tokens : List Token) (refs : List CriterionRef) (resolve : CriterionRef → m Bool) :
    m Bool := do
  let values ← resolveRefs tokens resolve refs (tokens.map fun _ => none)
  match reduce tokens values with
  | .ok b => pure b
  | .error fault => throw (LockError.policyInvariant fault)

end Resolve

end Escrow.Policy
