import Escrow.Policy.Token

/-! Policies as derivation trees of their grammar.

A policy in `S ::= T (op T)*`, `T ::= placeholder | ( S )` is a `Chain` of `Term`s. A chain
grows at its right end, so its value folds its terms from the left at one precedence level.
Placeholder values are drawn from a list, left to right. A chain is `uniform` when every
group, the top level included, uses one connective only: those are the policies that
compile, and their value is the conjunction or the disjunction of each group's terms.
-/

set_option autoImplicit false

namespace Escrow.Policy

mutual

/-- An operand: a placeholder, or a parenthesised chain. -/
inductive Term where
  | leaf (name : String)
  | group (body : Chain)

/-- Terms joined by connectives, built from the left. -/
inductive Chain where
  | single (term : Term)
  | snoc (init : Chain) (op : Connective) (last : Term)

end

mutual

def Term.tokens : Term → List Token
  | .leaf name => [.placeholder name]
  | .group body => .lparen :: (body.tokens ++ [.rparen])

def Chain.tokens : Chain → List Token
  | .single term => term.tokens
  | .snoc init op last => init.tokens ++ .op op :: last.tokens

end

mutual

def Term.leafCount : Term → Nat
  | .leaf _ => 1
  | .group body => body.leafCount

def Chain.leafCount : Chain → Nat
  | .single term => term.leafCount
  | .snoc init _ last => init.leafCount + last.leafCount

end

mutual

/-- The value with placeholders read from `values` left to right; a missing value reads as
false. -/
def Term.value : Term → List Bool → Bool
  | .leaf _, values => values.headD false
  | .group body, values => body.value values

def Chain.value : Chain → List Bool → Bool
  | .single term, values => term.value values
  | .snoc init op last, values => op.apply (init.value values) (last.value (values.drop init.leafCount))

end

def Chain.connective? : Chain → Option Connective
  | .single _ => none
  | .snoc _ op _ => some op

mutual

def Term.uniform : Term → Bool
  | .leaf _ => true
  | .group body => body.uniform

def Chain.uniform : Chain → Bool
  | .single term => term.uniform
  | .snoc init op last => init.uniform && last.uniform && init.connective?.all (· == op)

end

/-- Joins the terms of one group: all of them under AND, any of them under OR. A group with no
connective has one term, which both readings keep. -/
def joinTerms : Option Connective → List Bool → Bool
  | some .or, terms => terms.any id
  | _, terms => terms.all id

mutual

def Term.groupValue : Term → List Bool → Bool
  | .leaf _, values => values.headD false
  | .group body, values => joinTerms body.connective? (body.termValues values)

def Chain.termValues : Chain → List Bool → List Bool
  | .single term, values => [term.groupValue values]
  | .snoc init _ last, values => init.termValues values ++ [last.groupValue (values.drop init.leafCount)]

end

def Chain.groupValue (chain : Chain) (values : List Bool) : Bool :=
  joinTerms chain.connective? (chain.termValues values)

mutual

theorem Term.countP_tokens : (term : Term) → term.tokens.countP Token.isPlaceholder = term.leafCount
  | .leaf _ => by simp [Term.tokens, Term.leafCount, Token.isPlaceholder]
  | .group body => by
    simp [Term.tokens, Term.leafCount, Token.isPlaceholder, body.countP_tokens]

theorem Chain.countP_tokens : (chain : Chain) → chain.tokens.countP Token.isPlaceholder = chain.leafCount
  | .single term => by simp [Chain.tokens, Chain.leafCount, term.countP_tokens]
  | .snoc init _ last => by
    simp [Chain.tokens, Chain.leafCount, Token.isPlaceholder, init.countP_tokens, last.countP_tokens]

end

theorem joinTerms_singleton (connective? : Option Connective) (value : Bool) :
    joinTerms connective? [value] = value := by
  rcases connective? with _ | _ | _ <;> simp [joinTerms]

theorem joinTerms_append_singleton (op : Connective) (terms : List Bool) (value : Bool) :
    joinTerms (some op) (terms ++ [value]) = op.apply (joinTerms (some op) terms) value := by
  cases op <;> simp [joinTerms, Connective.apply]

theorem Chain.termValues_of_connective_none {chain : Chain} (single : chain.connective? = none)
    (values : List Bool) : ∃ value, chain.termValues values = [value] := by
  cases chain with
  | single term => exact ⟨_, rfl⟩
  | snoc => simp [connective?] at single

mutual

theorem Term.groupValue_eq_value : (term : Term) → term.uniform = true →
    ∀ values, term.groupValue values = term.value values
  | .leaf _, _, _ => rfl
  | .group body, isUniform, values => by
    simp only [Term.groupValue, Term.value]
    exact body.groupValue_eq_value isUniform values

theorem Chain.groupValue_eq_value : (chain : Chain) → chain.uniform = true →
    ∀ values, chain.groupValue values = chain.value values
  | .single term, isUniform, values => by
    simp only [Chain.groupValue, Chain.termValues, Chain.value, joinTerms_singleton]
    exact term.groupValue_eq_value isUniform values
  | .snoc init op last, isUniform, values => by
    simp only [Chain.uniform, Bool.and_eq_true] at isUniform
    obtain ⟨⟨initUniform, lastUniform⟩, sameOp⟩ := isUniform
    -- the init chain is read under `op` too: it has no connective, or it has `op`
    have initJoin : joinTerms (some op) (init.termValues values) = init.value values := by
      rw [← init.groupValue_eq_value initUniform values, Chain.groupValue]
      cases hop : init.connective? with
      | none =>
        obtain ⟨value, single⟩ := init.termValues_of_connective_none hop values
        simp [single, joinTerms_singleton]
      | some prev =>
        rw [hop] at sameOp
        simp only [Option.all_some, beq_iff_eq] at sameOp
        rw [sameOp]
    simp only [Chain.groupValue, Chain.connective?, Chain.termValues, Chain.value,
      joinTerms_append_singleton, initJoin, last.groupValue_eq_value lastUniform]

end

end Escrow.Policy
