import Escrow.Proofs.Policy.Evaluation
import Escrow.Proofs.Ledger

/-! What the reduction checks of a policy's shape.

The two-stack reduction makes no grammar check of its own. Its faults are a connective short of
operands, a `)` with no group open, a `(` left open, and an operand count other than one at the
end, and none of them looks at a value. So a policy evaluates exactly when the same reduction run
on operand counts completes (`evaluateValues_ok_iff_wellShaped`). A well-shaped policy has
parentheses that pair up and one connective fewer than placeholders, but these counts do not
suffice: in `c1 ( a ) c2` the grouped connective finds one operand. Texts outside the grammar can
be well shaped: the postfix `c1 c2 a` reads as `c1 and c2`, and an empty group `c1 ( )` as `c1`.
-/

set_option autoImplicit false

namespace Escrow.Policy

def Token.isConnective : Token → Bool
  | .op _ => true
  | _ => false

/-- Whether the parentheses of `tokens` pair up when `depth` groups are open before them: no `)`
comes when no group is open, and no group is open at the end. -/
def parensClose : Nat → List Token → Bool
  | depth, [] => depth == 0
  | depth, .lparen :: rest => parensClose (depth + 1) rest
  | 0, .rparen :: _ => false
  | depth + 1, .rparen :: rest => parensClose depth rest
  | depth, .op _ :: rest => parensClose depth rest
  | depth, .placeholder _ :: rest => parensClose depth rest

def openGroups : List Pending → Nat
  | [] => 0
  | .barrier :: ops => openGroups ops + 1
  | .op _ :: ops => openGroups ops

def heldConnectives : List Pending → Nat
  | [] => 0
  | .barrier :: ops => heldConnectives ops
  | .op _ :: ops => heldConnectives ops + 1

/-! ### One stack operation at a time

Settling keeps the open groups, closing a group removes one, and the last settling requires
none; on the way each connective taken off the stack takes one operand with it. -/

section Stacks

variable {ops ops' : List Pending} {vals vals' : List Bool}

theorem length_of_applyTop {c : Connective} (applied : applyTop c vals = .ok vals') :
    vals'.length + 1 = vals.length := by
  unfold applyTop at applied
  split at applied
  · cases applied
    rfl
  all_goals cases applied

/-- A connective taken off the stack leaves one operand fewer for what follows. -/
theorem of_applyTop_bind {α : Type} {c : Connective} {k : List Bool → Except PolicyFault α} {r : α}
    (applied : applyTop c vals >>= k = .ok r) :
    ∃ vals', vals'.length + 1 = vals.length ∧ k vals' = .ok r := by
  obtain ⟨vals', popped, rest⟩ := bind_eq_ok.mp applied
  exact ⟨vals', length_of_applyTop popped, rest⟩

theorem of_settle (settled : settle ops vals = .ok (ops', vals')) :
    openGroups ops' = openGroups ops ∧
      vals'.length + heldConnectives ops = vals.length + heldConnectives ops' := by
  induction ops generalizing vals with
  | nil =>
    cases settled
    exact ⟨rfl, rfl⟩
  | cons top ops ih =>
    cases top with
    | barrier =>
      cases settled
      exact ⟨rfl, rfl⟩
    | op c =>
      rw [settle] at settled
      obtain ⟨popped, shrinks, rest⟩ := of_applyTop_bind settled
      obtain ⟨same, counted⟩ := ih rest
      refine ⟨same, ?_⟩
      simp only [heldConnectives]
      omega

theorem of_closeGroup {position : Nat} (closed : closeGroup position ops vals = .ok (ops', vals')) :
    openGroups ops = openGroups ops' + 1 ∧
      vals'.length + heldConnectives ops = vals.length + heldConnectives ops' := by
  induction ops generalizing vals with
  | nil => cases closed
  | cons top ops ih =>
    cases top with
    | barrier =>
      cases closed
      exact ⟨rfl, rfl⟩
    | op c =>
      rw [closeGroup] at closed
      obtain ⟨popped, shrinks, rest⟩ := of_applyTop_bind closed
      obtain ⟨same, counted⟩ := ih rest
      refine ⟨same, ?_⟩
      simp only [heldConnectives]
      omega

theorem of_settleAll (settled : settleAll ops vals = .ok vals') :
    openGroups ops = 0 ∧ vals'.length + heldConnectives ops = vals.length := by
  induction ops generalizing vals with
  | nil =>
    cases settled
    exact ⟨rfl, rfl⟩
  | cons top ops ih =>
    cases top with
    | barrier => cases settled
    | op c =>
      rw [settleAll] at settled
      obtain ⟨popped, shrinks, rest⟩ := of_applyTop_bind settled
      obtain ⟨none, counted⟩ := ih rest
      refine ⟨none, ?_⟩
      simp only [heldConnectives]
      omega

end Stacks

/-! ### A whole reduction -/

/-- A reduction that gives a value has read parentheses that pair up with the groups already
open, and as many placeholders, with the operands already computed, as connectives, with those
held back, plus one. -/
theorem reduceFrom_ok_shape (values : List (Option Bool)) :
    ∀ {tokens : List Token} {position : Nat} {ops : List Pending} {vals : List Bool} {result : Bool},
      reduceFrom values tokens position ops vals = .ok result →
      parensClose (openGroups ops) tokens = true ∧
        tokens.countP Token.isPlaceholder + vals.length =
          tokens.countP Token.isConnective + heldConnectives ops + 1
  | [], _, ops, vals, _, reduced => by
    rw [reduceFrom] at reduced
    obtain ⟨out, settled, single⟩ := bind_eq_ok.mp reduced
    obtain ⟨closed, counted⟩ := of_settleAll settled
    -- only a single operand is a value; any other count is refused
    have one : out.length = 1 := by
      rcases out with _ | ⟨v, _ | ⟨w, more⟩⟩
      · cases single
      · rfl
      · cases single
    simp only [parensClose, closed, List.countP_nil] at counted ⊢
    exact ⟨rfl, by omega⟩
  | .placeholder name :: rest, position, ops, vals, _, reduced => by
    rw [reduceFrom] at reduced
    split at reduced
    · obtain ⟨closes, counted⟩ := reduceFrom_ok_shape values reduced
      refine ⟨by simpa only [parensClose] using closes, ?_⟩
      simp only [List.countP_cons, Token.isPlaceholder, Token.isConnective, Bool.false_eq_true,
        ↓reduceIte, List.length_cons] at counted ⊢
      omega
    · cases reduced
  | .lparen :: rest, position, ops, vals, _, reduced => by
    rw [reduceFrom] at reduced
    obtain ⟨closes, counted⟩ := reduceFrom_ok_shape values reduced
    refine ⟨by simpa only [parensClose, openGroups] using closes, ?_⟩
    simp only [List.countP_cons, Token.isPlaceholder, Token.isConnective, Bool.false_eq_true,
      ↓reduceIte, heldConnectives] at counted ⊢
    omega
  | .rparen :: rest, position, ops, vals, _, reduced => by
    rw [reduceFrom] at reduced
    obtain ⟨⟨ops', vals'⟩, closed, reduced⟩ := bind_eq_ok.mp reduced
    obtain ⟨opened, shrunk⟩ := of_closeGroup closed
    obtain ⟨closes, counted⟩ := reduceFrom_ok_shape values reduced
    -- the `)` closes one of the groups open before it
    refine ⟨by simpa only [opened, parensClose] using closes, ?_⟩
    simp only [List.countP_cons, Token.isPlaceholder, Token.isConnective, Bool.false_eq_true,
      ↓reduceIte] at counted ⊢
    omega
  | .op c :: rest, position, ops, vals, _, reduced => by
    rw [reduceFrom] at reduced
    obtain ⟨⟨ops', vals'⟩, settled, reduced⟩ := bind_eq_ok.mp reduced
    obtain ⟨same, shrunk⟩ := of_settle settled
    obtain ⟨closes, counted⟩ := reduceFrom_ok_shape values reduced
    refine ⟨by simpa only [openGroups, same, parensClose] using closes, ?_⟩
    simp only [List.countP_cons, Token.isPlaceholder, Token.isConnective, Bool.false_eq_true,
      ↓reduceIte, heldConnectives] at counted ⊢
    omega

theorem length_eq_of_spreadValues {tokens : List Token} {values : List Bool}
    {slotted : List (Option Bool)} (spread : spreadValues tokens values = .ok slotted) :
    values.length = tokens.countP Token.isPlaceholder := by
  rcases Nat.lt_trichotomy values.length (tokens.countP Token.isPlaceholder) with
    fewer | same | more
  · rw [spreadValues_of_lt fewer] at spread
    cases spread
  · exact same
  · rw [spreadValues_of_gt more] at spread
    cases spread

/-- A policy evaluates only with one value per placeholder, parentheses that pair up, and one
connective fewer than placeholders. -/
theorem evaluateValues_ok_shape {tokens : List Token} {values : List Bool} {result : Bool}
    (evaluated : evaluateValues tokens values = .ok result) :
    values.length = tokens.countP Token.isPlaceholder ∧ parensClose 0 tokens = true ∧
      tokens.countP Token.isConnective + 1 = tokens.countP Token.isPlaceholder := by
  obtain ⟨slotted, spread, reduced⟩ := bind_eq_ok.mp evaluated
  obtain ⟨closes, counted⟩ := reduceFrom_ok_shape slotted reduced
  exact ⟨length_eq_of_spreadValues spread, closes, by simpa [heldConnectives] using counted.symm⟩

/-! ### The reduction with heights for operands

No stack operation of the reduction looks at an operand's value, only at how many operands there
are. `shapeFrom` runs the same two stacks with the operand stack's height in place of the
operands; a text evaluates exactly when this run completes at height one. -/

def applyHeight (height : Nat) : Option Nat :=
  if 2 ≤ height then some (height - 1) else none

def settleHeight : List Pending → Nat → Option (List Pending × Nat)
  | .op _ :: ops, height => (applyHeight height).bind (settleHeight ops)
  | ops, height => some (ops, height)

def closeHeight : List Pending → Nat → Option (List Pending × Nat)
  | .barrier :: ops, height => some (ops, height)
  | .op _ :: ops, height => (applyHeight height).bind (closeHeight ops)
  | [], _ => none

def settleAllHeight : List Pending → Nat → Option Nat
  | [], height => some height
  | .barrier :: _, _ => none
  | .op _ :: ops, height => (applyHeight height).bind (settleAllHeight ops)

/-- The reduction of `tokens` with `height` operands on the stack and `ops` pending, run on the
operand count alone. -/
def shapeFrom : List Token → List Pending → Nat → Bool
  | [], ops, height => settleAllHeight ops height == some 1
  | .placeholder _ :: rest, ops, height => shapeFrom rest ops (height + 1)
  | .lparen :: rest, ops, height => shapeFrom rest (.barrier :: ops) height
  | .rparen :: rest, ops, height =>
    match closeHeight ops height with
    | some (ops', height') => shapeFrom rest ops' height'
    | none => false
  | .op c :: rest, ops, height =>
    match settleHeight ops height with
    | some (ops', height') => shapeFrom rest (.op c :: ops') height'
    | none => false

/-- A text is well shaped when its reduction on operand counts, from empty stacks, completes
with one operand. -/
def wellShaped (tokens : List Token) : Bool :=
  shapeFrom tokens [] 0

section Heights

variable {ops : List Pending} {vals : List Bool}

theorem map_toOption_applyTop_bind {α β : Type} {c : Connective} {k : List Bool → Except PolicyFault α}
    {f : α → β} {K : Nat → Option β} (next : ∀ vals', ((k vals').toOption).map f = K vals'.length) :
    ((applyTop c vals >>= k).toOption).map f = (applyHeight vals.length).bind K := by
  rcases vals with _ | ⟨rhs, _ | ⟨lhs, rest⟩⟩
  · rfl
  · rfl
  · simpa [applyTop, applyHeight, bind, Except.bind] using next (c.apply lhs rhs :: rest)

theorem map_toOption_settle :
    ((settle ops vals).toOption).map (fun s => (s.1, s.2.length)) = settleHeight ops vals.length := by
  induction ops generalizing vals with
  | nil => rfl
  | cons top ops ih =>
    cases top with
    | barrier => rfl
    | op c => exact map_toOption_applyTop_bind fun vals' => ih

theorem map_toOption_closeGroup {position : Nat} :
    ((closeGroup position ops vals).toOption).map (fun s => (s.1, s.2.length)) =
      closeHeight ops vals.length := by
  induction ops generalizing vals with
  | nil => rfl
  | cons top ops ih =>
    cases top with
    | barrier => rfl
    | op c => exact map_toOption_applyTop_bind fun vals' => ih

theorem map_toOption_settleAll :
    ((settleAll ops vals).toOption).map List.length = settleAllHeight ops vals.length := by
  induction ops generalizing vals with
  | nil => rfl
  | cons top ops ih =>
    cases top with
    | barrier => rfl
    | op c => exact map_toOption_applyTop_bind fun vals' => ih

end Heights

/-- With a value at every placeholder, a reduction succeeds exactly when its run on operand
counts does. -/
theorem isOk_reduceFrom (slotted : List (Option Bool)) :
    ∀ {tokens : List Token} {values : List Bool} {position : Nat} {ops : List Pending}
      {vals : List Bool}, slots tokens values <+: slotted.drop position →
      (reduceFrom slotted tokens position ops vals).isOk = shapeFrom tokens ops vals.length
  | [], _, _, ops, vals, _ => by
    have settled := @map_toOption_settleAll ops vals
    rw [reduceFrom, shapeFrom, ← settled]
    cases settleAll ops vals with
    | error e => rfl
    | ok out => rcases out with _ | ⟨v, _ | ⟨w, more⟩⟩ <;> rfl
  | .placeholder name :: rest, values, position, ops, vals, agrees => by
    have found : slotted[position]? = some (some (values.headD false)) :=
      getElem?_of_singleton_starts ((List.prefix_append _ _).trans agrees)
    have restAgrees : slots rest values.tail <+: slotted.drop (position + 1) :=
      drop_starts_with_of_append [_] agrees
    rw [reduceFrom, found, shapeFrom]
    exact isOk_reduceFrom slotted restAgrees
  | .lparen :: rest, values, position, ops, vals, agrees => by
    rw [reduceFrom, shapeFrom]
    exact isOk_reduceFrom slotted (drop_starts_with_of_append [none] agrees)
  | .rparen :: rest, values, position, ops, vals, agrees => by
    have closed := @map_toOption_closeGroup ops vals position
    rw [reduceFrom, shapeFrom, ← closed]
    cases closeGroup position ops vals with
    | error e => rfl
    | ok s => exact isOk_reduceFrom slotted (drop_starts_with_of_append [none] agrees)
  | .op c :: rest, values, position, ops, vals, agrees => by
    have settled := @map_toOption_settle ops vals
    rw [reduceFrom, shapeFrom, ← settled]
    cases settle ops vals with
    | error e => rfl
    | ok s => exact isOk_reduceFrom slotted (drop_starts_with_of_append [none] agrees)

theorem isOk_evaluateValues {tokens : List Token} {values : List Bool}
    (count : values.length = tokens.countP Token.isPlaceholder) :
    (evaluateValues tokens values).isOk = wellShaped tokens := by
  have run := @isOk_reduceFrom (slots tokens values) tokens values 0 [] [] (List.prefix_refl _)
  simp only [evaluateValues, spreadValues_eq_ok count, reduce, bind, Except.bind]
  exact run

/-- Whether a policy evaluates depends on its shape alone: with one value per placeholder it
evaluates exactly when it is well shaped, and otherwise it is refused. -/
theorem evaluateValues_ok_iff_wellShaped (tokens : List Token) (values : List Bool) :
    (∃ result, evaluateValues tokens values = .ok result) ↔
      values.length = tokens.countP Token.isPlaceholder ∧ wellShaped tokens = true := by
  by_cases count : values.length = tokens.countP Token.isPlaceholder
  · rw [exists_eq_ok_iff_isOk, isOk_evaluateValues count]
    simp [count]
  · simp only [count, false_and, iff_false, not_exists]
    intro result evaluated
    exact count (evaluateValues_ok_shape evaluated).1

/-- A well-shaped text has parentheses that pair up and one connective fewer than
placeholders. -/
theorem counts_of_wellShaped {tokens : List Token} (shaped : wellShaped tokens = true) :
    parensClose 0 tokens = true ∧
      tokens.countP Token.isConnective + 1 = tokens.countP Token.isPlaceholder := by
  let values := List.replicate (tokens.countP Token.isPlaceholder) true
  have count : values.length = tokens.countP Token.isPlaceholder := List.length_replicate
  -- a well-shaped text evaluates at any values, here all true
  obtain ⟨result, evaluated⟩ :=
    (exists_eq_ok_iff_isOk _).mpr ((isOk_evaluateValues count).trans shaped)
  exact (evaluateValues_ok_shape evaluated).2

-- the counts do not suffice: the group's connective finds one operand, `c1`, before it
example :
    let tokens := [Token.placeholder "c1", .lparen, .op .and, .rparen, .placeholder "c2"]
    parensClose 0 tokens = true ∧
      tokens.countP Token.isConnective + 1 = tokens.countP Token.isPlaceholder ∧
      wellShaped tokens = false := by
  decide

/-! ### Texts outside the grammar -/

theorem Term.tokens_eq_append_last (term : Term) :
    ∃ init last, term.tokens = init ++ [last] ∧ last.isConnective = false := by
  cases term with
  | leaf name => exact ⟨[], .placeholder name, rfl, rfl⟩
  | group body => exact ⟨.lparen :: body.tokens, .rparen, by simp [Term.tokens], rfl⟩

theorem Chain.tokens_eq_append_last (chain : Chain) :
    ∃ init last, chain.tokens = init ++ [last] ∧ last.isConnective = false := by
  cases chain with
  | single term => exact term.tokens_eq_append_last
  | snoc init op last =>
    obtain ⟨front, final, written, operand⟩ := last.tokens_eq_append_last
    exact ⟨init.tokens ++ .op op :: front, final, by simp [Chain.tokens, written], operand⟩

/-- The postfix `c1 c2 a` is no policy of the grammar, yet with a value for each placeholder it
evaluates, to `c1 and c2`. -/
theorem evaluateValues_accepts_postfix :
    (¬ ∃ chain : Chain, chain.tokens = [.placeholder "c1", .placeholder "c2", .op .and]) ∧
      evaluateValues [.placeholder "c1", .placeholder "c2", .op .and] [true, true] = .ok true := by
  refine ⟨?_, rfl⟩
  rintro ⟨chain, written⟩
  obtain ⟨init, last, ends, operand⟩ := chain.tokens_eq_append_last
  rw [written] at ends
  -- the last token of the text is the connective
  have final := congrArg List.getLast? ends
  simp only [List.getLast?_append, List.getLast?_singleton] at final
  cases final
  cases operand

end Escrow.Policy
