import Escrow.Policy.Eval
import Escrow.Proofs.Policy.Tree

/-! Evaluation agrees with the tree reading of a policy.

The two-stack reduction reads a chain's tokens and leaves its last connective pending; the
token after the chain (a connective, `)`, or the end) applies it. The main statement: for
every tree of the grammar and every list of values, one per placeholder, `evaluateValues`
gives the left fold of the tree, which for a uniform tree is the conjunction or disjunction
of each group's terms; too few or too many values are the matching fault.
-/

set_option autoImplicit false

namespace Escrow.Policy

/-- The value list `spreadValues` builds: each placeholder takes the next value, every other
token none. -/
def slots : List Token → List Bool → List (Option Bool)
  | [], _ => []
  | token :: rest, values =>
    if token.isPlaceholder then some (values.headD false) :: slots rest values.tail
    else none :: slots rest values

theorem slots_append (first second : List Token) (values : List Bool) :
    slots (first ++ second) values =
      slots first values ++ slots second (values.drop (first.countP Token.isPlaceholder)) := by
  induction first generalizing values with
  | nil => simp [slots]
  | cons token rest ih =>
    by_cases placeholder : token.isPlaceholder
    · simp [slots, placeholder, ih, List.drop_tail]
    · simp [slots, placeholder, ih]

theorem spreadValues_eq_ok {tokens : List Token} {values : List Bool}
    (count : values.length = tokens.countP Token.isPlaceholder) :
    spreadValues tokens values = .ok (slots tokens values) := by
  induction tokens generalizing values with
  | nil =>
    rw [List.countP_nil, List.length_eq_zero_iff] at count
    subst values
    rfl
  | cons token rest ih =>
    by_cases placeholder : token.isPlaceholder
    · cases values with
      | nil => simp [placeholder] at count
      | cons value others =>
        have restCount : others.length = rest.countP Token.isPlaceholder := by
          simpa [placeholder] using count
        simp [spreadValues, slots, placeholder, ih restCount, bind, Except.bind, pure, Except.pure]
    · have restCount : values.length = rest.countP Token.isPlaceholder := by
        simpa [placeholder] using count
      simp [spreadValues, slots, placeholder, ih restCount, bind, Except.bind, pure, Except.pure]

theorem spreadValues_of_lt {tokens : List Token} {values : List Bool}
    (fewer : values.length < tokens.countP Token.isPlaceholder) :
    spreadValues tokens values = .error .fewerValues := by
  induction tokens generalizing values with
  | nil => simp at fewer
  | cons token rest ih =>
    by_cases placeholder : token.isPlaceholder
    · cases values with
      | nil => simp [spreadValues, placeholder]
      | cons value others =>
        have restFewer : others.length < rest.countP Token.isPlaceholder := by
          simp [placeholder] at fewer
          omega
        simp [spreadValues, placeholder, ih restFewer, bind, Except.bind]
    · have restFewer : values.length < rest.countP Token.isPlaceholder := by
        simpa [placeholder] using fewer
      simp [spreadValues, placeholder, ih restFewer, bind, Except.bind]

theorem spreadValues_of_gt {tokens : List Token} {values : List Bool}
    (more : tokens.countP Token.isPlaceholder < values.length) :
    spreadValues tokens values = .error .moreValues := by
  induction tokens generalizing values with
  | nil =>
    cases values with
    | nil => simp at more
    | cons => rfl
  | cons token rest ih =>
    by_cases placeholder : token.isPlaceholder
    · cases values with
      | nil => simp at more
      | cons value others =>
        have restMore : rest.countP Token.isPlaceholder < others.length := by
          simp [placeholder] at more
          omega
        simp [spreadValues, placeholder, ih restMore, bind, Except.bind]
    · have restMore : rest.countP Token.isPlaceholder < values.length := by
        simpa [placeholder] using more
      simp [spreadValues, placeholder, ih restMore, bind, Except.bind]

theorem length_slots (tokens : List Token) (values : List Bool) :
    (slots tokens values).length = tokens.length := by
  induction tokens generalizing values with
  | nil => rfl
  | cons token rest ih =>
    by_cases placeholder : token.isPlaceholder
    · simp [slots, placeholder, ih]
    · simp [slots, placeholder, ih]

theorem drop_starts_with_of_append {α : Type} (first : List α) {second whole : List α} {position : Nat}
    (isPrefix : first ++ second <+: whole.drop position) :
    second <+: whole.drop (position + first.length) := by
  obtain ⟨tail, same⟩ := isPrefix
  refine ⟨tail, ?_⟩
  rw [← List.drop_drop, ← same]
  simp

theorem getElem?_of_singleton_starts {α : Type} {value : α} {whole : List α} {position : Nat}
    (isPrefix : [value] <+: whole.drop position) : whole[position]? = some value := by
  obtain ⟨tail, same⟩ := isPrefix
  have first := congrArg (·[0]?) same
  simp only [List.getElem?_drop, Nat.add_zero] at first
  rw [← first]
  rfl

def atBoundary : List Pending → Bool
  | .op _ :: _ => false
  | _ => true

theorem settle_of_atBoundary {ops : List Pending} (boundary : atBoundary ops = true)
    (vals : List Bool) : settle ops vals = .ok (ops, vals) := by
  match ops, boundary with
  | [], _ => rfl
  | .barrier :: _, _ => rfl

def Chain.openOps : Chain → List Pending → List Pending
  | .single _, ops => ops
  | .snoc _ op _, ops => .op op :: ops

/-- The operand stack after a chain is read: the last term's value, and below it the value of
the chain before its last connective. -/
def Chain.openVals : Chain → List Bool → List Bool → List Bool
  | .single term, values, vals => term.value values :: vals
  | .snoc init _ last, values, vals =>
    last.value (values.drop init.leafCount) :: init.value values :: vals

theorem Chain.settle_open (chain : Chain) {ops : List Pending} (boundary : atBoundary ops = true)
    (values vals : List Bool) :
    settle (chain.openOps ops) (chain.openVals values vals) = .ok (ops, chain.value values :: vals) := by
  cases chain with
  | single term => exact settle_of_atBoundary boundary _
  | snoc init op last =>
    simp [openOps, openVals, settle, applyTop, Chain.value, bind, Except.bind,
      settle_of_atBoundary boundary]

theorem Chain.closeGroup_open (chain : Chain) (position : Nat) (ops : List Pending)
    (values vals : List Bool) :
    closeGroup position (chain.openOps (.barrier :: ops)) (chain.openVals values vals) =
      .ok (ops, chain.value values :: vals) := by
  cases chain with
  | single term => rfl
  | snoc init op last => simp [openOps, openVals, closeGroup, applyTop, Chain.value, bind, Except.bind]

theorem Chain.settleAll_open (chain : Chain) (values vals : List Bool) :
    settleAll (chain.openOps []) (chain.openVals values vals) = .ok (chain.value values :: vals) := by
  cases chain with
  | single term => rfl
  | snoc init op last => simp [openOps, openVals, settleAll, applyTop, Chain.value, bind, Except.bind]

theorem slots_term_group (body : Chain) (values : List Bool) :
    slots (Term.group body).tokens values = none :: (slots body.tokens values ++ [none]) := by
  simp [Term.tokens, slots, slots_append, Token.isPlaceholder]

theorem slots_chain_snoc (init : Chain) (op : Connective) (last : Term) (values : List Bool) :
    slots (Chain.snoc init op last).tokens values =
      slots init.tokens values ++ none :: slots last.tokens (values.drop init.leafCount) := by
  simp [Chain.tokens, slots, slots_append, Token.isPlaceholder, init.countP_tokens]

mutual

/-- Reading a term pushes its value, whatever follows it. The value list agrees with the
term's values from `position` on. -/
theorem Term.reduceFrom_tokens : (term : Term) → (values : List Bool) →
    (slotted : List (Option Bool)) → (position : Nat) → (rest : List Token) →
    (ops : List Pending) → (vals : List Bool) →
    slots term.tokens values <+: slotted.drop position →
    reduceFrom slotted (term.tokens ++ rest) position ops vals =
      reduceFrom slotted rest (position + term.tokens.length) ops (term.value values :: vals)
  | .leaf name, values, slotted, position, rest, ops, vals, agrees => by
    have found : slotted[position]? = some (some (values.headD false)) :=
      getElem?_of_singleton_starts (by simpa [Term.tokens, slots, Token.isPlaceholder] using agrees)
    simp [Term.tokens, reduceFrom, found, Term.value]
  | .group body, values, slotted, position, rest, ops, vals, agrees => by
    rw [slots_term_group] at agrees
    have bodyAgrees : slots body.tokens values <+: slotted.drop (position + 1) :=
      (List.prefix_append _ _).trans (drop_starts_with_of_append [none] agrees)
    -- `(` pushes a barrier, the body leaves its last connective pending, `)` applies it
    have bodyRun := body.reduceFrom_tokens values slotted (position + 1) (.rparen :: rest)
      (.barrier :: ops) vals rfl bodyAgrees
    simp only [Term.tokens, List.cons_append, List.append_assoc, List.nil_append]
    rw [reduceFrom, bodyRun, reduceFrom, Chain.closeGroup_open]
    simp only [bind, Except.bind, Term.value, List.length_cons, List.length_append,
      List.length_nil]
    congr 1
    omega

theorem Chain.reduceFrom_tokens : (chain : Chain) → (values : List Bool) →
    (slotted : List (Option Bool)) → (position : Nat) → (rest : List Token) →
    (ops : List Pending) → (vals : List Bool) → atBoundary ops = true →
    slots chain.tokens values <+: slotted.drop position →
    reduceFrom slotted (chain.tokens ++ rest) position ops vals =
      reduceFrom slotted rest (position + chain.tokens.length) (chain.openOps ops)
        (chain.openVals values vals)
  | .single term, values, slotted, position, rest, ops, vals, _, agrees =>
    term.reduceFrom_tokens values slotted position rest ops vals agrees
  | .snoc init op last, values, slotted, position, rest, ops, vals, boundary, agrees => by
    rw [slots_chain_snoc] at agrees
    have initAgrees : slots init.tokens values <+: slotted.drop position :=
      (List.prefix_append _ _).trans agrees
    have lastAgrees :
        slots last.tokens (values.drop init.leafCount) <+:
          slotted.drop (position + init.tokens.length + 1) := by
      have shifted := drop_starts_with_of_append (slots init.tokens values ++ [none])
        (by simpa using agrees)
      simpa [length_slots, Nat.add_assoc] using shifted
    have initRun := init.reduceFrom_tokens values slotted position (.op op :: (last.tokens ++ rest))
      ops vals boundary initAgrees
    have lastRun := last.reduceFrom_tokens (values.drop init.leafCount) slotted
      (position + init.tokens.length + 1) rest (.op op :: ops) (init.value values :: vals) lastAgrees
    simp only [Chain.tokens, List.append_assoc, List.cons_append]
    -- the connective settles what `init` left pending, then waits for `last`
    rw [initRun, reduceFrom, init.settle_open boundary]
    simp only [bind, Except.bind]
    rw [lastRun]
    simp only [Chain.openOps, Chain.openVals, List.length_append, List.length_cons]
    congr 1
    omega

end

theorem evaluateValues_eq_value (chain : Chain) {values : List Bool}
    (count : values.length = chain.leafCount) :
    evaluateValues chain.tokens values = .ok (chain.value values) := by
  have spread : spreadValues chain.tokens values = .ok (slots chain.tokens values) :=
    spreadValues_eq_ok (by rw [chain.countP_tokens]; exact count)
  have run := chain.reduceFrom_tokens values (slots chain.tokens values) 0 [] [] [] rfl
    (List.prefix_refl _)
  rw [List.append_nil] at run
  simp only [evaluateValues, spread, reduce, bind, Except.bind]
  rw [run, reduceFrom, chain.settleAll_open]
  rfl

/-- Evaluating a policy of the grammar with one value per placeholder gives its left fold,
which for a uniform policy is the conjunction or disjunction of each group's terms. Too few
or too many values are refused as such. -/
theorem evaluateValues_chain (chain : Chain) (values : List Bool) :
    (values.length = chain.leafCount →
      evaluateValues chain.tokens values = .ok (chain.value values) ∧
      (chain.uniform = true → evaluateValues chain.tokens values = .ok (chain.groupValue values))) ∧
    (values.length < chain.leafCount → evaluateValues chain.tokens values = .error .fewerValues) ∧
    (chain.leafCount < values.length → evaluateValues chain.tokens values = .error .moreValues) := by
  refine ⟨fun count => ⟨evaluateValues_eq_value chain count, fun isUniform => ?_⟩, fun fewer => ?_,
    fun more => ?_⟩
  · rw [chain.groupValue_eq_value isUniform]
    exact evaluateValues_eq_value chain count
  · rw [← chain.countP_tokens] at fewer
    simp [evaluateValues, spreadValues_of_lt fewer, bind, Except.bind]
  · rw [← chain.countP_tokens] at more
    simp [evaluateValues, spreadValues_of_gt more, bind, Except.bind]

def nestedChain : Chain :=
  .snoc (.single (.group (.snoc (.single (.group (.snoc (.single (.leaf "c1")) .or (.leaf "c2"))))
    .and (.leaf "c3")))) .or (.leaf "c4")

theorem evaluateValues_nestedChain :
    [false, true, true, false].length = nestedChain.leafCount ∧
      evaluateValues nestedChain.tokens [false, true, true, false] = .ok true :=
  ⟨rfl, ((evaluateValues_chain nestedChain [false, true, true, false]).1 rfl).1⟩

end Escrow.Policy
