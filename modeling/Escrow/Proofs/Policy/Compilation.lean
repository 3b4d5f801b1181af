import Mathlib.Data.List.Sort
import Escrow.Policy.Grammar
import Escrow.Policy.Eval
import Escrow.Proofs.Policy.Tree

/-! The grammar walk accepts exactly the uniform trees.

`checkGrammar` reads tokens once, keeping only whether an operand comes next and the
connective of each open group. Read forwards, a uniform tree takes the walk from an operand
slot back to an operand slot (`Term.run_tokens`, `Chain.run_tokens`). Read backwards, every
prefix the walk accepts is the text of a partial tree: finished groups, the open groups
around them, each waiting for its next operand, and the innermost group (`Partial`). At the end
no group is open and the innermost one is finished, which gives the tree. Together with the
size, symbol and bookkeeping checks this says exactly when `compile` succeeds.
-/

set_option autoImplicit false

namespace Escrow.Policy

open Escrow.Text

def placeholderIndices : List Token → Nat → List Nat
  | [], _ => []
  | token :: rest, position =>
    if token.isPlaceholder then position :: placeholderIndices rest (position + 1)
    else placeholderIndices rest (position + 1)

theorem le_of_mem_placeholderIndices {tokens : List Token} {position index : Nat}
    (member : index ∈ placeholderIndices tokens position) : position ≤ index := by
  induction tokens generalizing position with
  | nil => simp [placeholderIndices] at member
  | cons token rest ih =>
    by_cases placeholder : token.isPlaceholder
    · simp only [placeholderIndices, placeholder, if_true, List.mem_cons] at member
      rcases member with same | member
      · omega
      · have := ih member; omega
    · simp only [placeholderIndices, placeholder, Bool.false_eq_true, if_false] at member
      have := ih member; omega

theorem pairwise_placeholderIndices (tokens : List Token) (position : Nat) :
    (placeholderIndices tokens position).Pairwise (· < ·) := by
  induction tokens generalizing position with
  | nil => simp [placeholderIndices]
  | cons token rest ih =>
    by_cases placeholder : token.isPlaceholder
    · simp only [placeholderIndices, placeholder, if_true, List.pairwise_cons]
      exact ⟨fun index member => by have := le_of_mem_placeholderIndices member; omega, ih _⟩
    · simpa [placeholderIndices, placeholder] using ih (position + 1)

theorem add_mem_placeholderIndices_iff (tokens : List Token) (position offset : Nat) :
    position + offset ∈ placeholderIndices tokens position ↔ placeholderAt tokens offset = true := by
  induction tokens generalizing position offset with
  | nil => simp [placeholderIndices, placeholderAt]
  | cons token rest ih =>
    cases offset with
    | zero =>
      -- the later positions all lie past `position`
      have notLater : position ∉ placeholderIndices rest (position + 1) := fun member => by
        have := le_of_mem_placeholderIndices member; omega
      by_cases placeholder : token.isPlaceholder
      · simp [placeholderIndices, placeholder, placeholderAt]
      · simp [placeholderIndices, placeholder, placeholderAt, notLater]
    | succ offset =>
      have shifted := ih (position + 1) offset
      rw [show position + 1 + offset = position + (offset + 1) by omega] at shifted
      by_cases placeholder : token.isPlaceholder
      · simp [placeholderIndices, placeholder, placeholderAt, shifted]
      · simp [placeholderIndices, placeholder, placeholderAt, shifted]

theorem mem_placeholderIndices_zero {tokens : List Token} {index : Nat} :
    index ∈ placeholderIndices tokens 0 ↔ placeholderAt tokens index = true := by
  simpa using add_mem_placeholderIndices_iff tokens 0 index

theorem length_placeholderIndices (tokens : List Token) (position : Nat) :
    (placeholderIndices tokens position).length = tokens.countP Token.isPlaceholder := by
  induction tokens generalizing position with
  | nil => rfl
  | cons token rest ih =>
    by_cases placeholder : token.isPlaceholder
    · simp [placeholderIndices, placeholder, ih]
    · simp [placeholderIndices, placeholder, ih]

theorem eq_placeholderIndices_iff (tokens : List Token) (positions : List Nat) :
    positions = placeholderIndices tokens 0 ↔
      positions.Pairwise (· < ·) ∧ ∀ index, index ∈ positions ↔ placeholderAt tokens index = true := by
  constructor
  · rintro rfl
    exact ⟨pairwise_placeholderIndices tokens 0, fun index => mem_placeholderIndices_zero⟩
  · rintro ⟨increasing, members⟩
    exact increasing.eq_of_mem_iff (pairwise_placeholderIndices tokens 0)
      fun index => by rw [members, mem_placeholderIndices_zero]

namespace Walk

theorem run_append (walk : Walk) (position : Nat) (first second : List Token) :
    walk.run position (first ++ second) =
      (walk.run position first >>= fun walk' => walk'.run (position + first.length) second) := by
  induction first generalizing walk position with
  | nil => simp [run, bind, Except.bind]
  | cons token rest ih =>
    simp only [List.cons_append, run, bind, Except.bind]
    cases walk.step position token with
    | error fault => rfl
    | ok next =>
      simp only [List.length_cons]
      rw [ih next (position + 1)]
      simp only [bind, Except.bind, Nat.add_assoc, Nat.add_comm 1]

theorem placeholders_step {walk next : Walk} {position : Nat} {token : Token}
    (stepped : walk.step position token = .ok next) :
    next.placeholders = placeholderIndices [token] position ++ walk.placeholders := by
  cases token with
  | placeholder name =>
    by_cases expecting : walk.expectOperand
    · simp only [step, expecting, if_true, Except.ok.injEq] at stepped
      subst stepped
      simp [placeholderIndices, Token.isPlaceholder]
    · simp [step, expecting] at stepped
  | lparen =>
    by_cases expecting : walk.expectOperand
    · simp only [step, expecting, if_true, Except.ok.injEq] at stepped
      subst stepped
      simp [placeholderIndices, Token.isPlaceholder]
    · simp [step, expecting] at stepped
  | rparen =>
    simp only [step] at stepped
    split at stepped
    · cases stepped
    · split at stepped
      · cases stepped
      · cases stepped
        simp [placeholderIndices, Token.isPlaceholder]
  | op connective =>
    simp only [step] at stepped
    split at stepped
    · cases stepped
    · split at stepped
      · split at stepped
        · cases stepped
          simp [placeholderIndices, Token.isPlaceholder]
        · cases stepped
      · cases stepped
        simp [placeholderIndices, Token.isPlaceholder]

theorem placeholders_run {walk last : Walk} {position : Nat} {tokens : List Token}
    (ran : walk.run position tokens = .ok last) :
    last.placeholders.reverse = walk.placeholders.reverse ++ placeholderIndices tokens position := by
  induction tokens generalizing walk position with
  | nil =>
    simp only [run, Except.ok.injEq] at ran
    simp [ran, placeholderIndices]
  | cons token rest ih =>
    simp only [run, bind, Except.bind] at ran
    split at ran
    · cases ran
    · rename_i next stepped
      rw [ih ran, placeholders_step stepped]
      by_cases placeholder : token.isPlaceholder
      · simp [placeholderIndices, placeholder]
      · simp [placeholderIndices, placeholder]

end Walk

mutual

theorem Term.run_tokens : (term : Term) → term.uniform = true → (walk : Walk) →
    walk.expectOperand = true → (position : Nat) →
    ∃ placeholders, walk.run position term.tokens = .ok { walk with expectOperand := false, placeholders }
  | .leaf _, _, walk, expecting, position =>
    ⟨position :: walk.placeholders, by
      simp [Term.tokens, Walk.run, Walk.step, expecting, bind, Except.bind]⟩
  | .group body, isUniform, ⟨current, enclosing, _, recorded⟩, rfl, position => by
    -- `(` saves the group's connective; the body starts a fresh group; `)` restores it
    obtain ⟨placeholders, bodyRun⟩ := body.run_tokens isUniform ⟨none, current :: enclosing, true, recorded⟩
      rfl rfl (position + 1)
    refine ⟨placeholders, ?_⟩
    simp only [Term.tokens, Walk.run, Walk.step, if_true, bind, Except.bind]
    rw [Walk.run_append, bodyRun]
    simp [Walk.run, Walk.step, bind, Except.bind]

theorem Chain.run_tokens : (chain : Chain) → chain.uniform = true → (walk : Walk) →
    walk.expectOperand = true → walk.current = none → (position : Nat) →
    ∃ placeholders, walk.run position chain.tokens =
      .ok { walk with expectOperand := false, current := chain.connective?, placeholders }
  | .single term, isUniform, walk, expecting, fresh, position => by
    obtain ⟨placeholders, termRun⟩ := term.run_tokens isUniform walk expecting position
    refine ⟨placeholders, ?_⟩
    rw [Chain.tokens, termRun, Chain.connective?, ← fresh]
  | .snoc init op last, isUniform, ⟨_, enclosing, _, recorded⟩, rfl, rfl, position => by
    simp only [Chain.uniform, Bool.and_eq_true] at isUniform
    obtain ⟨⟨initUniform, lastUniform⟩, sameOp⟩ := isUniform
    obtain ⟨initPlaceholders, initRun⟩ := init.run_tokens initUniform ⟨none, enclosing, true, recorded⟩
      rfl rfl position
    obtain ⟨placeholders, lastRun⟩ := last.run_tokens lastUniform
      ⟨some op, enclosing, true, initPlaceholders⟩ rfl (position + init.tokens.length + 1)
    refine ⟨placeholders, ?_⟩
    rw [Chain.tokens, Walk.run_append, initRun]
    simp only [bind, Except.bind, Walk.run, Walk.step, Bool.false_eq_true, if_false]
    -- the connective is accepted: the group had none yet, or had this one
    cases hop : init.connective? with
    | none => simpa [Chain.connective?] using lastRun
    | some prev =>
      rw [hop] at sameOp
      simp only [Option.all_some, beq_iff_eq] at sameOp
      simpa [sameOp, Chain.connective?] using lastRun

end

/-! ### Accepted prefixes are partial trees -/

/-- A group whose next token must be an operand: nothing read yet, or a chain and a
connective. -/
inductive Awaiting where
  | start
  | operator (init : Chain) (op : Connective)

namespace Awaiting

def current : Awaiting → Option Connective
  | .start => none
  | .operator _ op => some op

def tokens : Awaiting → List Token
  | .start => []
  | .operator init op => init.tokens ++ [.op op]

def uniform : Awaiting → Bool
  | .start => true
  | .operator init op => init.uniform && init.connective?.all (· == op)

def complete : Awaiting → Term → Chain
  | .start, term => .single term
  | .operator init op, term => .snoc init op term

theorem connective?_complete (group : Awaiting) (term : Term) :
    (group.complete term).connective? = group.current := by
  cases group <;> rfl

theorem tokens_complete (group : Awaiting) (term : Term) :
    (group.complete term).tokens = group.tokens ++ term.tokens := by
  cases group <;> simp [complete, tokens, Chain.tokens]

theorem uniform_complete (group : Awaiting) (term : Term) :
    (group.complete term).uniform = (group.uniform && term.uniform) := by
  cases group with
  | start => simp [complete, uniform, Chain.uniform]
  | operator init op =>
    simp only [complete, uniform, Chain.uniform]
    cases init.uniform <;> cases term.uniform <;> simp

end Awaiting

/-- The innermost open group: awaiting an operand, or holding a whole chain. -/
inductive Reading where
  | awaiting (group : Awaiting)
  | done (chain : Chain)

namespace Reading

def current : Reading → Option Connective
  | .awaiting group => group.current
  | .done chain => chain.connective?

def expectOperand : Reading → Bool
  | .awaiting _ => true
  | .done _ => false

def tokens : Reading → List Token
  | .awaiting group => group.tokens
  | .done chain => chain.tokens

def uniform : Reading → Bool
  | .awaiting group => group.uniform
  | .done chain => chain.uniform

end Reading

def openTokens : List Awaiting → List Token
  | [] => []
  | group :: outer => openTokens outer ++ group.tokens ++ [.lparen]

/-- A partial tree: the enclosing open groups, innermost first, and the innermost group. -/
structure Partial where
  enclosing : List Awaiting
  inner : Reading

namespace Partial

def tokens (tree : Partial) : List Token := openTokens tree.enclosing ++ tree.inner.tokens

def Uniform (tree : Partial) : Prop :=
  (∀ group ∈ tree.enclosing, group.uniform = true) ∧ tree.inner.uniform = true

def Tracks (tree : Partial) (walk : Walk) : Prop :=
  walk.current = tree.inner.current ∧ walk.enclosing = tree.enclosing.map Awaiting.current ∧
    walk.expectOperand = tree.inner.expectOperand

theorem step {tree : Partial} {walk next : Walk} {position : Nat} {token : Token}
    (tracks : tree.Tracks walk) (isUniform : tree.Uniform)
    (stepped : walk.step position token = .ok next) :
    ∃ tree' : Partial, tree'.Tracks next ∧ tree'.Uniform ∧ tree'.tokens = tree.tokens ++ [token] := by
  obtain ⟨enclosing, inner⟩ := tree
  obtain ⟨sameCurrent, sameEnclosing, sameExpect⟩ := tracks
  obtain ⟨outerUniform, innerUniform⟩ := isUniform
  cases token with
  | placeholder name =>
    cases inner with
    | done chain => simp [Walk.step, sameExpect, Reading.expectOperand] at stepped
    | awaiting group =>
      simp only [Walk.step, sameExpect, Reading.expectOperand, if_true, Except.ok.injEq] at stepped
      subst stepped
      refine ⟨⟨enclosing, .done (group.complete (.leaf name))⟩, ⟨?_, sameEnclosing, rfl⟩,
        ⟨outerUniform, ?_⟩, ?_⟩
      · simpa [Reading.current, Awaiting.connective?_complete] using sameCurrent
      · simpa [Reading.uniform, Awaiting.uniform_complete, Term.uniform] using innerUniform
      · simp [tokens, Reading.tokens, Awaiting.tokens_complete, Term.tokens]
  | lparen =>
    cases inner with
    | done chain => simp [Walk.step, sameExpect, Reading.expectOperand] at stepped
    | awaiting group =>
      simp only [Walk.step, sameExpect, Reading.expectOperand, if_true, Except.ok.injEq] at stepped
      subst stepped
      refine ⟨⟨group :: enclosing, .awaiting .start⟩, ⟨rfl, ?_, rfl⟩, ⟨?_, rfl⟩, ?_⟩
      · simp [sameCurrent, sameEnclosing, Reading.current]
      · simpa [Reading.uniform] using And.intro innerUniform outerUniform
      · simp [tokens, openTokens, Reading.tokens, Awaiting.tokens]
  | rparen =>
    cases inner with
    | awaiting group => simp [Walk.step, sameExpect, Reading.expectOperand] at stepped
    | done chain =>
      simp only [Walk.step, sameExpect, Reading.expectOperand, Bool.false_eq_true, if_false] at stepped
      -- `)` closes the innermost open group, which becomes the operand of the one around it
      cases enclosing with
      | nil => simp [sameEnclosing] at stepped
      | cons group outer =>
        simp only [sameEnclosing, List.map_cons, Except.ok.injEq] at stepped
        subst stepped
        refine ⟨⟨outer, .done (group.complete (.group chain))⟩, ⟨?_, rfl, rfl⟩, ⟨?_, ?_⟩, ?_⟩
        · simp [Reading.current, Awaiting.connective?_complete]
        · exact fun other member => outerUniform other (List.mem_cons_of_mem _ member)
        · simpa [Reading.uniform, Awaiting.uniform_complete, Term.uniform] using
            And.intro (outerUniform group List.mem_cons_self) innerUniform
        · simp [tokens, openTokens, Reading.tokens, Awaiting.tokens_complete, Term.tokens]
  | op connective =>
    cases inner with
    | awaiting group => simp [Walk.step, sameExpect, Reading.expectOperand] at stepped
    | done chain =>
      simp only [Walk.step, sameExpect, Reading.expectOperand, Bool.false_eq_true, if_false,
        sameCurrent, Reading.current] at stepped
      have accepted : chain.connective?.all (· == connective) = true ∧
          next = { walk with current := some connective, expectOperand := true } := by
        cases hop : chain.connective? with
        | none =>
          simp only [hop, Except.ok.injEq] at stepped
          exact ⟨rfl, stepped.symm⟩
        | some prev =>
          simp only [hop] at stepped
          split at stepped
          · rename_i same
            cases stepped
            subst same
            simp
          · cases stepped
      obtain ⟨sameOp, rfl⟩ := accepted
      refine ⟨⟨enclosing, .awaiting (.operator chain connective)⟩, ⟨rfl, sameEnclosing, rfl⟩,
        ⟨outerUniform, ?_⟩, ?_⟩
      · simpa [Reading.uniform, Awaiting.uniform, sameOp] using innerUniform
      · simp [tokens, Reading.tokens, Awaiting.tokens]

theorem run {tree : Partial} {walk last : Walk} {position : Nat} {tokens : List Token}
    (tracks : tree.Tracks walk) (isUniform : tree.Uniform) (ran : walk.run position tokens = .ok last) :
    ∃ tree' : Partial, tree'.Tracks last ∧ tree'.Uniform ∧ tree'.tokens = tree.tokens ++ tokens := by
  induction tokens generalizing tree walk position with
  | nil =>
    simp only [Walk.run, Except.ok.injEq] at ran
    exact ⟨tree, ran ▸ tracks, isUniform, by simp⟩
  | cons token rest ih =>
    simp only [Walk.run, bind, Except.bind] at ran
    split at ran
    · cases ran
    · rename_i next stepped
      obtain ⟨middle, middleTracks, middleUniform, middleTokens⟩ := step tracks isUniform stepped
      obtain ⟨tree', lastTracks, lastUniform, lastTokens⟩ := ih middleTracks middleUniform ran
      exact ⟨tree', lastTracks, lastUniform, by simp [lastTokens, middleTokens]⟩

end Partial

theorem checkGrammar_tree {tokens : List Token} {positions : List Nat}
    (checked : checkGrammar tokens = .ok positions) :
    ∃ chain : Chain, chain.uniform = true ∧ chain.tokens = tokens := by
  simp only [checkGrammar, bind, Except.bind] at checked
  split at checked
  · cases checked
  · rename_i last ran
    have start : (⟨[], .awaiting .start⟩ : Partial).Tracks {} := ⟨rfl, rfl, rfl⟩
    obtain ⟨⟨enclosing, inner⟩, ⟨_, sameEnclosing, sameExpect⟩, ⟨_, innerUniform⟩, same⟩ :=
      Partial.run start ⟨by simp, rfl⟩ ran
    -- a finished walk expects no operand and has no open group
    simp only [Walk.finish] at checked
    split at checked
    · cases checked
    · rename_i finished
      split at checked
      · rename_i closed
        cases inner with
        | awaiting group => simp [sameExpect, Reading.expectOperand] at finished
        | done chain =>
          have noOuter : enclosing = [] := by simpa [sameEnclosing] using closed
          subst noOuter
          exact ⟨chain, innerUniform, by
            simpa [Partial.tokens, openTokens, Reading.tokens, Awaiting.tokens] using same⟩
      · cases checked

theorem checkGrammar_positions {tokens : List Token} {positions : List Nat}
    (checked : checkGrammar tokens = .ok positions) : positions = placeholderIndices tokens 0 := by
  simp only [checkGrammar, bind, Except.bind] at checked
  split at checked
  · cases checked
  · rename_i last ran
    have recorded := Walk.placeholders_run ran
    simp only [Walk.finish] at checked
    split at checked
    · cases checked
    · split at checked
      · cases checked
        simpa using recorded
      · cases checked

theorem checkGrammar_chain {chain : Chain} (isUniform : chain.uniform = true) :
    checkGrammar chain.tokens = .ok (placeholderIndices chain.tokens 0) := by
  obtain ⟨placeholders, ran⟩ := chain.run_tokens isUniform {} rfl rfl 0
  have recorded := Walk.placeholders_run ran
  simp only [List.reverse_nil, List.nil_append] at recorded
  simp [checkGrammar, ran, Walk.finish, bind, Except.bind, ← recorded]

/-- The grammar check accepts exactly the texts of uniform trees, and gives the positions of
their placeholders. -/
theorem checkGrammar_eq_ok_iff (tokens : List Token) (positions : List Nat) :
    checkGrammar tokens = .ok positions ↔
      (∃ chain : Chain, chain.uniform = true ∧ chain.tokens = tokens) ∧
        positions = placeholderIndices tokens 0 := by
  constructor
  · intro checked
    exact ⟨checkGrammar_tree checked, checkGrammar_positions checked⟩
  · rintro ⟨⟨chain, isUniform, rfl⟩, rfl⟩
    exact checkGrammar_chain isUniform

theorem tokenize_cons (symbol : String) (rest : List String) :
    tokenize (symbol :: rest) =
      match Token.ofSymbol? symbol with
      | some token => (tokenize rest).map (token :: ·)
      | none => .error .emptySymbol := by
  cases readable : Token.ofSymbol? symbol with
  | none => simp [tokenize, readable, bind, Except.bind]
  | some token =>
    cases reading : tokenize rest with
    | error fault =>
      simp only [tokenize] at reading ⊢
      simp [readable, reading, bind, Except.bind, Except.map]
    | ok read =>
      simp only [tokenize] at reading ⊢
      simp [readable, reading, bind, Except.bind, Except.map, pure, Except.pure]

theorem tokenize_eq_ok_iff (symbols : List String) (tokens : List Token) :
    tokenize symbols = .ok tokens ↔
      (∀ symbol ∈ symbols, trimBlank symbol ≠ "") ∧
        tokens = symbols.map fun symbol => Token.classify (trimBlank symbol) := by
  induction symbols generalizing tokens with
  | nil =>
    simp only [tokenize, List.mapM_nil, List.not_mem_nil, List.map_nil]
    constructor
    · intro same; cases same; simp
    · rintro ⟨-, rfl⟩; rfl
  | cons symbol rest ih =>
    by_cases blank : trimBlank symbol = ""
    · simp [tokenize_cons, Token.ofSymbol?, blank]
    · have readable : Token.ofSymbol? symbol = some (Token.classify (trimBlank symbol)) := by
        simp [Token.ofSymbol?, String.isEmpty_iff, blank]
      rw [tokenize_cons, readable]
      cases reading : tokenize rest with
      | error fault =>
        have restBlank : ¬ ∀ other ∈ rest, trimBlank other ≠ "" := fun others => by
          simpa [reading] using (ih _).mpr ⟨others, rfl⟩
        constructor
        · intro read
          simp [Except.map] at read
        · rintro ⟨nonblank, -⟩
          exact (restBlank fun other member => nonblank other (List.mem_cons_of_mem _ member)).elim
      | ok read =>
        obtain ⟨others, rfl⟩ := (ih read).mp reading
        simp only [Except.map, Except.ok.injEq, List.mem_cons, forall_eq_or_imp, List.map_cons]
        constructor
        · rintro rfl
          exact ⟨⟨blank, others⟩, rfl⟩
        · rintro ⟨-, rfl⟩
          rfl

theorem compile_eq_ok_iff_stages (symbols : List String) (criterionCount : Nat)
    (declared : List Nat) (descriptorCount : Nat) (limits : Limits) (compiled : Compiled) :
    compile symbols criterionCount declared descriptorCount limits = .ok compiled ↔
      symbols ≠ [] ∧ symbols.length ≤ limits.maxTokens ∧
        ∃ tokens positions, tokenize symbols = .ok tokens ∧ checkGrammar tokens = .ok positions ∧
          criterionCount = positions.length ∧ descriptorCount = positions.length ∧
          declared = positions ∧ compiled = { tokens, positions } := by
  by_cases empty : symbols = []
  · subst empty
    simp [compile, throw, throwThe, MonadExceptOf.throw, bind, Except.bind]
  by_cases long : limits.maxTokens < symbols.length
  · simp [compile, empty, long, throw, throwThe, MonadExceptOf.throw, bind, Except.bind]
  cases reading : tokenize symbols with
  | error fault => simp [compile, empty, long, reading, bind, Except.bind]
  | ok tokens =>
    cases checked : checkGrammar tokens with
    | error fault => simp [compile, empty, long, reading, checked, bind, Except.bind]
    | ok positions =>
      simp only [compile, empty, long, reading, checked, List.isEmpty_iff, bind,
        Except.bind, if_false, ne_eq, ite_not, throw, throwThe, MonadExceptOf.throw,
        Except.ok.injEq, exists_and_left, exists_eq_left', true_and, not_false_eq_true,
        Nat.not_lt.mp long]
      -- the three bookkeeping checks in order
      constructor
      · intro done
        split_ifs at done with sameCount sameDescriptors sameDeclared
        cases done
        exact ⟨sameCount, sameDescriptors, sameDeclared, rfl⟩
      · rintro ⟨rfl, rfl, rfl, rfl⟩
        simp [pure, Except.pure]

def classifySymbols (symbols : List String) : List Token :=
  symbols.map fun symbol => Token.classify (trimBlank symbol)

/-- `compile` accepts exactly the expressions of its grammar: between one symbol and the size
limit, no blank symbol, the classified tokens a uniform tree, both declared counts equal to
the number of placeholders, and the declared positions the increasing list of the
placeholders' positions. What it returns is those tokens and positions. -/
theorem compile_eq_ok_iff (symbols : List String) (criterionCount : Nat) (declared : List Nat)
    (descriptorCount : Nat) (limits : Limits) (compiled : Compiled) :
    compile symbols criterionCount declared descriptorCount limits = .ok compiled ↔
      1 ≤ symbols.length ∧ symbols.length ≤ limits.maxTokens ∧
      (∀ symbol ∈ symbols, trimBlank symbol ≠ "") ∧
      (∃ chain : Chain, chain.uniform = true ∧ chain.tokens = classifySymbols symbols) ∧
      criterionCount = (classifySymbols symbols).countP Token.isPlaceholder ∧
      descriptorCount = (classifySymbols symbols).countP Token.isPlaceholder ∧
      declared.Pairwise (· < ·) ∧
      (∀ index, index ∈ declared ↔ placeholderAt (classifySymbols symbols) index = true) ∧
      compiled = { tokens := classifySymbols symbols, positions := declared } := by
  rw [compile_eq_ok_iff_stages, show 1 ≤ symbols.length ↔ symbols ≠ [] from List.length_pos_iff]
  constructor
  · rintro ⟨nonempty, short, tokens, positions, reading, checked, sameCount, sameDescriptors, rfl, rfl⟩
    obtain ⟨nonblank, rfl⟩ := (tokenize_eq_ok_iff _ _).mp reading
    obtain ⟨tree, indices⟩ := (checkGrammar_eq_ok_iff _ _).mp checked
    have counted : declared.length = (classifySymbols symbols).countP Token.isPlaceholder := by
      rw [indices, length_placeholderIndices, classifySymbols]
    obtain ⟨increasing, members⟩ := (eq_placeholderIndices_iff _ _).mp indices
    exact ⟨nonempty, short, nonblank, tree, sameCount.trans counted, sameDescriptors.trans counted,
      increasing, members, rfl⟩
  · rintro ⟨nonempty, short, nonblank, tree, sameCount, sameDescriptors, increasing, members, rfl⟩
    have indices := (eq_placeholderIndices_iff _ _).mpr ⟨increasing, members⟩
    have counted : declared.length = (classifySymbols symbols).countP Token.isPlaceholder := by
      rw [indices, length_placeholderIndices]
    exact ⟨nonempty, short, classifySymbols symbols, declared,
      (tokenize_eq_ok_iff _ _).mpr ⟨nonblank, rfl⟩, (checkGrammar_eq_ok_iff _ _).mpr ⟨tree, indices⟩,
      sameCount.trans counted.symm, sameDescriptors.trans counted.symm, rfl, rfl⟩

end Escrow.Policy
