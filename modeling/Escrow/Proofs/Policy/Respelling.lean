import Escrow.Proofs.Policy.Compilation
import Escrow.Engine.Create

/-! Canonical spelling and the request builder.

A compiled policy is kept as tokens and shown in their canonical spelling: `(`, `)`, `a`, `o`
and each placeholder's trimmed text. Reading a canonical spelling back gives the same token,
since trimming a trimmed text changes nothing and a placeholder's text is no reserved word in
any case (`Token.ofSymbol?_symbol`). So compiling the canonical spelling of a compiled policy
gives that policy again (`compile_symbols`). A request built from its expression alone declares
the placeholder positions its symbols read as, so compiling it can only fail on the size, a
blank symbol, the grammar, or a descriptor count that differs from the number of placeholders
(`compile_ofExpression_eq_error`).
-/

set_option autoImplicit false

namespace Escrow.Text

theorem isBlank_of_head?_dropBlank {cs : List Char} {c : Char} (first : (dropBlank cs).head? = some c) :
    isBlank c = false := by
  have kept := List.head?_dropWhile_not isBlank cs
  unfold dropBlank at first
  rw [first] at kept
  exact kept

theorem dropBlank_of_head? {cs : List Char} (start : ∀ c, cs.head? = some c → isBlank c = false) :
    dropBlank cs = cs := by
  cases cs with
  | nil => rfl
  | cons c rest => simp [dropBlank, start c rfl]

theorem dropBlank_dropBlank (cs : List Char) : dropBlank (dropBlank cs) = dropBlank cs :=
  dropBlank_of_head? fun _ => isBlank_of_head?_dropBlank

theorem dropBlank_reverse_dropBlank_reverse {u : List Char}
    (start : ∀ c, u.head? = some c → isBlank c = false) :
    dropBlank (dropBlank u.reverse).reverse = (dropBlank u.reverse).reverse := by
  apply dropBlank_of_head?
  intro c first
  have rebuilt := congrArg List.reverse (List.takeWhile_append_dropWhile (p := isBlank) (l := u.reverse))
  rw [List.reverse_append, List.reverse_reverse] at rebuilt
  cases kept : (dropBlank u.reverse).reverse with
  | nil => rw [kept] at first; cases first
  | cons d rest =>
    rw [kept] at first
    cases first
    have kept' : (u.reverse.dropWhile isBlank).reverse = c :: rest := kept
    rw [kept', List.cons_append] at rebuilt
    exact start c (by rw [← rebuilt]; rfl)

theorem trimBlankChars_trimBlankChars (cs : List Char) :
    trimBlankChars (trimBlankChars cs) = trimBlankChars cs := by
  unfold trimBlankChars
  -- the back trim keeps the front trimmed, and the front trim then keeps the back trimmed
  rw [dropBlank_reverse_dropBlank_reverse (fun _ => isBlank_of_head?_dropBlank), List.reverse_reverse]
  exact dropBlank_reverse_dropBlank_reverse fun _ => isBlank_of_head?_dropBlank

theorem trimBlank_trimBlank (s : String) : trimBlank (trimBlank s) = trimBlank s := by
  simp only [trimBlank, String.toList_ofList, trimBlankChars_trimBlankChars]

theorem toLower_eq_self {s : String} (lower : ∀ c ∈ s.toList, c.toLower = c) : s.toLower = s := by
  apply String.toList_injective
  show (String.map Char.toLower s).toList = s.toList
  rw [String.toList_map]
  exact (List.map_congr_left lower).trans (List.map_id _)

end Escrow.Text

namespace Escrow.Policy

open Escrow.Text

namespace Token

theorem eq_of_classify_eq_placeholder {trimmed name : String}
    (read : classify trimmed = .placeholder name) : name = trimmed := by
  unfold classify at read
  split at read
  all_goals cases read
  rfl

theorem ofSymbol?_reserved {t : Token} (reserved : t.isPlaceholder = false) :
    ofSymbol? t.symbol = some t := by
  have unchanged : trimBlank t.symbol = t.symbol ∧ t.symbol.toLower = t.symbol := by
    cases t with
    | placeholder => cases reserved
    | op c =>
      cases c <;> exact ⟨by simp [symbol, trimBlank, trimBlankChars, dropBlank, isBlank],
        toLower_eq_self (by simp [symbol])⟩
    | lparen | rparen =>
      exact ⟨by simp [symbol, trimBlank, trimBlankChars, dropBlank, isBlank],
        toLower_eq_self (by simp [symbol])⟩
  simp only [ofSymbol?, unchanged.1]
  unfold classify
  rw [unchanged.2]
  cases t with
  | placeholder => cases reserved
  | op c => cases c <;> decide
  | lparen | rparen => decide

theorem ofSymbol?_symbol {s : String} {t : Token} (read : ofSymbol? s = some t) :
    ofSymbol? t.symbol = some t := by
  dsimp only [ofSymbol?] at read
  split at read
  · cases read
  rename_i written
  cases read
  cases classified : classify (trimBlank s) with
  | lparen | rparen | op _ => exact ofSymbol?_reserved rfl
  | placeholder name =>
    -- a placeholder's text is the trimmed symbol, which trims to itself
    have same := eq_of_classify_eq_placeholder classified
    subst same
    simp only [symbol, ofSymbol?, trimBlank_trimBlank, written, classified, Bool.false_eq_true, if_false]

end Token

theorem tokenize_cons_eq_ok (symbol : String) (rest : List String) (tokens : List Token) :
    tokenize (symbol :: rest) = .ok tokens ↔
      ∃ token others, Token.ofSymbol? symbol = some token ∧ tokenize rest = .ok others ∧
        tokens = token :: others := by
  rw [tokenize_cons]
  cases readable : Token.ofSymbol? symbol with
  | none => simp
  | some token =>
    cases reading : tokenize rest with
    | error fault => simp [Except.map]
    | ok others => simp [Except.map, eq_comm]

theorem tokenize_eq_error {symbols : List String} {fault : ExprFault}
    (failed : tokenize symbols = .error fault) :
    fault = .emptySymbol ∧ ∃ symbol ∈ symbols, trimBlank symbol = "" := by
  induction symbols with
  | nil => cases failed
  | cons symbol rest ih =>
    rw [tokenize_cons] at failed
    cases readable : Token.ofSymbol? symbol with
    | none =>
      rw [readable] at failed
      cases failed
      refine ⟨rfl, symbol, List.mem_cons_self, ?_⟩
      simpa [Token.ofSymbol?, String.isEmpty_iff] using readable
    | some token =>
      rw [readable] at failed
      cases reading : tokenize rest with
      | ok others => rw [reading] at failed; cases failed
      | error restFault =>
        rw [reading] at failed
        cases failed
        obtain ⟨same, blank, member, trimmed⟩ := ih reading
        exact ⟨same, blank, List.mem_cons_of_mem _ member, trimmed⟩

theorem tokenize_map_symbol {symbols : List String} {tokens : List Token}
    (read : tokenize symbols = .ok tokens) : tokenize (tokens.map Token.symbol) = .ok tokens := by
  induction symbols generalizing tokens with
  | nil => cases read; rfl
  | cons symbol rest ih =>
    obtain ⟨token, others, readable, reading, rfl⟩ := (tokenize_cons_eq_ok _ _ _).mp read
    exact (tokenize_cons_eq_ok _ _ _).mpr ⟨token, others, Token.ofSymbol?_symbol readable, ih reading, rfl⟩

theorem length_of_tokenize {symbols : List String} {tokens : List Token}
    (read : tokenize symbols = .ok tokens) : tokens.length = symbols.length := by
  rw [((tokenize_eq_ok_iff _ _).mp read).2, List.length_map]

/-- The faults the grammar walk reports: a token out of place, or an expression that ends
without its last operand or with groups left open. -/
def ExprFault.isGrammar : ExprFault → Bool
  | .missingOperator _ | .openAfterOperand _ | .closeWithoutOperand _ | .unbalancedClose _
  | .operatorWithoutOperand _ | .mixedConnectives _ | .danglingOperator | .unclosed _ => true
  | _ => false

theorem Walk.step_eq_error {walk : Walk} {position : Nat} {token : Token} {fault : ExprFault}
    (failed : walk.step position token = .error fault) : fault.isGrammar = true := by
  unfold Walk.step at failed
  repeat' split at failed
  all_goals cases failed
  all_goals rfl

theorem Walk.run_eq_error {walk : Walk} {position : Nat} {tokens : List Token} {fault : ExprFault}
    (failed : walk.run position tokens = .error fault) : fault.isGrammar = true := by
  induction tokens generalizing walk position with
  | nil => cases failed
  | cons token rest ih =>
    cases stepped : walk.step position token with
    | error stepFault =>
      simp only [Walk.run, stepped, bind, Except.bind] at failed
      cases failed
      exact Walk.step_eq_error stepped
    | ok next =>
      simp only [Walk.run, stepped, bind, Except.bind] at failed
      exact ih failed

theorem checkGrammar_eq_error {tokens : List Token} {fault : ExprFault}
    (failed : checkGrammar tokens = .error fault) : fault.isGrammar = true := by
  cases walked : ({} : Walk).run 0 tokens with
  | error walkFault =>
    simp only [checkGrammar, walked, bind, Except.bind] at failed
    cases failed
    exact Walk.run_eq_error walked
  | ok last =>
    simp only [checkGrammar, walked, bind, Except.bind, Walk.finish] at failed
    split_ifs at failed <;> cases failed <;> rfl

theorem placeholderPositions_eq_placeholderIndices {symbols : List String} {tokens : List Token}
    (read : tokenize symbols = .ok tokens) (position : Nat) :
    placeholderPositions symbols position = placeholderIndices tokens position := by
  induction symbols generalizing tokens position with
  | nil => cases read; rfl
  | cons symbol rest ih =>
    obtain ⟨token, others, readable, reading, rfl⟩ := (tokenize_cons_eq_ok _ _ _).mp read
    simp only [placeholderPositions, placeholderIndices, readable, Option.any_some, ih reading]

theorem compile_symbols {symbols : List String} {criterionCount descriptorCount : Nat}
    {declared : List Nat} {limits : Limits} {compiled : Compiled}
    (done : compile symbols criterionCount declared descriptorCount limits = .ok compiled) :
    compile (compiled.tokens.map Token.symbol) criterionCount declared descriptorCount limits =
      .ok compiled := by
  obtain ⟨nonempty, short, tokens, positions, reading, checked, sameCount, sameDescriptors,
    sameDeclared, rfl⟩ := (compile_eq_ok_iff_stages _ _ _ _ _ _).mp done
  have sameLength : (tokens.map Token.symbol).length = symbols.length := by
    rw [List.length_map, length_of_tokenize reading]
  refine (compile_eq_ok_iff_stages _ _ _ _ _ _).mpr ⟨?_, sameLength ▸ short, tokens, positions,
    tokenize_map_symbol reading, checked, sameCount, sameDescriptors, sameDeclared, rfl⟩
  rw [← List.length_pos_iff, sameLength, List.length_pos_iff]
  exact nonempty

/-- Compiling symbols against the count and positions read off the symbols themselves fails only
on the size, a blank symbol, the grammar, or a descriptor count that is not the number of
placeholders. -/
theorem compile_placeholderPositions_eq_error {symbols : List String} {descriptorCount : Nat}
    {limits : Limits} {fault : ExprFault}
    (failed : compile symbols (placeholderPositions symbols 0).length (placeholderPositions symbols 0)
      descriptorCount limits = .error fault) :
    (symbols = [] ∧ fault = .empty) ∨
    (limits.maxTokens < symbols.length ∧ fault = .tooLong symbols.length limits.maxTokens) ∨
    ((∃ symbol ∈ symbols, trimBlank symbol = "") ∧ fault = .emptySymbol) ∨
    (fault.isGrammar = true ∧ ∃ tokens, tokenize symbols = .ok tokens ∧ checkGrammar tokens = .error fault) ∨
    (descriptorCount ≠ (placeholderPositions symbols 0).length ∧
      fault = .descriptorCount descriptorCount (placeholderPositions symbols 0).length) := by
  by_cases empty : symbols = []
  · subst empty
    simp [compile, throw, throwThe, MonadExceptOf.throw, bind, Except.bind] at failed
    exact .inl ⟨rfl, failed.symm⟩
  by_cases long : limits.maxTokens < symbols.length
  · simp [compile, empty, long, throw, throwThe, MonadExceptOf.throw, bind, Except.bind] at failed
    exact .inr (.inl ⟨long, failed.symm⟩)
  cases reading : tokenize symbols with
  | error readFault =>
    simp [compile, empty, long, reading, bind, Except.bind] at failed
    obtain ⟨same, blank⟩ := tokenize_eq_error reading
    exact .inr (.inr (.inl ⟨blank, failed ▸ same⟩))
  | ok tokens =>
    cases checked : checkGrammar tokens with
    | error grammarFault =>
      simp [compile, empty, long, reading, checked, bind, Except.bind] at failed
      subst failed
      exact .inr (.inr (.inr (.inl ⟨checkGrammar_eq_error checked, tokens, rfl, checked⟩)))
    | ok positions =>
      -- the declared count and positions are the found ones, so only the descriptor count is left
      have declared : placeholderPositions symbols 0 = positions :=
        (placeholderPositions_eq_placeholderIndices reading 0).trans (checkGrammar_positions checked).symm
      rw [declared] at failed ⊢
      simp [compile, empty, long, reading, checked, bind, Except.bind, throw, throwThe,
        MonadExceptOf.throw, pure, Except.pure] at failed
      refine .inr (.inr (.inr (.inr ?_)))
      by_cases counted : descriptorCount = positions.length
      · simp [counted] at failed
      · simp [counted] at failed
        exact ⟨counted, failed.symm⟩

end Escrow.Policy

namespace Escrow

open Escrow.Policy Escrow.Text

/-- The canonical spelling is a fixed point of compilation, and a request built from its
expression agrees with the compiler: compiling its fields never fails on the criterion count or
the declared positions, only on the size, a blank symbol, the grammar, or a descriptor list whose
length is not the number of placeholders. -/
theorem compile_canonical_and_built_request (limits : Limits) :
    (∀ symbols criterionCount declared descriptorCount compiled,
      compile symbols criterionCount declared descriptorCount limits = .ok compiled →
      compile (compiled.tokens.map Token.symbol) criterionCount declared descriptorCount limits =
        .ok compiled) ∧
    (∀ token amount symbols descriptors fault,
      let req := LockRequest.ofExpression token amount symbols descriptors
      compile req.expression req.criterionCount req.positions req.criteria.length limits =
        .error fault →
      (symbols = [] ∧ fault = .empty) ∨
      (limits.maxTokens < symbols.length ∧ fault = .tooLong symbols.length limits.maxTokens) ∨
      ((∃ symbol ∈ symbols, trimBlank symbol = "") ∧ fault = .emptySymbol) ∨
      (fault.isGrammar = true ∧
        ∃ tokens, tokenize symbols = .ok tokens ∧ checkGrammar tokens = .error fault) ∨
      (descriptors.length ≠ req.positions.length ∧
        fault = .descriptorCount descriptors.length req.positions.length)) :=
  ⟨fun _ _ _ _ _ done => compile_symbols done,
    fun _ _ _ _ _ failed => compile_placeholderPositions_eq_error failed⟩

end Escrow
