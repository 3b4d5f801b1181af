import Mathlib.Data.List.Sort
import Escrow.Proofs.Engine.Resolution

/-! Evaluating through refs agrees with evaluating values given in order.

`evaluate` resolves the refs one after another, in the order of the list, and writes each
value at its ref's position; `evaluateValues` takes the placeholder values left to right. When
the refs' positions are the placeholders' positions in any order, the writes land at distinct
positions and commute (`fillPairs_perm`), so what `evaluate` scatters is what `evaluateValues`
spreads from the values sorted by position (`inPositionOrder`). In every lawful monad
`evaluate` is therefore the resolver run over the refs in order, followed by `evaluateValues`
(`evaluate_eq_mapM`); for resolvers that succeed, the order of the refs does not matter. A ref
at a position that holds no placeholder, or a placeholder that no ref binds, is a broken
invariant even when every resolution succeeds.
-/

set_option autoImplicit false

namespace Escrow.Policy

/-- The outcome of a reduction as `evaluate` reports it: its value, or its fault as a broken
invariant. -/
def reportFault {m : Type → Type} [Monad m] [MonadExceptOf LockError m] :
    Except PolicyFault Bool → m Bool
  | .ok b => pure b
  | .error fault => throw (LockError.policyInvariant fault)

def fillPairs (slotted : List (Option Bool)) (pairs : List (Nat × Bool)) : List (Option Bool) :=
  pairs.foldl (fun acc pair => acc.set pair.1 (some pair.2)) slotted

def sortByFirst (pairs : List (Nat × Bool)) : List (Nat × Bool) :=
  pairs.mergeSort fun a b => decide (a.1 ≤ b.1)

def inPositionOrder (refs : List CriterionRef) (values : List Bool) : List Bool :=
  (sortByFirst ((refs.map CriterionRef.position).zip values)).map Prod.snd

section Monadic

variable {m : Type → Type} [Monad m] [LawfulMonad m] [MonadExceptOf LockError m]

omit [LawfulMonad m] in
theorem evaluate_eq_bind (tokens : List Token) (refs : List CriterionRef)
    (resolve : CriterionRef → m Bool) :
    evaluate tokens refs resolve =
      resolveRefs tokens resolve refs (tokens.map fun _ => none) >>= fun values =>
        reportFault (reduce tokens values) := rfl

theorem resolveRefs_eq_map_mapM (tokens : List Token) (resolve : CriterionRef → m Bool) :
    ∀ (refs : List CriterionRef) (slotted : List (Option Bool)),
    (∀ r ∈ refs, placeholderAt tokens r.position = true) →
    resolveRefs tokens resolve refs slotted =
      fillPositions slotted (refs.map CriterionRef.position) <$> refs.mapM resolve
  | [], slotted, _ => by simp [resolveRefs, fillPositions]
  | r :: rest, slotted, marked => by
    have markedRest : ∀ r ∈ rest, placeholderAt tokens r.position = true :=
      fun other member => marked other (List.mem_cons_of_mem r member)
    rw [resolveRefs, if_pos (marked r List.mem_cons_self), List.mapM_cons]
    simp only [map_bind, map_pure]
    congr 1
    funext value
    rw [resolveRefs_eq_map_mapM tokens resolve rest _ markedRest, map_eq_pure_bind]
    rfl

omit [MonadExceptOf LockError m] in
theorem mapM_bind_congr {α β γ : Type} (f : α → m β) {next next' : List β → m γ} :
    ∀ xs : List α, (∀ ys, ys.length = xs.length → next ys = next' ys) →
      xs.mapM f >>= next = xs.mapM f >>= next'
  | [], same => by simp [same [] rfl]
  | x :: xs, same => by
    simp only [List.mapM_cons, bind_assoc, pure_bind]
    congr 1
    funext y
    exact mapM_bind_congr f xs fun ys sameLength => same (y :: ys) (by simp [sameLength])

end Monadic

theorem fillPositions_eq_fillPairs (slotted : List (Option Bool)) :
    ∀ (positions : List Nat) (values : List Bool),
      fillPositions slotted positions values = fillPairs slotted (positions.zip values)
  | position :: positions, value :: values => by
    rw [fillPositions, fillPositions_eq_fillPairs _ positions values]
    rfl
  | [], _ => rfl
  | _ :: _, [] => rfl

theorem fillPairs_perm {pairs pairs' : List (Nat × Bool)} (same : pairs.Perm pairs')
    (distinct : (pairs.map Prod.fst).Nodup) (slotted : List (Option Bool)) :
    fillPairs slotted pairs = fillPairs slotted pairs' := by
  refine same.foldl_eq' (fun x member y member' acc => ?_) slotted
  by_cases samePosition : x.1 = y.1
  · obtain rfl := List.inj_on_of_nodup_map distinct member member' samePosition
    rfl
  · exact List.set_comm _ _ samePosition

theorem perm_sortByFirst (pairs : List (Nat × Bool)) : (sortByFirst pairs).Perm pairs :=
  List.mergeSort_perm _ _

theorem pairwise_sortByFirst (pairs : List (Nat × Bool)) :
    (sortByFirst pairs).Pairwise fun a b => a.1 ≤ b.1 :=
  (List.pairwise_mergeSort (fun a b c ab bc => by simp at ab bc ⊢; omega) (fun a b => by simp; omega)
    pairs).imp fun below => by simpa using below

theorem sortByFirst_perm {pairs pairs' : List (Nat × Bool)} (same : pairs'.Perm pairs)
    (distinct : (pairs.map Prod.fst).Nodup) : sortByFirst pairs' = sortByFirst pairs := by
  refine List.Perm.eq_of_pairwise (fun a b memberA memberB below above => ?_)
    (pairwise_sortByFirst pairs') (pairwise_sortByFirst pairs)
    (((perm_sortByFirst pairs').trans same).trans (perm_sortByFirst pairs).symm)
  -- both pairs come from `pairs`, where a first component names one pair
  have inA : a ∈ pairs := same.subset ((perm_sortByFirst pairs').subset memberA)
  have inB : b ∈ pairs := (perm_sortByFirst pairs).subset memberB
  exact List.inj_on_of_nodup_map distinct inA inB (Nat.le_antisymm below above)

section Permutation

variable {tokens : List Token} {refs : List CriterionRef}

theorem nodup_positions (binds : (refs.map CriterionRef.position).Perm (placeholderIndices tokens 0)) :
    (refs.map CriterionRef.position).Nodup :=
  binds.nodup_iff.mpr ((pairwise_placeholderIndices tokens 0).imp Nat.ne_of_lt)

theorem map_fst_sortByFirst
    (binds : (refs.map CriterionRef.position).Perm (placeholderIndices tokens 0))
    {values : List Bool} (count : values.length = refs.length) :
    (sortByFirst ((refs.map CriterionRef.position).zip values)).map Prod.fst =
      placeholderIndices tokens 0 := by
  have firsts : ((refs.map CriterionRef.position).zip values).map Prod.fst =
      refs.map CriterionRef.position := List.map_fst_zip (by simp [count])
  refine List.Perm.eq_of_pairwise (fun a b _ _ below above => Nat.le_antisymm below above)
    (List.pairwise_map.mpr (pairwise_sortByFirst _))
    ((pairwise_placeholderIndices tokens 0).imp Nat.le_of_lt) ?_
  rw [← firsts] at binds
  exact ((perm_sortByFirst _).map Prod.fst).trans binds

theorem length_inPositionOrder
    (binds : (refs.map CriterionRef.position).Perm (placeholderIndices tokens 0))
    {values : List Bool} (count : values.length = refs.length) :
    (inPositionOrder refs values).length = tokens.countP Token.isPlaceholder := by
  rw [← length_placeholderIndices tokens 0, ← binds.length_eq]
  simp [inPositionOrder, sortByFirst, List.length_mergeSort, count]

theorem fillPositions_of_perm
    (binds : (refs.map CriterionRef.position).Perm (placeholderIndices tokens 0))
    {values : List Bool} (count : values.length = refs.length) :
    fillPositions (tokens.map fun _ => none) (refs.map CriterionRef.position) values =
      slots tokens (inPositionOrder refs values) := by
  have distinct : (((refs.map CriterionRef.position).zip values).map Prod.fst).Nodup := by
    rw [List.map_fst_zip (by simp [count])]
    exact nodup_positions binds
  have filled := fillPositions_placeholderIndices tokens [] (inPositionOrder refs values)
    (length_inPositionOrder binds count)
  simp only [List.nil_append, List.length_nil] at filled
  calc fillPositions (tokens.map fun _ => none) (refs.map CriterionRef.position) values
      = fillPairs (tokens.map fun _ => none) (sortByFirst ((refs.map CriterionRef.position).zip values)) := by
        rw [fillPositions_eq_fillPairs]
        exact fillPairs_perm (perm_sortByFirst _).symm distinct _
    _ = fillPositions (tokens.map fun _ => none) (placeholderIndices tokens 0) (inPositionOrder refs values) := by
        rw [fillPositions_eq_fillPairs, ← map_fst_sortByFirst binds count, inPositionOrder,
          ← List.zip_of_prod rfl rfl]
    _ = slots tokens (inPositionOrder refs values) := by
        rw [List.map_const']
        exact filled

/-- When the refs bind the placeholders in any order, `evaluate` runs the resolver over the
refs in order and evaluates the values sorted by position. -/
theorem evaluate_eq_mapM {m : Type → Type} [Monad m] [LawfulMonad m] [MonadExceptOf LockError m]
    (binds : (refs.map CriterionRef.position).Perm (placeholderIndices tokens 0))
    (resolve : CriterionRef → m Bool) :
    evaluate tokens refs resolve =
      refs.mapM resolve >>= fun values =>
        reportFault (evaluateValues tokens (inPositionOrder refs values)) := by
  have marked : ∀ r ∈ refs, placeholderAt tokens r.position = true := fun r member =>
    mem_placeholderIndices_zero.mp (binds.subset (List.mem_map_of_mem member))
  rw [evaluate_eq_bind, resolveRefs_eq_map_mapM tokens resolve refs _ marked, bind_map_left]
  refine mapM_bind_congr resolve refs fun values count => ?_
  rw [fillPositions_of_perm binds count, evaluateValues,
    spreadValues_eq_ok (length_inPositionOrder binds count)]
  rfl

theorem inPositionOrder_perm {refs' : List CriterionRef} (same : refs'.Perm refs)
    (distinct : (refs.map CriterionRef.position).Nodup) (f : CriterionRef → Bool) :
    inPositionOrder refs' (refs'.map f) = inPositionOrder refs (refs.map f) := by
  have firsts : ((refs.map fun r => (r.position, f r)).map Prod.fst).Nodup := by
    simpa [List.map_map, Function.comp_def] using distinct
  simp only [inPositionOrder, List.zip_map']
  rw [sortByFirst_perm (same.map _) firsts]

theorem evaluate_perm (binds : (refs.map CriterionRef.position).Perm (placeholderIndices tokens 0))
    {refs' : List CriterionRef} (same : refs'.Perm refs) (f : CriterionRef → Bool) :
    evaluate tokens refs' (fun r => (pure (f r) : Except LockError Bool)) =
      evaluate tokens refs fun r => pure (f r) := by
  rw [evaluate_eq_mapM ((same.map _).trans binds), evaluate_eq_mapM binds, List.mapM_pure,
    List.mapM_pure, pure_bind, pure_bind, inPositionOrder_perm same (nodup_positions binds)]

end Permutation

/-! ### Refs that do not bind the placeholders -/

theorem getElem?_fillPositions_of_not_mem {index : Nat} :
    ∀ (slotted : List (Option Bool)) (positions : List Nat) (values : List Bool),
      index ∉ positions → (fillPositions slotted positions values)[index]? = slotted[index]?
  | slotted, position :: positions, value :: values, absent => by
    have other : position ≠ index := fun same => absent (same ▸ List.mem_cons_self)
    rw [fillPositions, getElem?_fillPositions_of_not_mem _ positions values
      (fun member => absent (List.mem_cons_of_mem position member)), List.getElem?_set, if_neg other]
  | _, [], _, _ => rfl
  | _, _ :: _, [], _ => rfl

theorem reduceFrom_valued (values : List (Option Bool)) :
    ∀ (tokens : List Token) (position : Nat) (ops : List Pending) (vals : List Bool) (b : Bool),
      reduceFrom values tokens position ops vals = .ok b →
      ∀ offset, placeholderAt tokens offset = true → ∃ v, values[position + offset]? = some (some v)
  | [], _, _, _, _, _, offset, marked => by simp [placeholderAt] at marked
  | token :: rest, position, ops, vals, b, reduced, offset, marked => by
    -- past the first token, the rest is reduced from the next position
    have later : ∀ {ops' : List Pending} {vals' : List Bool},
        reduceFrom values rest (position + 1) ops' vals' = .ok b → ∀ k, offset = k + 1 →
          ∃ v, values[position + offset]? = some (some v) := by
      intro ops' vals' next k shifted
      subst shifted
      have restMarked : placeholderAt rest k = true := by simpa [placeholderAt] using marked
      obtain ⟨v, found⟩ := reduceFrom_valued values rest (position + 1) ops' vals' b next k restMarked
      exact ⟨v, by rw [← found]; congr 1; omega⟩
    cases offset with
    | succ k =>
      cases token with
      | placeholder name =>
        rw [reduceFrom] at reduced
        split at reduced
        · exact later reduced k rfl
        · cases reduced
      | lparen => exact later reduced k rfl
      | rparen =>
        obtain ⟨⟨ops', vals'⟩, -, next⟩ := bind_eq_ok.mp reduced
        exact later next k rfl
      | op c =>
        obtain ⟨⟨ops', vals'⟩, -, next⟩ := bind_eq_ok.mp reduced
        exact later next k rfl
    | zero =>
      -- the first token is the placeholder, and its value was found
      cases token with
      | placeholder name =>
        rw [reduceFrom] at reduced
        split at reduced
        · rename_i v found
          exact ⟨v, found⟩
        · cases reduced
      | lparen => simp [placeholderAt, Token.isPlaceholder] at marked
      | rparen => simp [placeholderAt, Token.isPlaceholder] at marked
      | op c => simp [placeholderAt, Token.isPlaceholder] at marked

theorem reduce_valued {tokens : List Token} {values : List (Option Bool)} {b : Bool}
    (reduced : reduce tokens values = .ok b) {index : Nat} (marked : placeholderAt tokens index = true) :
    ∃ v, values[index]? = some (some v) := by
  simpa using reduceFrom_valued values tokens 0 [] [] b reduced index marked

theorem resolveRefs_of_not_placeholder {tokens : List Token} (f : CriterionRef → Bool) :
    ∀ (refs : List CriterionRef) (slotted : List (Option Bool)),
      (∃ r ∈ refs, placeholderAt tokens r.position = false) →
      ∃ fault, resolveRefs tokens (fun r => (pure (f r) : Except LockError Bool)) refs slotted =
        .error (.policyInvariant fault)
  | [], _, ⟨_, member, _⟩ => absurd member List.not_mem_nil
  | r :: rest, slotted, ⟨bad, member, unmarked⟩ => by
    by_cases marked : placeholderAt tokens r.position = true
    · have later : bad ∈ rest := by
        rcases List.mem_cons.mp member with same | later
        · subst same
          rw [marked] at unmarked
          cases unmarked
        · exact later
      obtain ⟨fault, failed⟩ := resolveRefs_of_not_placeholder f rest _ ⟨bad, later, unmarked⟩
      exact ⟨fault, by rw [resolveRefs, if_pos marked]; exact failed⟩
    · exact ⟨_, by rw [resolveRefs, if_neg marked]; rfl⟩

/-- Refs that miss a placeholder, or point at a position without one, break the policy's
invariant, even when every resolution succeeds. -/
theorem evaluate_of_unbound {tokens : List Token} {refs : List CriterionRef} (f : CriterionRef → Bool)
    (unbound : (∃ index, placeholderAt tokens index = true ∧ ∀ r ∈ refs, r.position ≠ index) ∨
      ∃ r ∈ refs, placeholderAt tokens r.position = false) :
    ∃ fault, evaluate tokens refs (fun r => (pure (f r) : Except LockError Bool)) =
      .error (.policyInvariant fault) := by
  by_cases marked : ∀ r ∈ refs, placeholderAt tokens r.position = true
  · obtain ⟨index, placeholder, free⟩ := unbound.resolve_right fun ⟨r, member, unmarked⟩ => by
      rw [marked r member] at unmarked
      cases unmarked
    -- the placeholder no ref binds keeps the empty slot it started with
    have inRange : index < tokens.length := by
      by_contra outside
      simp [placeholderAt, List.getElem?_eq_none (Nat.le_of_not_lt outside)] at placeholder
    have missing : (fillPositions (tokens.map fun _ => none) (refs.map CriterionRef.position)
        (refs.map f))[index]? = some none := by
      rw [getElem?_fillPositions_of_not_mem _ _ _ (by simpa using free)]
      simp [inRange]
    rw [evaluate_eq_bind, resolveRefs_eq_map_mapM tokens _ refs _ marked, List.mapM_pure, map_pure,
      pure_bind]
    cases reducing : reduce tokens (fillPositions (tokens.map fun _ => none)
        (refs.map CriterionRef.position) (refs.map f)) with
    | ok b =>
      obtain ⟨v, found⟩ := reduce_valued reducing placeholder
      rw [missing] at found
      cases found
    | error fault => exact ⟨fault, rfl⟩
  · obtain ⟨r, member, unmarked⟩ : ∃ r ∈ refs, placeholderAt tokens r.position = false := by
      simpa using marked
    obtain ⟨fault, failed⟩ := resolveRefs_of_not_placeholder f refs _ ⟨r, member, unmarked⟩
    exact ⟨fault, by rw [evaluate_eq_bind, failed]; rfl⟩

/-- Evaluating through refs agrees with evaluating values given in order. When the refs'
positions are the placeholders' positions in any order, `evaluate` is, in every lawful monad,
the resolver run once for each ref in the order of the list (so, where a resolution can fail,
stopping at the first failure and returning it as it is), followed by `evaluateValues` at the
resolved values put in placeholder order; with resolvers that succeed, reordering the refs
changes nothing. When some placeholder is bound by no ref, or some ref points at a position
that holds no placeholder or lies past the end, `evaluate` reports a broken invariant even
though every resolution succeeds. -/
theorem evaluate_agrees_evaluateValues (tokens : List Token) :
    (∀ refs : List CriterionRef,
      (refs.map CriterionRef.position).Perm (placeholderIndices tokens 0) →
      (∀ {m : Type → Type} [Monad m] [LawfulMonad m] [MonadExceptOf LockError m]
          (resolve : CriterionRef → m Bool),
        evaluate tokens refs resolve =
          refs.mapM resolve >>= fun values =>
            reportFault (evaluateValues tokens (inPositionOrder refs values))) ∧
      ∀ (refs' : List CriterionRef) (f : CriterionRef → Bool), refs'.Perm refs →
        evaluate tokens refs' (fun r => (pure (f r) : Except LockError Bool)) =
          evaluate tokens refs fun r => pure (f r)) ∧
    ∀ (refs : List CriterionRef) (f : CriterionRef → Bool),
      ((∃ index, placeholderAt tokens index = true ∧ ∀ r ∈ refs, r.position ≠ index) ∨
        ∃ r ∈ refs, placeholderAt tokens r.position = false) →
      ∃ fault, evaluate tokens refs (fun r => (pure (f r) : Except LockError Bool)) =
        .error (.policyInvariant fault) :=
  ⟨fun _ binds => ⟨fun resolve => evaluate_eq_mapM binds resolve,
      fun _ f same => evaluate_perm binds same f⟩,
    fun _ f unbound => evaluate_of_unbound f unbound⟩

/-- The policy `c1 AND c2`: its refs given right to left answer as given left to right, and a
single ref leaves `c2` unbound, a broken invariant. -/
theorem evaluate_agrees_reversedRefs :
    evaluate [.placeholder "c1", .op .and, .placeholder "c2"] [⟨2, .time, 7⟩, ⟨0, .time, 5⟩]
        (fun r => (pure (r.id == 5) : Except LockError Bool)) =
      evaluate [.placeholder "c1", .op .and, .placeholder "c2"] [⟨0, .time, 5⟩, ⟨2, .time, 7⟩]
        (fun r => pure (r.id == 5)) ∧
    ∃ fault, evaluate [.placeholder "c1", .op .and, .placeholder "c2"] [⟨0, .time, 5⟩]
        (fun r => (pure (r.id == 5) : Except LockError Bool)) = .error (.policyInvariant fault) := by
  have agrees := evaluate_agrees_evaluateValues [.placeholder "c1", .op .and, .placeholder "c2"]
  exact ⟨(agrees.1 [⟨0, .time, 5⟩, ⟨2, .time, 7⟩] (by decide)).2 _ _ (by decide),
    agrees.2 [⟨0, .time, 5⟩] _ (.inl ⟨2, by decide, by decide⟩)⟩

end Escrow.Policy
