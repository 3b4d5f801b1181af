import Mathlib.Data.List.Basic
import Escrow.Proofs.Policy.Compilation
import Escrow.Proofs.Engine.Consistency

/-! Which placeholders a rendered policy substitutes.

A policy is rendered by walking its tokens and its criterion refs side by side: a placeholder
is replaced by the next ref when that ref sits at the placeholder's position, and the ref is then
used up. A ref that sits anywhere else (before the walk, on a token that is no placeholder, or
past the end) is never used up, and so holds back every ref after it.

So the refs that get substituted are the longest prefix of the refs whose positions increase
strictly and each fall on a placeholder (`LongestBinding`). `leadingBinding` computes that prefix
and `renderParts_eq_mapIdx` renders with it: one part per token, the label of the ref placed at its
position or else the token's own display. A lock whose refs follow its placeholders one by one, as
every lock the engine stores does, has all its refs placed and every placeholder substituted.
`policy_substitutes_bound_refs` puts the three together.
-/

set_option autoImplicit false

namespace Escrow

open Escrow.Policy

namespace Policy

/-- Refs bind placeholders in order: their positions increase strictly, and each falls on a
placeholder. -/
def BindsInOrder (tokens : List Token) (refs : List CriterionRef) : Prop :=
  (refs.map CriterionRef.position).Pairwise (· < ·) ∧
    ∀ r ∈ refs, placeholderAt tokens r.position = true

def LongestBinding (tokens : List Token) (refs placed : List CriterionRef) : Prop :=
  placed <+: refs ∧ BindsInOrder tokens placed ∧
    ∀ next, placed ++ [next] <+: refs → ¬ BindsInOrder tokens (placed ++ [next])

def leadingBinding (tokens : List Token) (start : Nat) : List CriterionRef → List CriterionRef
  | [] => []
  | r :: rest =>
    if start ≤ r.position ∧ placeholderAt tokens r.position = true then
      r :: leadingBinding tokens (r.position + 1) rest
    else []

/-- The part the token `t` at `position` is rendered as when `placed` are the refs substituted:
the kind and id of the ref placed there, or else the token's display. -/
def partAt (placed : List CriterionRef) (position : Nat) (t : Token) : String :=
  match placed.find? (·.position == position) with
  | some r => r.kind.name ++ "#" ++ toString r.id
  | none => t.display

/-! ## One rendering step -/

theorem renderParts_bind {name : String} {r : CriterionRef} (rest : List Token)
    (later : List CriterionRef) {position : Nat} (here : r.position = position) :
    renderParts (.placeholder name :: rest) position (r :: later) =
      (r.kind.name ++ "#" ++ toString r.id) :: renderParts rest (position + 1) later := by
  simp [renderParts, here]

theorem renderParts_skip {t : Token} {refs : List CriterionRef} (rest : List Token) {position : Nat}
    (skips : ∀ r ∈ refs.head?, t.isPlaceholder = true → r.position ≠ position) :
    renderParts (t :: rest) position refs = t.display :: renderParts rest (position + 1) refs := by
  cases t <;> cases refs <;> simp_all [renderParts, Token.isPlaceholder]

/-! ## The placed refs -/

section Placed

variable {tokens : List Token}

theorem leadingBinding_bind {r : CriterionRef} {position : Nat} (later : List CriterionRef)
    (found : placeholderAt tokens position = true) (here : r.position = position) :
    leadingBinding tokens position (r :: later) = r :: leadingBinding tokens (position + 1) later := by
  subst here
  simp [leadingBinding, found]

theorem leadingBinding_skip {t : Token} {refs : List CriterionRef} {position : Nat}
    (token : tokens[position]? = some t)
    (skips : ∀ r ∈ refs.head?, t.isPlaceholder = true → r.position ≠ position) :
    leadingBinding tokens position refs = leadingBinding tokens (position + 1) refs := by
  cases refs with
  | nil => rfl
  | cons r later =>
    have skipped : t.isPlaceholder = true → r.position ≠ position := skips r rfl
    by_cases after : position < r.position
    · simp [leadingBinding, Nat.le_of_lt after, Nat.succ_le_of_lt after]
    · -- the ref is at or before the token, so neither walk places it
      have stuck : ¬ (position ≤ r.position ∧ placeholderAt tokens r.position = true) := by
        rintro ⟨reached, found⟩
        have same : r.position = position := by omega
        rw [same, placeholderAt, token] at found
        exact skipped found same
      simp only [leadingBinding, if_neg stuck]
      rw [if_neg (fun reached => by omega)]

theorem le_position_of_mem_leadingBinding {start : Nat} {refs : List CriterionRef}
    {r : CriterionRef} (member : r ∈ leadingBinding tokens start refs) : start ≤ r.position := by
  induction refs generalizing start with
  | nil => cases member
  | cons first rest ih =>
    simp only [leadingBinding] at member
    split at member
    · rename_i binds
      rcases List.mem_cons.mp member with rfl | member
      · exact binds.1
      · have := ih member; omega
    · cases member

theorem leadingBinding_initial (start : Nat) (refs : List CriterionRef) :
    leadingBinding tokens start refs <+: refs := by
  induction refs generalizing start with
  | nil => exact List.prefix_refl []
  | cons r rest ih =>
    simp only [leadingBinding]
    split
    · exact List.cons_prefix_cons.mpr ⟨rfl, ih _⟩
    · exact List.nil_prefix

theorem bindsInOrder_leadingBinding (start : Nat) (refs : List CriterionRef) :
    BindsInOrder tokens (leadingBinding tokens start refs) := by
  induction refs generalizing start with
  | nil => exact ⟨List.Pairwise.nil, fun r member => by cases member⟩
  | cons r rest ih =>
    simp only [leadingBinding]
    split
    · rename_i binds
      obtain ⟨increasing, found⟩ := ih (r.position + 1)
      refine ⟨List.pairwise_cons.mpr ⟨?_, increasing⟩, ?_⟩
      · intro position member
        obtain ⟨later, placedLater, rfl⟩ := List.mem_map.mp member
        have := le_position_of_mem_leadingBinding placedLater
        omega
      · intro other member
        rcases List.mem_cons.mp member with rfl | member
        · exact binds.2
        · exact found other member
    · exact ⟨List.Pairwise.nil, fun r member => by cases member⟩

theorem leadingBinding_maximal (start : Nat) (refs : List CriterionRef) (next : CriterionRef)
    (extends_ : leadingBinding tokens start refs ++ [next] <+: refs) :
    ¬ (BindsInOrder tokens (leadingBinding tokens start refs ++ [next]) ∧
      ∀ r ∈ leadingBinding tokens start refs ++ [next], start ≤ r.position) := by
  induction refs generalizing start with
  | nil => exact absurd extends_.length_le (by simp)
  | cons r rest ih =>
    rintro ⟨⟨increasing, found⟩, above⟩
    simp only [leadingBinding] at extends_ increasing found above
    split at extends_
    · -- `r` is placed: the rest extends the placed refs after it, which lie past `r`
      rename_i binds
      simp only [if_pos binds, List.cons_append, List.map_cons, List.pairwise_cons,
        List.mem_cons, forall_eq_or_imp] at increasing found above
      refine ih (r.position + 1) (List.cons_prefix_cons.mp extends_).2 ⟨⟨increasing.2, found.2⟩, ?_⟩
      intro other member
      exact increasing.1 other.position (List.mem_map_of_mem member)
    · -- nothing is placed, so `next` is `r`, which the walk refused
      rename_i refused
      simp only [if_neg refused, List.nil_append] at extends_ found above
      obtain ⟨rfl, -⟩ := List.cons_prefix_cons.mp extends_
      exact refused ⟨above _ List.mem_cons_self, found _ List.mem_cons_self⟩

theorem longestBinding_leadingBinding (refs : List CriterionRef) :
    LongestBinding tokens refs (leadingBinding tokens 0 refs) := by
  refine ⟨leadingBinding_initial 0 refs, bindsInOrder_leadingBinding 0 refs, fun next extends_ binds => ?_⟩
  exact leadingBinding_maximal 0 refs next extends_ ⟨binds, fun r _ => Nat.zero_le _⟩

theorem BindsInOrder.of_initial {refs shorter : List CriterionRef} (binds : BindsInOrder tokens refs)
    (pre : shorter <+: refs) : BindsInOrder tokens shorter :=
  ⟨binds.1.sublist (pre.sublist.map _), fun r member => binds.2 r (pre.subset member)⟩

theorem LongestBinding.eq {refs placed other : List CriterionRef}
    (longest : LongestBinding tokens refs placed) (rival : LongestBinding tokens refs other) :
    placed = other := by
  -- a longest binding that is a prefix of another is all of it
  have shorter_eq : ∀ {p q : List CriterionRef}, LongestBinding tokens refs p →
      LongestBinding tokens refs q → p <+: q → p = q := by
    intro p q pLongest qLongest pre
    by_cases same : p.length = q.length
    · exact pre.eq_of_length same
    · have short : p.length < q.length := lt_of_le_of_ne pre.length_le same
      have grown : p ++ [q[p.length]] <+: q := by
        have taken : q.take (p.length + 1) = p ++ [q[p.length]] := by
          rw [List.take_add_one, List.getElem?_eq_getElem short, ← List.prefix_iff_eq_take.mp pre]
          rfl
        rw [← taken]
        exact List.take_prefix _ q
      exact absurd (qLongest.2.1.of_initial grown) (pLongest.2.2 _ (grown.trans qLongest.1))
  rcases List.prefix_or_prefix_of_prefix longest.1 rival.1 with pre | pre
  · exact shorter_eq longest rival pre
  · exact (shorter_eq rival longest pre).symm

theorem LongestBinding.eq_leadingBinding {refs placed : List CriterionRef}
    (longest : LongestBinding tokens refs placed) : placed = leadingBinding tokens 0 refs :=
  longest.eq (longestBinding_leadingBinding refs)

end Placed

/-! ## Parts of a rendering -/

section Parts

variable {placed : List CriterionRef} {position : Nat} {t : Token}

theorem partAt_cons_self {r : CriterionRef} (here : r.position = position) :
    partAt (r :: placed) position t = r.kind.name ++ "#" ++ toString r.id := by
  simp [partAt, here]

theorem partAt_cons_of_ne {r : CriterionRef} (elsewhere : r.position ≠ position) :
    partAt (r :: placed) position t = partAt placed position t := by
  simp [partAt, elsewhere]

theorem partAt_of_lt (later : ∀ r ∈ placed, position < r.position) :
    partAt placed position t = t.display := by
  have missing : placed.find? (·.position == position) = none :=
    List.find?_eq_none.mpr fun r member same => by
      have := later r member
      simp only [beq_iff_eq] at same
      omega
  simp [partAt, missing]

theorem partAt_of_mem {r : CriterionRef} (member : r ∈ placed) (here : r.position = position) :
    ∃ q ∈ placed, q.position = position ∧
      partAt placed position t = q.kind.name ++ "#" ++ toString q.id := by
  cases finding : placed.find? (·.position == position) with
  | none =>
    exact absurd (by simpa using here) (List.find?_eq_none.mp finding r member)
  | some q =>
    refine ⟨q, List.mem_of_find?_eq_some finding, by simpa using List.find?_some finding, ?_⟩
    simp [partAt, finding]

end Parts

/-- The rendering walk from any position: each remaining token's part is read off the refs
placed from that position on. The induction is on the tokens left, the refs left moving with
them. -/
theorem renderParts_eq_mapIdx (tokens : List Token) :
    ∀ (rest : List Token) (position : Nat) (refs : List CriterionRef),
      tokens.drop position = rest →
      renderParts rest position refs =
        rest.mapIdx fun offset t => partAt (leadingBinding tokens position refs) (position + offset) t := by
  intro rest
  induction rest with
  | nil => intro position refs _; rfl
  | cons t rest ih =>
    intro position refs suffix
    have token : tokens[position]? = some t := by
      rw [← Nat.add_zero position, ← List.getElem?_drop, suffix]; rfl
    have tail : tokens.drop (position + 1) = rest := by
      rw [← List.drop_drop, suffix]; rfl
    rw [List.mapIdx_cons, Nat.add_zero]
    by_cases binds : ∃ name r later, t = .placeholder name ∧ refs = r :: later ∧ r.position = position
    · -- the ref at the placeholder is used up, and no later part can name it
      obtain ⟨name, r, later, rfl, rfl, here⟩ := binds
      have found : placeholderAt tokens position = true := by simp [placeholderAt, token, Token.isPlaceholder]
      rw [renderParts_bind rest later here, leadingBinding_bind later found here, partAt_cons_self here,
        ih (position + 1) later tail]
      congr 1
      refine List.mapIdx_eq_mapIdx_iff.mpr fun offset _ => ?_
      rw [partAt_cons_of_ne (by omega), Nat.add_right_comm, Nat.add_assoc]
    · have skips : ∀ r ∈ refs.head?, t.isPlaceholder = true → r.position ≠ position := by
        intro r first isPlaceholder here
        cases t <;> simp [Token.isPlaceholder] at isPlaceholder
        cases refs <;> simp_all
      have fresh : ∀ r ∈ leadingBinding tokens (position + 1) refs, position < r.position :=
        fun r member => le_position_of_mem_leadingBinding member
      rw [renderParts_skip rest skips, leadingBinding_skip token skips, ih (position + 1) refs tail,
        partAt_of_lt fresh]
      congr 1
      refine List.mapIdx_eq_mapIdx_iff.mpr fun offset _ => ?_
      rw [Nat.add_right_comm, Nat.add_assoc]

theorem renderPolicy_eq_of_longest {tokens : List Token} {refs placed : List CriterionRef}
    (longest : LongestBinding tokens refs placed) :
    renderPolicy tokens refs = " ".intercalate (tokens.mapIdx (partAt placed)) := by
  rw [longest.eq_leadingBinding, renderPolicy, renderParts_eq_mapIdx tokens tokens 0 refs rfl]
  simp

end Policy

/-! ## Locks -/

namespace Lock

/-- The invariant of a lock's policy: one ref for each placeholder, in the order of their
positions. -/
def Invariant (l : Lock) : Prop :=
  l.criteria.map CriterionRef.position = placeholderIndices l.expression 0

theorem Invariant.longestBinding {l : Lock} (invariant : l.Invariant) :
    LongestBinding l.expression l.criteria l.criteria := by
  refine ⟨List.prefix_refl _, ⟨?_, fun r member => ?_⟩, fun next extends_ _ => ?_⟩
  · rw [invariant]
    exact pairwise_placeholderIndices l.expression 0
  · refine mem_placeholderIndices_zero.mp ?_
    rw [← invariant]
    exact List.mem_map_of_mem member
  · exact absurd extends_.length_le (by simp)

/-- In a lock that keeps its invariant, every placeholder is rendered as the label of a ref
at its position. -/
theorem Invariant.substitutes {l : Lock} {placed : List CriterionRef} (invariant : l.Invariant)
    (longest : LongestBinding l.expression l.criteria placed) {i : Nat} {name : String}
    (token : l.expression[i]? = some (.placeholder name)) :
    ∃ r ∈ l.criteria, r.position = i ∧
      partAt placed i (.placeholder name) = r.kind.name ++ "#" ++ toString r.id := by
  have whole : placed = l.criteria := longest.eq invariant.longestBinding
  subst whole
  have indexed : i ∈ l.criteria.map CriterionRef.position := by
    rw [invariant, mem_placeholderIndices_zero]
    simp [placeholderAt, token, Token.isPlaceholder]
  obtain ⟨r, member, here⟩ := List.mem_map.mp indexed
  exact partAt_of_mem member here

theorem invariant_of_reachable {allowed : Operation → Session → Prop} {s : Session}
    (reached : Reachable allowed s) {id : Nat} {l : Lock}
    (found : s.engine.store.locks.get? id = some l) : l.Invariant :=
  checkGrammar_positions ((consistent_of_reachable reached).grammar id l found)

end Lock

/-- How a lock's policy is rendered, for every lock: with `placed` the longest prefix of its refs
whose positions increase strictly and fall on placeholders, the text joins one part per token
with single spaces, the token at a placed ref's position shown as that ref's kind and id, every
other token as its display (connectives as `AND` and `OR`, anything else as its symbol). A lock
that keeps its invariant has every placeholder substituted, and every lock an engine stores keeps
it. -/
theorem policy_substitutes_bound_refs (l : Lock) (placed : List CriterionRef)
    (longest : LongestBinding l.expression l.criteria placed) :
    l.policy = " ".intercalate (l.expression.mapIdx (partAt placed)) ∧
    (l.Invariant → ∀ i name, l.expression[i]? = some (.placeholder name) →
      ∃ r ∈ l.criteria, r.position = i ∧
        partAt placed i (.placeholder name) = r.kind.name ++ "#" ++ toString r.id) ∧
    (∀ (allowed : Operation → Session → Prop) (s : Session) (id : Nat),
      Reachable allowed s → s.engine.store.locks.get? id = some l → l.Invariant) :=
  ⟨renderPolicy_eq_of_longest longest, fun invariant _ _ token => invariant.substitutes longest token,
    fun _ _ _ reached found => Lock.invariant_of_reachable reached found⟩

def outOfOrderLock : Lock where
  id := 0
  owner := Address.zero
  token := Address.zero
  amount := 1
  feePaid := 0
  expression :=
    [.lparen, .placeholder "c1", .op .and, .placeholder "c2", .rparen, .op .or, .placeholder "c3"]
  criteria := [⟨3, .burn, 5⟩, ⟨1, .time, 4⟩, ⟨6, .price, 6⟩]
  createdAt := 0

/-- Only the ref for `c2` is placed: the ref for `c1` comes after it but points back. -/
theorem policy_of_outOfOrderLock :
    LongestBinding outOfOrderLock.expression outOfOrderLock.criteria [⟨3, .burn, 5⟩] ∧
    outOfOrderLock.policy =
      " ".intercalate (outOfOrderLock.expression.mapIdx (partAt [⟨3, .burn, 5⟩])) ∧
    (outOfOrderLock.Invariant → ∀ i name,
      outOfOrderLock.expression[i]? = some (.placeholder name) →
      ∃ r ∈ outOfOrderLock.criteria, r.position = i ∧
        partAt [⟨3, .burn, 5⟩] i (.placeholder name) = r.kind.name ++ "#" ++ toString r.id) ∧
    (∀ (allowed : Operation → Session → Prop) (s : Session) (id : Nat),
      Reachable allowed s → s.engine.store.locks.get? id = some outOfOrderLock →
        outOfOrderLock.Invariant) := by
  have placed : leadingBinding outOfOrderLock.expression 0 outOfOrderLock.criteria =
      [⟨3, .burn, 5⟩] := by decide
  have longest : LongestBinding outOfOrderLock.expression outOfOrderLock.criteria
      (leadingBinding outOfOrderLock.expression 0 outOfOrderLock.criteria) :=
    longestBinding_leadingBinding _
  rw [placed] at longest
  exact ⟨longest, policy_substitutes_bound_refs outOfOrderLock _ longest⟩

example : outOfOrderLock.policy = "( c1 AND burn#5 ) OR c3" := by decide

end Escrow
