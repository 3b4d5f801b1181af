import Mathlib.Data.Nat.Log
import Mathlib.Data.Nat.Bitwise
import Mathlib.Tactic.Ring
import Escrow.Crypto.Merkle
import Escrow.Proofs.Criterion.Atomicity
import Escrow.Config

/-! Whitelist trees: every member has a short proof that verifies.

A tree over `n` leaves has `⌈log₂ n⌉ + 1` levels (`length_levelsFrom`), since each level halves
the one below, rounding up. Walking from a leaf's first position up, a node is hashed with its
sibling or, when it has none, carried up alone; either way the walk reaches the node's parent
(`getElem?_pairUp_half`), so folding the siblings onto the leaf gives the root
(`foldl_siblings_levelsFrom`), whatever the number of leaves and however often odd nodes are
carried up. The proof holds at most one sibling per level below the root. The main statement is
`proofs_complete_and_short`.
-/

set_option autoImplicit false

namespace Escrow

theorem Digest.val_inj {a b : Digest} : a.val = b.val ↔ a = b := by
  cases a
  cases b
  simp

namespace Crypto

open MerkleTree

theorem hashPair_comm (a b : Digest) : hashPair a b = hashPair b a := by
  unfold hashPair
  by_cases hab : a.val ≤ b.val <;> by_cases hba : b.val ≤ a.val
  · have same : a = b := Digest.val_inj.mp (by omega)
    subst same
    rfl
  · simp [hab, hba]
  · simp [hab, hba]
  · omega

/-! ### One level up -/

theorem getElem?_pairUp_of_pair :
    ∀ {l : List Digest} {k : Nat} {a b : Digest}, l[2 * k]? = some a → l[2 * k + 1]? = some b →
      (pairUp l)[k]? = some (hashPair a b)
  | _ :: _ :: _, 0, _, _, left, right => by
    simp only [Nat.mul_zero, List.getElem?_cons_zero, Option.some.injEq, Nat.zero_add,
      List.getElem?_cons_succ] at left right
    subst left right
    simp [pairUp]
  | _ :: _ :: rest, k + 1, _, _, left, right => by
    rw [show 2 * (k + 1) = 2 * k + 1 + 1 by ring, List.getElem?_cons_succ,
      List.getElem?_cons_succ] at left
    rw [show 2 * (k + 1) + 1 = 2 * k + 1 + 1 + 1 by ring, List.getElem?_cons_succ,
      List.getElem?_cons_succ] at right
    simp only [pairUp, List.getElem?_cons_succ]
    exact getElem?_pairUp_of_pair left right
  | [_], k, _, _, _, right => by simp at right
  | [], k, _, _, left, _ => by simp at left

theorem getElem?_pairUp_of_unpaired :
    ∀ {l : List Digest} {k : Nat} {a : Digest}, l[2 * k]? = some a → l[2 * k + 1]? = none →
      (pairUp l)[k]? = some a
  | _ :: _ :: _, 0, _, _, right => by simp at right
  | _ :: _ :: rest, k + 1, _, left, right => by
    rw [show 2 * (k + 1) = 2 * k + 1 + 1 by ring, List.getElem?_cons_succ,
      List.getElem?_cons_succ] at left
    rw [show 2 * (k + 1) + 1 = 2 * k + 1 + 1 + 1 by ring, List.getElem?_cons_succ,
      List.getElem?_cons_succ] at right
    simp only [pairUp, List.getElem?_cons_succ]
    exact getElem?_pairUp_of_unpaired left right
  | [_], k, _, left, _ => by
    cases k with
    | zero => simpa [pairUp] using left
    | succ k => simp at left
  | [], k, _, left, _ => by simp at left

theorem getElem?_pairUp_half {l : List Digest} {i : Nat} (hi : i < l.length) :
    (∀ s, l[i ^^^ 1]? = some s → (pairUp l)[i / 2]? = some (hashPair l[i] s)) ∧
      (l[i ^^^ 1]? = none → (pairUp l)[i / 2]? = some l[i]) := by
  have self : l[i]? = some l[i] := List.getElem?_eq_getElem hi
  rcases Nat.even_or_odd i with even | odd
  · -- the node is a left child: its sibling, if any, follows it
    rw [Nat.xor_one_of_even even]
    obtain ⟨k, rfl⟩ : ∃ k, i = 2 * k := ⟨i / 2, by rcases even with ⟨j, rfl⟩; omega⟩
    rw [show 2 * k / 2 = k by omega]
    exact ⟨fun s right => getElem?_pairUp_of_pair self right,
      fun right => getElem?_pairUp_of_unpaired self right⟩
  · -- the node is a right child: its sibling precedes it, and pairing is symmetric
    rw [Nat.xor_one_of_odd odd]
    obtain ⟨k, rfl⟩ : ∃ k, i = 2 * k + 1 := ⟨i / 2, by rcases odd with ⟨j, rfl⟩; omega⟩
    rw [show 2 * k + 1 - 1 = 2 * k by omega, show (2 * k + 1) / 2 = k by omega]
    refine ⟨fun s left => ?_, fun left => ?_⟩
    · rw [hashPair_comm]
      exact getElem?_pairUp_of_pair left self
    · have : 2 * k < l.length := by omega
      simp [List.getElem?_eq_getElem this] at left

/-! ### The levels of a tree -/

theorem levelsFrom_of_short {l : List Digest} (short : l.length ≤ 1) : levelsFrom l = [l] := by
  rw [levelsFrom, dif_pos short]

theorem levelsFrom_of_long {l : List Digest} (long : ¬ l.length ≤ 1) :
    levelsFrom l = l :: levelsFrom (pairUp l) := by
  rw [levelsFrom, dif_neg long]

theorem levelsFrom_ne_nil (l : List Digest) : levelsFrom l ≠ [] := by
  rw [levelsFrom]
  split <;> simp

/-- The levels of a tree over `n` leaves are the leaves paired up `0, 1, …, ⌈log₂ n⌉` times:
each level halves the one below, rounding up, until one node is left. -/
theorem levelsFrom_eq_map_iterate (l : List Digest) :
    levelsFrom l = (List.range (Nat.clog 2 l.length + 1)).map fun k => pairUp^[k] l := by
  fun_induction levelsFrom l with
  | case1 l short => simp [Nat.clog_of_right_le_one short]
  | case2 l long ih =>
    have halving : Nat.clog 2 l.length = Nat.clog 2 (pairUp l).length + 1 := by
      rw [Nat.clog_of_one_lt (by decide) (by omega), length_pairUp,
        show l.length + 2 - 1 = l.length + 1 by omega]
    rw [ih, halving]
    conv_rhs => rw [List.range_succ_eq_map]
    simp [Function.comp_def, Function.iterate_succ_apply]

theorem length_levelsFrom (l : List Digest) :
    (levelsFrom l).length = Nat.clog 2 l.length + 1 := by
  simp [levelsFrom_eq_map_iterate]

theorem root_cons {level : List Digest} {rest : List (List Digest)} (above : rest ≠ []) :
    (MerkleTree.mk (level :: rest)).root = (MerkleTree.mk rest).root := by
  obtain ⟨next, rest, rfl⟩ := List.exists_cons_of_ne_nil above
  simp [root]

theorem root_single {level : List Digest} {i : Nat} (short : level.length ≤ 1)
    (hi : i < level.length) : (MerkleTree.mk [level]).root = level[i] := by
  obtain ⟨top, rest, rfl⟩ :=
    List.exists_cons_of_ne_nil (List.ne_nil_of_length_pos (show 0 < level.length by omega))
  have : i = 0 := by simp only [List.length_cons] at hi short; omega
  subst this
  simp [root]

theorem siblings_cons {level : List Digest} {rest : List (List Digest)} (above : rest ≠ [])
    (i : Nat) :
    siblings (level :: rest) i =
      (level[i ^^^ 1]?).toList ++ siblings rest (i / 2) := by
  rw [siblings.eq_3 _ _ _ above]
  split <;> simp_all

/-! ### Proofs -/

theorem length_siblings_le (levels : List (List Digest)) (i : Nat) :
    (siblings levels i).length ≤ levels.length - 1 := by
  fun_induction siblings levels i with
  | case1 => simp
  | case2 => simp
  | case3 level rest index above s found ih =>
    simp only [List.length_cons]
    have : rest.length ≠ 0 := by simpa using above
    omega
  | case4 level rest index above missing ih =>
    simp only [List.length_cons]
    omega

theorem foldl_siblings_levelsFrom (l : List Digest) :
    ∀ i (hi : i < l.length),
      (siblings (levelsFrom l) i).foldl hashPair l[i] = (MerkleTree.mk (levelsFrom l)).root := by
  fun_induction levelsFrom l with
  | case1 l short =>
    intro i hi
    rw [siblings, List.foldl_nil, root_single short hi]
  | case2 l long ih =>
    intro i hi
    have above := levelsFrom_ne_nil (pairUp l)
    have half : i / 2 < (pairUp l).length := by rw [length_pairUp]; omega
    rw [siblings_cons above, root_cons above, ← ih (i / 2) half]
    obtain ⟨paired, alone⟩ := getElem?_pairUp_half hi
    cases sibling : l[i ^^^ 1]? with
    | some s =>
      obtain ⟨_, parent⟩ := List.getElem?_eq_some_iff.mp (paired s sibling)
      simp [parent]
    | none =>
      obtain ⟨_, parent⟩ := List.getElem?_eq_some_iff.mp (alone sibling)
      simp [parent]

theorem levelsFrom_eq_cons (l : List Digest) : ∃ rest, levelsFrom l = l :: rest := by
  rw [levelsFrom]
  split
  · exact ⟨[], rfl⟩
  · exact ⟨_, rfl⟩

theorem proof_ofLeaves (leaves : List Digest) (leaf : Digest) :
    (ofLeaves leaves).proof leaf =
      (leaves.findIdx? (· == leaf)).map (siblings (levelsFrom leaves)) := by
  obtain ⟨rest, levels⟩ := levelsFrom_eq_cons leaves
  simp only [proof, ofLeaves, levels]

theorem proof_ofLeaves_of_not_mem {leaves : List Digest} {leaf : Digest} (absent : leaf ∉ leaves) :
    (ofLeaves leaves).proof leaf = none := by
  rw [proof_ofLeaves, Option.map_eq_none_iff, List.findIdx?_eq_none_iff]
  intro x member
  simp only [beq_eq_false_iff_ne, ne_eq]
  rintro rfl
  exact absent member

theorem proof_ofLeaves_of_mem {leaves : List Digest} {leaf : Digest} (member : leaf ∈ leaves) :
    ∃ p, (ofLeaves leaves).proof leaf = some p ∧ p.length ≤ Nat.clog 2 leaves.length ∧
      verifyProof (ofLeaves leaves).root leaf p = true := by
  have found : (leaves.findIdx? (· == leaf)).isSome := by
    rw [List.findIdx?_isSome, List.any_eq_true]
    exact ⟨leaf, member, beq_self_eq_true leaf⟩
  obtain ⟨i, position⟩ := Option.isSome_iff_exists.mp found
  obtain ⟨hi, atLeaf, -⟩ := List.findIdx?_eq_some_iff_getElem.mp position
  have atLeaf : leaves[i] = leaf := by simpa using atLeaf
  refine ⟨siblings (levelsFrom leaves) i, by rw [proof_ofLeaves, position]; rfl, ?_, ?_⟩
  · have := length_siblings_le (levelsFrom leaves) i
    rw [length_levelsFrom] at this
    omega
  · rw [verifyProof, ← atLeaf, foldl_siblings_levelsFrom leaves i hi]
    simp [ofLeaves]

/-- A whitelist member is never refused by the proof checks of a signature: with the default
depth limit, a whitelist of at most 2^32 addresses gives each member a proof that is short
enough and reaches the root, so signing can only fail as a repeat or at the count's limit. -/
theorem applySignature_member {A : List Address} (small : A.length ≤ Nat.pow 2 32) {a : Address}
    (member : a ∈ A) :
    ∃ p, (ofAddresses A).proofFor a = some p ∧ p.length ≤ ({} : Config).maxProofDepth ∧
      ∀ (c c' : MultisigRecord) (e : LockError), c.whitelistRoot = (ofAddresses A).root →
        (applySignature a p ({} : Config).maxProofDepth).run.run c = (.error e, c') →
          e = .alreadySigned ∨ e = .arithmeticOverflow := by
  obtain ⟨p, found, short, verified⟩ :=
    proof_ofLeaves_of_mem (show leafHash a ∈ A.map leafHash from List.mem_map_of_mem member)
  have depth : p.length ≤ ({} : Config).maxProofDepth := by
    have levels : Nat.clog 2 (A.map leafHash).length ≤ 32 :=
      Nat.clog_le_of_le_pow (by simpa using small)
    exact le_trans short levels
  refine ⟨p, found, depth, fun c c' e rooted signed => ?_⟩
  have shallow : ¬ p.length > ({} : Config).maxProofDepth := by omega
  have reaches : verifyProof c.whitelistRoot (leafHash a) p = true := by rw [rooted]; exact verified
  rw [applySignature_run] at signed
  simp only [shallow, reaches, Bool.not_true, Bool.false_eq_true, ↓reduceIte] at signed
  split at signed
  · cases signed
    exact .inl rfl
  split at signed
  · cases signed
    exact .inr rfl
  · cases signed

/-- Whitelist proofs are complete and short. A tree over `n` leaves (duplicates allowed) has
`⌈log₂ n⌉ + 1` levels; every leaf in the list has a proof of at most `⌈log₂ n⌉` siblings that
verifies against the root; a digest not in the list has no proof; and so with the default depth
limit of 32, no member of a whitelist of at most 2^32 addresses is refused for its proof. -/
theorem proofs_complete_and_short (L : List Digest) :
    (ofLeaves L).levels.length = Nat.clog 2 L.length + 1 ∧
      (∀ leaf ∈ L, ∃ p, (ofLeaves L).proof leaf = some p ∧ p.length ≤ Nat.clog 2 L.length ∧
        verifyProof (ofLeaves L).root leaf p = true) ∧
      (∀ leaf, leaf ∉ L → (ofLeaves L).proof leaf = none) ∧
      ∀ (A : List Address), A.length ≤ Nat.pow 2 32 → ∀ a ∈ A, ∃ p,
        (ofAddresses A).proofFor a = some p ∧ p.length ≤ ({} : Config).maxProofDepth ∧
        ∀ (c c' : MultisigRecord) (e : LockError), c.whitelistRoot = (ofAddresses A).root →
          (applySignature a p ({} : Config).maxProofDepth).run.run c = (.error e, c') →
            e = .alreadySigned ∨ e = .arithmeticOverflow :=
  ⟨length_levelsFrom L, fun _ member => proof_ofLeaves_of_mem member,
    fun _ absent => proof_ofLeaves_of_not_mem absent,
    fun _ small _ member => applySignature_member small member⟩

end Crypto

end Escrow
