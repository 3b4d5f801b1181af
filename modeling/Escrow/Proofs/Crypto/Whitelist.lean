import Mathlib.Data.List.Induction
import Escrow.Proofs.Crypto.Merkle
import Escrow.Proofs.Text.BigEndian
import Escrow.Proofs.Engine.Operation

/-! Only whitelist members can sign.

A digest is Keccak-256 of a 20-byte address or of a 64-byte pair of nodes. A proof that
verifies for an address outside the whitelist shows a Keccak collision between a string the
verification hashed and a string the tree builder hashed (`member_or_collides`): walking down
from the root, each step either meets a pair the builder hashed, so the walk's node is one of the
pair's two nodes, or exhibits two different strings with one digest. Internal nodes and leaves
are digests of strings of different lengths, so an internal node cannot pose as a leaf without a
collision either. Without a collision among those strings, a signature by a non-member fails
with `notWhitelisted`, or `proofTooDeep` first (`whitelist_sound`).
-/

set_option autoImplicit false

namespace Escrow

open Escrow.Text

theorem Address.toBytes_inj {a b : Address} (same : a.toBytes = b.toBytes) : a = b := by
  have := bigEndian_inj (lt_of_lt_of_eq a.isLt (by decide)) (lt_of_lt_of_eq b.isLt (by decide)) same
  cases a
  cases b
  simp_all

theorem Digest.toBytes_inj {a b : Digest} (same : a.toBytes = b.toBytes) : a = b := by
  have := bigEndian_inj (lt_of_lt_of_eq a.isLt (by decide)) (lt_of_lt_of_eq b.isLt (by decide)) same
  exact Digest.val_inj.mp this

@[simp]
theorem Address.length_toBytes (a : Address) : a.toBytes.length = 20 := by
  simp [Address.toBytes]

@[simp]
theorem Digest.length_toBytes (d : Digest) : d.toBytes.length = 32 := by
  simp [Digest.toBytes]

namespace Crypto

open MerkleTree

/-! ### The strings that are hashed -/

def pairBytes (a b : Digest) : List UInt8 :=
  if a.val ≤ b.val then a.toBytes ++ b.toBytes else b.toBytes ++ a.toBytes

theorem hashPair_eq_digestOf (a b : Digest) : hashPair a b = digestOf (pairBytes a b) := by
  unfold hashPair pairBytes
  split <;> rfl

@[simp]
theorem length_pairBytes (a b : Digest) : (pairBytes a b).length = 64 := by
  unfold pairBytes
  split <;> simp

theorem pairBytes_ne_toBytes (a b : Digest) (s : Address) : pairBytes a b ≠ s.toBytes := by
  intro same
  have := congrArg List.length same
  simp at this

theorem mem_of_pairBytes_eq {x t a b : Digest} (same : pairBytes x t = pairBytes a b) :
    x = a ∨ x = b := by
  have halves : ∀ {u v u' v' : Digest}, u.toBytes ++ v.toBytes = u'.toBytes ++ v'.toBytes →
      u = u' ∧ v = v' := by
    intro u v u' v' joined
    obtain ⟨first, second⟩ := List.append_inj joined (by simp)
    exact ⟨Digest.toBytes_inj first, Digest.toBytes_inj second⟩
  unfold pairBytes at same
  split at same <;> split at same
  · exact .inl (halves same).1
  · exact .inr (halves same).1
  · exact .inr (halves same).2
  · exact .inl (halves same).2

def pairInputs : List Digest → List (List UInt8)
  | a :: b :: rest => pairBytes a b :: pairInputs rest
  | _ => []

/-- Every string hashed while building the tree over some addresses: each address's 20 bytes,
and each pair of sibling nodes on every level. -/
def hashInputs (A : List Address) : List (List UInt8) :=
  A.map Address.toBytes ++ (ofAddresses A).levels.flatMap pairInputs

def foldInputs : Digest → List Digest → List (List UInt8)
  | _, [] => []
  | acc, sibling :: rest => pairBytes acc sibling :: foldInputs (hashPair acc sibling) rest

def pathInputs (s : Address) (p : List Digest) : List (List UInt8) :=
  s.toBytes :: foldInputs (leafHash s) p

def Collides (xs ys : List (List UInt8)) : Prop :=
  ∃ x ∈ xs, ∃ y ∈ ys, x ≠ y ∧ digestOf x = digestOf y

theorem Collides.mono {xs xs' ys ys' : List (List UInt8)} (collides : Collides xs ys)
    (left : xs ⊆ xs') (right : ys ⊆ ys') : Collides xs' ys' := by
  obtain ⟨x, hx, y, hy, different, same⟩ := collides
  exact ⟨x, left hx, y, right hy, different, same⟩

theorem foldInputs_append_singleton (acc : Digest) (q : List Digest) (t : Digest) :
    foldInputs acc (q ++ [t]) = foldInputs acc q ++ [pairBytes (q.foldl hashPair acc) t] := by
  induction q generalizing acc with
  | nil => rfl
  | cons sibling rest ih => simp [foldInputs, ih]

theorem mem_pairUp : ∀ {l : List Digest} {y : Digest}, y ∈ pairUp l →
    y ∈ l ∨ ∃ a ∈ l, ∃ b ∈ l, pairBytes a b ∈ pairInputs l ∧ y = hashPair a b
  | a :: b :: rest, y, member => by
    simp only [pairUp, List.mem_cons] at member
    rcases member with rfl | later
    · exact .inr ⟨a, by simp, b, by simp, by simp [pairInputs], rfl⟩
    · rcases mem_pairUp later with kept | ⟨a', ha, b', hb, paired, rfl⟩
      · exact .inl (by simp [kept])
      · exact .inr ⟨a', by simp [ha], b', by simp [hb], by simp [pairInputs, paired], rfl⟩
  | [a], y, member => .inl (by simpa [pairUp] using member)
  | [], y, member => by simp [pairUp] at member

/-! ### Walking down from a node -/

section Soundness

variable (A : List Address) (s : Address)

def levelInputs (k : Nat) : List (List UInt8) :=
  A.map Address.toBytes ++ (List.range k).flatMap fun j => pairInputs (pairUp^[j] (A.map leafHash))

theorem levelInputs_mono {k k' : Nat} (le : k ≤ k') : levelInputs A k ⊆ levelInputs A k' := by
  intro x member
  simp only [levelInputs, List.mem_append, List.mem_flatMap, List.mem_range] at member ⊢
  rcases member with leaf | ⟨j, hj, paired⟩
  · exact .inl leaf
  · exact .inr ⟨j, by omega, paired⟩

theorem pathInputs_append_singleton (q : List Digest) (t : Digest) :
    pathInputs s (q ++ [t]) = pathInputs s q ++ [pairBytes (q.foldl hashPair (leafHash s)) t] := by
  simp [pathInputs, foldInputs_append_singleton]

/-- If folding a proof onto an address's leaf reaches a node of level `k`, the address is a
member, or the walk met a collision with a string hashed below level `k`. The induction is on
the level; at each level the proof's last sibling is peeled off. -/
theorem member_or_collides_of_iterate :
    ∀ (k : Nat) (q : List Digest) (y : Digest), y ∈ pairUp^[k] (A.map leafHash) →
      q.foldl hashPair (leafHash s) = y → s ∈ A ∨ Collides (pathInputs s q) (levelInputs A k) := by
  intro k
  induction k with
  | zero =>
    intro q y node reached
    obtain ⟨a, member, rfl⟩ := List.mem_map.mp node
    have leafIn : a.toBytes ∈ levelInputs A 0 := by simpa [levelInputs] using ⟨a, member, rfl⟩
    induction q using List.reverseRecOn with
    | nil =>
      -- the walk stops at a leaf: the same address, or two addresses with one digest
      by_cases same : s.toBytes = a.toBytes
      · exact .inl (Address.toBytes_inj same ▸ member)
      · exact .inr ⟨s.toBytes, by simp [pathInputs], a.toBytes, leafIn, same, reached⟩
    | append_singleton q t _ =>
      -- a pair posing as a leaf: 64 bytes against 20
      refine .inr ⟨pairBytes (q.foldl hashPair (leafHash s)) t, by
        simp [pathInputs_append_singleton], a.toBytes, leafIn, pairBytes_ne_toBytes _ _ a, ?_⟩
      rw [← hashPair_eq_digestOf]
      rw [List.foldl_append, List.foldl_cons, List.foldl_nil] at reached
      exact reached
  | succ k ih =>
    intro q y node reached
    rw [Function.iterate_succ_apply'] at node
    have below : levelInputs A k ⊆ levelInputs A (k + 1) := levelInputs_mono A (by omega)
    rcases mem_pairUp node with carried | ⟨a, ha, b, hb, paired, rfl⟩
    · exact (ih q y carried reached).imp id fun collides => collides.mono (fun _ => id) below
    · have pairIn : pairBytes a b ∈ levelInputs A (k + 1) := by
        simp only [levelInputs, List.mem_append, List.mem_flatMap, List.mem_range]
        exact .inr ⟨k, by omega, paired⟩
      induction q using List.reverseRecOn with
      | nil =>
        -- a leaf posing as a pair: 20 bytes against 64
        refine .inr ⟨s.toBytes, by simp [pathInputs], pairBytes a b, pairIn,
          (pairBytes_ne_toBytes a b s).symm, ?_⟩
        rw [← hashPair_eq_digestOf]
        exact reached
      | append_singleton q t _ =>
        rw [List.foldl_append, List.foldl_cons, List.foldl_nil] at reached
        by_cases same : pairBytes (q.foldl hashPair (leafHash s)) t = pairBytes a b
        · -- the walk met the builder's pair: its node is one of the two children
          have child : q.foldl hashPair (leafHash s) ∈ pairUp^[k] (A.map leafHash) := by
            rcases mem_of_pairBytes_eq same with left | right
            · exact left ▸ ha
            · exact right ▸ hb
          refine (ih q _ child rfl).imp id fun collides => collides.mono ?_ below
          rw [pathInputs_append_singleton]
          exact List.subset_append_left _ _
        · refine .inr ⟨_, by simp [pathInputs_append_singleton], pairBytes a b, pairIn, same, ?_⟩
          rw [← hashPair_eq_digestOf, ← hashPair_eq_digestOf]
          exact reached

end Soundness

theorem root_mem_iterate {leaves : List Digest} (nonempty : leaves ≠ []) :
    (ofLeaves leaves).root ∈ pairUp^[Nat.clog 2 leaves.length] leaves := by
  -- pairing up keeps a non-empty level non-empty
  have kept : ∀ k, pairUp^[k] leaves ≠ [] := by
    intro k
    induction k with
    | zero => exact nonempty
    | succ k ih =>
      rw [Function.iterate_succ_apply']
      intro empty
      have := congrArg List.length empty
      rw [length_pairUp, List.length_nil] at this
      exact ih (List.eq_nil_of_length_eq_zero (by omega))
  have last : (levelsFrom leaves).getLast? = some (pairUp^[Nat.clog 2 leaves.length] leaves) := by
    rw [levelsFrom_eq_map_iterate, List.getLast?_map, List.getLast?_range, if_neg (by omega)]
    rfl
  obtain ⟨top, rest, atTop⟩ := List.exists_cons_of_ne_nil (kept (Nat.clog 2 leaves.length))
  rw [ofLeaves, root]
  simp only [last, atTop]
  exact List.mem_cons_self

theorem levelInputs_subset_hashInputs (A : List Address) :
    levelInputs A (Nat.clog 2 A.length) ⊆ hashInputs A := by
  intro x member
  simp only [levelInputs, List.mem_append, List.mem_flatMap, List.mem_range] at member
  simp only [hashInputs, ofAddresses, ofLeaves, levelsFrom_eq_map_iterate, List.mem_append,
    List.flatMap_map, List.mem_flatMap, List.mem_range, List.length_map]
  rcases member with leaf | ⟨j, hj, paired⟩
  · exact .inl leaf
  · exact .inr ⟨j, by simpa using Nat.lt_succ_of_lt hj, paired⟩

/-- A proof that verifies for an address against a whitelist's root shows the address is on the
whitelist, or a Keccak collision between a string the verification hashed and one the builder
hashed. -/
theorem member_or_collides {A : List Address} (nonempty : A ≠ []) {s : Address} {p : List Digest}
    (verified : verifyProof (ofAddresses A).root (leafHash s) p = true) :
    s ∈ A ∨ Collides (pathInputs s p) (hashInputs A) := by
  have top : (ofAddresses A).root ∈ pairUp^[Nat.clog 2 A.length] (A.map leafHash) := by
    have := root_mem_iterate (show A.map leafHash ≠ [] by simpa using nonempty)
    rwa [List.length_map] at this
  have reached : p.foldl hashPair (leafHash s) = (ofAddresses A).root := by
    simpa [verifyProof] using verified
  exact (member_or_collides_of_iterate A s _ p _ top reached).imp id
    fun collides => collides.mono (fun _ => id) (levelInputs_subset_hashInputs A)

/-! ### Only members sign -/

theorem length_of_mem_pairInputs : ∀ {l : List Digest} {x : List UInt8}, x ∈ pairInputs l →
    x.length = 64
  | _ :: _ :: _, x, member => by
    simp only [pairInputs, List.mem_cons] at member
    rcases member with rfl | later
    · simp
    · exact length_of_mem_pairInputs later
  | [_], x, member => by simp [pairInputs] at member
  | [], x, member => by simp [pairInputs] at member

theorem length_of_mem_foldInputs {acc : Digest} {p : List Digest} {x : List UInt8}
    (member : x ∈ foldInputs acc p) : x.length = 64 := by
  induction p generalizing acc with
  | nil => simp [foldInputs] at member
  | cons t rest ih =>
    simp only [foldInputs, List.mem_cons] at member
    rcases member with rfl | later
    · simp
    · exact ih later

theorem length_of_mem_hashed {A : List Address} {s : Address} {p : List Digest} {x : List UInt8}
    (member : x ∈ pathInputs s p ++ hashInputs A) : x.length = 20 ∨ x.length = 64 := by
  simp only [pathInputs, hashInputs, List.cons_append, List.mem_cons, List.mem_append,
    List.mem_map, List.mem_flatMap] at member
  rcases member with rfl | path | ⟨a, -, rfl⟩ | ⟨level, -, paired⟩
  · exact .inl (by simp)
  · exact .inr (length_of_mem_foldInputs path)
  · exact .inl (by simp)
  · exact .inr (length_of_mem_pairInputs paired)

section NonMember

variable {A : List Address} (nonempty : A ≠ []) {s : Address} (outside : s ∉ A) {p : List Digest}
  (clean : ¬ Collides (pathInputs s p) (hashInputs A))

include nonempty outside clean

/-- Against a whitelist's root, a signature by an address outside the whitelist, whose proof
meets no collision, is refused as too deep or as not whitelisted, and the row is kept. -/
theorem applySignature_of_not_mem {c : MultisigRecord} (rooted : c.whitelistRoot = (ofAddresses A).root)
    (maxDepth : Nat) :
    (applySignature s p maxDepth).run.run c = (.error (.proofTooDeep maxDepth p.length), c) ∨
      (applySignature s p maxDepth).run.run c = (.error .notWhitelisted, c) := by
  have refused : verifyProof c.whitelistRoot (leafHash s) p = false := by
    rw [rooted, ← Bool.not_eq_true]
    intro verified
    rcases member_or_collides nonempty verified with member | collides
    · exact outside member
    · exact clean collides
  rw [applySignature_run]
  by_cases deep : p.length > maxDepth
  · exact .inl (by simp [deep])
  · exact .inr (by simp [deep, refused])

theorem sign_of_not_mem {session : Session} {id : Nat} {c : MultisigRecord}
    (found : session.engine.store.multisigRecord? id = some c)
    (rooted : c.whitelistRoot = (ofAddresses A).root) :
    ∃ after, after.engine = session.engine ∧
      ((Action.sign s id p).run session =
          .error (.proofTooDeep session.engine.config.maxProofDepth p.length) after ∨
        (Action.sign s id p).run session = .error .notWhitelisted after) := by
  have refusal := applySignature_of_not_mem nonempty outside clean rooted
    session.engine.config.maxProofDepth
  rcases Action.run_sign_cases (show (Action.sign s id p).run session = _ from rfl) with
    ⟨missing, -⟩ | ⟨c', fault, c'', after, found', signing, refused, same⟩ |
      ⟨c', status, c'', after, found', signing, -, -⟩
  · simp [found] at missing
  · rw [found, Option.some.injEq] at found'
    subst found'
    refine ⟨after, same, ?_⟩
    rcases refusal with deep | unlisted
    · rw [deep] at signing
      cases signing
      exact .inl refused
    · rw [unlisted] at signing
      cases signing
      exact .inr refused
  · -- an accepted signature contradicts the refusal
    rw [found, Option.some.injEq] at found'
    subst found'
    rcases refusal with deep | unlisted
    · rw [deep] at signing
      cases signing
    · rw [unlisted] at signing
      cases signing

end NonMember

/-- Only whitelist members can sign. A proof that verifies for an address against the root of
the tree over a non-empty whitelist shows the address is on the whitelist, or a Keccak collision
between a string the verification hashed and a string the builder hashed; all of those are 20 or
64 bytes long. So for an address outside the whitelist whose proof meets no such collision,
applying its signature to a row with that root, and the engine's sign on such a row, fail with
`proofTooDeep` or `notWhitelisted` and change nothing. -/
theorem whitelist_sound (A : List Address) (nonempty : A ≠ []) (s : Address) (p : List Digest) :
    (verifyProof (ofAddresses A).root (leafHash s) p = true →
      s ∈ A ∨ Collides (pathInputs s p) (hashInputs A)) ∧
    (∀ x ∈ pathInputs s p ++ hashInputs A, x.length = 20 ∨ x.length = 64) ∧
    (s ∉ A → ¬ Collides (pathInputs s p) (hashInputs A) →
      (∀ (c : MultisigRecord) (maxDepth : Nat), c.whitelistRoot = (ofAddresses A).root →
        (applySignature s p maxDepth).run.run c = (.error (.proofTooDeep maxDepth p.length), c) ∨
          (applySignature s p maxDepth).run.run c = (.error .notWhitelisted, c)) ∧
      ∀ (session : Session) (id : Nat) (c : MultisigRecord),
        session.engine.store.multisigRecord? id = some c →
        c.whitelistRoot = (ofAddresses A).root →
        ∃ after, after.engine = session.engine ∧
          ((Action.sign s id p).run session =
              .error (.proofTooDeep session.engine.config.maxProofDepth p.length) after ∨
            (Action.sign s id p).run session = .error .notWhitelisted after)) :=
  ⟨member_or_collides nonempty, fun _ member => length_of_mem_hashed member,
    fun outside clean =>
      ⟨fun _ maxDepth rooted => applySignature_of_not_mem nonempty outside clean rooted maxDepth,
        fun _ _ _ found rooted => sign_of_not_mem nonempty outside clean found rooted⟩⟩

/-! ### A tree of three -/

theorem levels_ofAddresses_three (a b c : Address) :
    (ofAddresses [a, b, c]).levels =
      [[leafHash a, leafHash b, leafHash c], [hashPair (leafHash a) (leafHash b), leafHash c],
        [hashPair (hashPair (leafHash a) (leafHash b)) (leafHash c)]] := by
  simp only [ofAddresses, ofLeaves, List.map_cons, List.map_nil]
  rw [levelsFrom_of_long (by simp), levelsFrom_of_long (by simp [pairUp]),
    levelsFrom_of_short (by simp [pairUp])]
  simp [pairUp]

/-- Over three members the third leaf is carried up unpaired. An outsider is accepted only
through a collision, and with no collision its proof is refused; presenting a proof deeper than
allowed, it is refused before any digest is compared. -/
theorem whitelist_sound_three :
    let A := [Address.ofNat 1, Address.ofNat 2, Address.ofNat 3]
    let pair := hashPair (leafHash (Address.ofNat 1)) (leafHash (Address.ofNat 2))
    (ofAddresses A).levels =
        [A.map leafHash, [pair, leafHash (Address.ofNat 3)], [hashPair pair (leafHash (Address.ofNat 3))]] ∧
      A ≠ [] ∧ Address.ofNat 9 ∉ A ∧
      (verifyProof (ofAddresses A).root (leafHash (Address.ofNat 9)) [] = true →
        Collides (pathInputs (Address.ofNat 9) []) (hashInputs A)) ∧
      (¬ Collides (pathInputs (Address.ofNat 9) [Digest.zero]) (hashInputs A) →
        ∀ c : MultisigRecord, c.whitelistRoot = (ofAddresses A).root →
          (applySignature (Address.ofNat 9) [Digest.zero] 0).run.run c =
              (.error (.proofTooDeep 0 1), c) ∨
            (applySignature (Address.ofNat 9) [Digest.zero] 0).run.run c = (.error .notWhitelisted, c)) ∧
      ∀ c : MultisigRecord, (applySignature (Address.ofNat 9) [Digest.zero] 0).run.run c =
        (.error (.proofTooDeep 0 1), c) := by
  intro A pair
  have nonempty : A ≠ [] := List.cons_ne_nil _ _
  have outside : Address.ofNat 9 ∉ A := by decide
  have sound := whitelist_sound A nonempty (Address.ofNat 9)
  refine ⟨levels_ofAddresses_three _ _ _, nonempty, outside, fun verified => ?_,
    fun clean c rooted => ((sound [Digest.zero]).2.2 outside clean).1 c 0 rooted, fun c => ?_⟩
  · exact ((sound []).1 verified).resolve_left outside
  · rw [applySignature_run]
    rfl

end Crypto

end Escrow
