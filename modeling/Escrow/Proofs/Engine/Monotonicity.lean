import Mathlib.Data.List.Forall2
import Escrow.Proofs.Engine.Signing
import Escrow.Proofs.Engine.Supply

/-! Asking whether a lock unlocks is monotone in what the engine reads from outside.

A policy that passes the grammar check is an AND/OR tree over its placeholders, and such a tree
is a monotone function of the placeholder values (`Chain.value_mono`). Each criterion is
monotone in its signal: time in the clock, a burn in the sink's balance of a fixed supply (as
long as the balance stays within the supply, where the ratio is computed without fault), a price
in the oracle's price, a market cap in the price at a fixed supply and decimals, and a multisig
row in its set of signers, whose size is its count. Together (`checkUnlock_monotone`): once a
lock's policy holds, it still holds after any such advance, whenever it can be evaluated.
-/

set_option autoImplicit false

namespace Escrow

open Escrow.Policy

/-! ### Trees of the grammar are monotone -/

/-- One list of placeholder values lies below another: they have one length, and every value
that holds in the first holds in the second. -/
abbrev ValuesLe : List Bool → List Bool → Prop := List.Forall₂ fun v v' => v = true → v' = true

namespace Policy

mutual

theorem Term.value_mono : (term : Term) → ∀ {values values' : List Bool},
    ValuesLe values values' → term.value values = true → term.value values' = true
  | .leaf _, _, _, below, holds => by
    cases below with
    | nil => simp [Term.value] at holds
    | cons first _ => exact first holds
  | .group body, _, _, below, holds => body.value_mono below holds

theorem Chain.value_mono : (chain : Chain) → ∀ {values values' : List Bool},
    ValuesLe values values' → chain.value values = true → chain.value values' = true
  | .single term, _, _, below, holds => term.value_mono below holds
  | .snoc init op last, _, _, below, holds => by
    simp only [Chain.value] at holds ⊢
    -- the right operand reads the values past the left one's, which stay below each other
    have left := init.value_mono below
    have right := last.value_mono (List.forall₂_drop init.leafCount below)
    cases op <;> simp only [Connective.apply, Bool.and_eq_true, Bool.or_eq_true] at holds ⊢
    · exact ⟨left holds.1, right holds.2⟩
    · exact holds.imp left right

end

end Policy

theorem forall₂_of_mapM {α β γ ε : Type} {f : α → Except ε β} {g : α → Except ε γ}
    {R : β → γ → Prop} :
    ∀ {xs : List α} {ys : List β} {zs : List γ}, xs.mapM f = .ok ys → xs.mapM g = .ok zs →
    (∀ x ∈ xs, ∀ y z, f x = .ok y → g x = .ok z → R y z) → List.Forall₂ R ys zs
  | [], _, _, mapped, mapped', _ => by
    cases mapped
    cases mapped'
    exact .nil
  | x :: rest, _, _, mapped, mapped', related => by
    rw [List.mapM_cons] at mapped mapped'
    obtain ⟨y, first, mapped⟩ := bind_eq_ok.mp mapped
    obtain ⟨ys, others, finished⟩ := bind_eq_ok.mp mapped
    obtain ⟨z, first', mapped'⟩ := bind_eq_ok.mp mapped'
    obtain ⟨zs, others', finished'⟩ := bind_eq_ok.mp mapped'
    cases finished
    cases finished'
    exact .cons (related x List.mem_cons_self y z first first')
      (forall₂_of_mapM others others' fun x' member => related x' (List.mem_cons_of_mem x member))

/-! ### Each criterion is monotone in its signal -/

theorem marketCap_le {supply price price' decimals cap cap' : Nat} (higher : price ≤ price')
    (computed : marketCap supply price decimals = .ok cap)
    (computed' : marketCap supply price' decimals = .ok cap') : cap ≤ cap' := by
  unfold marketCap at computed computed'
  obtain ⟨unit, united, computed⟩ := bind_eq_ok.mp computed
  obtain ⟨unit', united', computed'⟩ := bind_eq_ok.mp computed'
  rw [united] at united'
  cases united'
  rw [mulDiv_eq_ok computed, mulDiv_eq_ok computed']
  exact Nat.div_le_div_right (Nat.mul_le_mul_left supply higher)

theorem ratio_of_le {part whole : Nat} (within : part ≤ whole) (positive : whole ≠ 0)
    (inRange : part < amountBound) : ratio part whole = some (part * fixedOne / whole) := by
  have atMostOne : part * fixedOne / whole ≤ fixedOne :=
    Nat.div_le_of_le_mul (Nat.mul_le_mul_right fixedOne within)
  have fits : fixedOne < amountBound := by decide
  rw [ratio_eq whole inRange, if_neg positive, if_pos (by omega)]

namespace Ledger

variable {l l' : Ledger} {token : Address}

theorem burnRatio_le {sink : Address} (sameSupply : l'.totalSupply token = l.totalSupply token)
    (more : l.balanceOf token sink ≤ l'.balanceOf token sink)
    (within : ∀ supply, l'.totalSupply token = .ok supply → l'.balanceOf token sink ≤ supply)
    (inRange : l'.balanceOf token sink < amountBound) {r r' : Nat}
    (reading : l.burnRatio token sink = .ok r) (reading' : l'.burnRatio token sink = .ok r') :
    r ≤ r' := by
  unfold burnRatio at reading reading'
  obtain ⟨supply, supplied, reading⟩ := bind_eq_ok.mp reading
  obtain ⟨supply', supplied', reading'⟩ := bind_eq_ok.mp reading'
  rw [sameSupply, supplied] at supplied'
  cases supplied'
  cases reading
  cases reading'
  have inSupply := within supply (by rw [sameSupply, supplied])
  -- with no supply both ratios are missing and read as zero
  by_cases empty : supply = 0
  · simp [ratio, empty]
  · rw [ratio_of_le (by omega) empty (by omega), ratio_of_le inSupply empty inRange]
    exact Nat.div_le_div_right (Nat.mul_le_mul_right fixedOne more)

theorem currentMarketCap_le (sameSupply : l'.totalSupply token = l.totalSupply token)
    (sameDecimals : l'.decimalsOf token = l.decimalsOf token)
    (higher : ∀ p p', l.fetchPrice token = .ok p → l'.fetchPrice token = .ok p' → p ≤ p')
    {cap cap' : Nat} (reading : l.currentMarketCap token = .ok cap)
    (reading' : l'.currentMarketCap token = .ok cap') : cap ≤ cap' := by
  unfold currentMarketCap at reading reading'
  obtain ⟨supply, supplied, reading⟩ := bind_eq_ok.mp reading
  obtain ⟨price, priced, reading⟩ := bind_eq_ok.mp reading
  obtain ⟨decimals, declared, reading⟩ := bind_eq_ok.mp reading
  obtain ⟨supply', supplied', reading'⟩ := bind_eq_ok.mp reading'
  obtain ⟨price', priced', reading'⟩ := bind_eq_ok.mp reading'
  obtain ⟨decimals', declared', reading'⟩ := bind_eq_ok.mp reading'
  rw [sameSupply, supplied] at supplied'
  rw [sameDecimals, declared] at declared'
  cases supplied'
  cases declared'
  exact marketCap_le (higher price price' priced priced') reading reading'

end Ledger

theorem MultisigRecord.isSatisfied_iff {c : MultisigRecord} :
    c.isSatisfied = true ↔ c.threshold ≤ c.signedCount := by
  unfold isSatisfied status
  by_cases reached : c.signedCount ≥ c.threshold
  · simp [reached]
  · by_cases none : c.signedCount = 0 <;> simp [reached, none]

theorem MultisigRecord.Counted.count_le {c c' : MultisigRecord} (counted : c.Counted)
    (counted' : c'.Counted) (more : ∀ a ∈ c.signed.toList, a ∈ c'.signed.toList) :
    c.signedCount ≤ c'.signedCount := by
  rw [counted.count, counted'.count]
  exact (List.subperm_of_subset counted.distinct more).length_le

theorem reaches_mono {read read' : Except LockError Nat} {target : Nat} {v v' : Bool}
    (rose : ∀ x x', read = .ok x → read' = .ok x' → x ≤ x')
    (reading : (do pure (target ≤ (← read)) : Except LockError Bool) = .ok v)
    (reading' : (do pure (target ≤ (← read')) : Except LockError Bool) = .ok v') :
    v = true → v' = true := by
  obtain ⟨x, read, reading⟩ := bind_eq_ok.mp reading
  obtain ⟨x', read', reading'⟩ := bind_eq_ok.mp reading'
  cases reading
  cases reading'
  have higher := rose x x' read read'
  simp only [decide_eq_true_eq]
  omega

/-- What may change between two readings of a lock's criteria, ref by ref: a time row stays; a
burn row stays, its token's supply is unchanged and the sink holds no less; a price row stays and
the price is no lower; a market-cap row stays, the price is no lower and the supply and decimals
are unchanged; a multisig row keeps its threshold and only gains signers. -/
structure Lock.Advances (l : Lock) (st st' : Store) : Prop where
  time : ∀ r ∈ l.criteria, ∀ c, st.timeRecord? r.id = some c → st'.timeRecord? r.id = some c
  burn : ∀ r ∈ l.criteria, ∀ c, st.burnRecord? r.id = some c →
    st'.burnRecord? r.id = some c ∧ st'.ledger.totalSupply c.token = st.ledger.totalSupply c.token ∧
    st.ledger.balanceOf c.token c.burnSink ≤ st'.ledger.balanceOf c.token c.burnSink
  price : ∀ r ∈ l.criteria, ∀ c, st.priceRecord? r.id = some c →
    st'.priceRecord? r.id = some c ∧
    ∀ p p', st.ledger.fetchPrice c.token = .ok p → st'.ledger.fetchPrice c.token = .ok p' → p ≤ p'
  marketCap : ∀ r ∈ l.criteria, ∀ c, st.marketCapRecord? r.id = some c →
    st'.marketCapRecord? r.id = some c ∧
    (∀ p p', st.ledger.fetchPrice c.token = .ok p → st'.ledger.fetchPrice c.token = .ok p' → p ≤ p') ∧
    st'.ledger.totalSupply c.token = st.ledger.totalSupply c.token ∧
    st'.ledger.decimalsOf c.token = st.ledger.decimalsOf c.token
  multisig : ∀ r ∈ l.criteria, ∀ c, st.multisigRecord? r.id = some c →
    ∃ c', st'.multisigRecord? r.id = some c' ∧ c'.threshold = c.threshold ∧
      ∀ a ∈ c.signed.toList, a ∈ c'.signed.toList

/-- Each criterion of a lock holds no less after an advance of its signals: a criterion that
held still holds, whenever it can be read. The later balances fit 128 bits and within their
supply, so a burn ratio there is computed without fault. -/
theorem Engine.isSatisfied_mono {e e' : Engine} {l : Lock} (advances : l.Advances e.store e'.store)
    (counted : e.store.SignersCounted) (counted' : e'.store.SignersCounted)
    (bounded' : e'.store.ledger.Bounded) (conserved' : e'.store.ledger.Conserved) {now now' : Int}
    (later : now ≤ now') {r : CriterionRef} (member : r ∈ l.criteria) {v v' : Bool}
    (reading : e.isSatisfied r now = .ok v) (reading' : e'.isSatisfied r now' = .ok v') :
    v = true → v' = true := by
  unfold Engine.isSatisfied at reading reading'
  -- each kind reads its own row in both stores; the rows agree or advance
  cases kind : r.kind with
  | time =>
    simp only [kind] at reading reading'
    split at reading
    · rename_i c found
      rw [advances.time r member c found] at reading'
      cases reading
      cases reading'
      simp only [decide_eq_true_eq]
      omega
    · cases reading
  | burn =>
    simp only [kind] at reading reading'
    split at reading
    · rename_i c found
      obtain ⟨found', sameSupply, more⟩ := advances.burn r member c found
      rw [found'] at reading'
      have within : ∀ supply, e'.store.ledger.totalSupply c.token = .ok supply →
          e'.store.ledger.balanceOf c.token c.burnSink ≤ supply := fun _ supplied =>
        conserved'.balanceOf_le_supply supplied c.burnSink
      exact reaches_mono (fun _ _ => Ledger.burnRatio_le sameSupply more within (bounded' _ _))
        reading reading'
    · cases reading
  | price =>
    simp only [kind] at reading reading'
    split at reading
    · rename_i c found
      obtain ⟨found', higher⟩ := advances.price r member c found
      rw [found'] at reading'
      exact reaches_mono higher reading reading'
    · cases reading
  | marketCap =>
    simp only [kind] at reading reading'
    split at reading
    · rename_i c found
      obtain ⟨found', higher, sameSupply, sameDecimals⟩ := advances.marketCap r member c found
      rw [found'] at reading'
      exact reaches_mono (fun _ _ => Ledger.currentMarketCap_le sameSupply sameDecimals higher)
        reading reading'
    · cases reading
  | multisig =>
    simp only [kind] at reading reading'
    split at reading
    · rename_i c found
      obtain ⟨c', found', sameThreshold, more⟩ := advances.multisig r member c found
      rw [found'] at reading'
      cases reading
      cases reading'
      have grew := (counted _ c (Store.criteria_multisig found)).count_le
        (counted' _ c' (Store.criteria_multisig found')) more
      rw [MultisigRecord.isSatisfied_iff, MultisigRecord.isSatisfied_iff, sameThreshold]
      omega
    · cases reading

theorem Lock.advances_self {l : Lock} {st : Store} : l.Advances st st where
  time _ _ _ found := found
  burn _ _ _ found := ⟨found, rfl, le_rfl⟩
  price _ _ _ found := ⟨found, fun _ _ read read' => by rw [read] at read'; cases read'; rfl⟩
  marketCap _ _ _ found :=
    ⟨found, fun _ _ read read' => by rw [read] at read'; cases read'; rfl, rfl, rfl⟩
  multisig _ _ c found := ⟨c, found, rfl, fun _ member => member⟩

theorem Action.checkUnlock_eq_ok {s : Session} {id : Nat} {l : Lock} {chain : Chain}
    (evaluates : ∀ resolve : CriterionRef → Except LockError Bool,
      evaluate l.expression l.criteria resolve = (l.criteria.mapM resolve).map chain.value)
    (found : s.engine.store.locks.get? id = some l) {now : Int} {v : Bool} {after : Session}
    (ran : (checkUnlock id now).run s = .ok v after) :
    ∃ values, l.criteria.mapM (s.engine.isSatisfied · now) = .ok values ∧ chain.value values = v := by
  obtain ⟨log, answered⟩ := Action.run_checkUnlock id now s
  rw [answered, found] at ran
  simp only [evaluates] at ran
  cases resolving : l.criteria.mapM (s.engine.isSatisfied · now) with
  | error fault => simp [resolving, Except.map] at ran
  | ok values =>
    simp only [resolving, Except.map, Action.answered_ok, EStateM.Result.ok.injEq] at ran
    exact ⟨values, rfl, ran.1⟩

/-- Once a lock of a reachable engine unlocks, it still unlocks in any reachable engine whose
clock is no earlier and whose signals have advanced for the lock's criteria, whenever the policy
can be evaluated there. -/
theorem checkUnlock_monotone {allowed allowed' : Operation → Session → Prop} {s s' : Session}
    (reached : Reachable allowed s) (reached' : Reachable allowed' s') {id : Nat} {l : Lock}
    (found : s.engine.store.locks.get? id = some l) (found' : s'.engine.store.locks.get? id = some l)
    (advances : l.Advances s.engine.store s'.engine.store) {now now' : Int} (later : now ≤ now')
    {after after' : Session} {b : Bool} (holds : (Action.checkUnlock id now).run s = .ok true after)
    (answered : (Action.checkUnlock id now').run s' = .ok b after') : b = true := by
  obtain ⟨chain, -, evaluates⟩ := Lock.evaluate_eq ((consistent_of_reachable reached).grammar id l found)
  obtain ⟨values, resolved, held⟩ := Action.checkUnlock_eq_ok evaluates found holds
  obtain ⟨values', resolved', rfl⟩ := Action.checkUnlock_eq_ok evaluates found' answered
  -- criterion by criterion, what held before holds after
  have below : ValuesLe values values' :=
    forall₂_of_mapM resolved resolved' fun r member _ _ read read' =>
      Engine.isSatisfied_mono advances (signersCounted_of_reachable reached)
        (signersCounted_of_reachable reached') (bounded_of_reachable reached').balances
        (conserved_of_engine_run reached') later member read read'
  exact chain.value_mono below held

/-- A one-minute lock that unlocks at its minute still unlocks a minute later. -/
theorem checkUnlock_monotone_ownerLockRun :
    (∃ after, (Action.checkUnlock 0 60).run ownerLockRun = .ok true after) ∧
      ∀ b after, (Action.checkUnlock 0 120).run ownerLockRun = .ok b after → b = true := by
  have reached : Reachable (fun _ _ => True) ownerLockRun :=
    .step (.step (.step (.step (.start {} rfl) trivial) trivial) trivial) trivial
  obtain ⟨l, found⟩ := Option.isSome_iff_exists.mp
    (by decide +kernel : (ownerLockRun.engine.store.locks.get? 0).isSome = true)
  -- at its minute the lock's policy holds
  have evaluated : (ownerLockRun.engine.store.locks.get? 0).map
      (fun l => (evaluate l.expression l.criteria (ownerLockRun.engine.isSatisfied · 60)).toOption) =
        some (some true) := by
    decide +kernel
  rw [found, Option.map_some, Option.some.injEq] at evaluated
  obtain ⟨log, answered⟩ := Action.run_checkUnlock 0 60 ownerLockRun
  rw [found] at answered
  cases evaluating : evaluate l.expression l.criteria (ownerLockRun.engine.isSatisfied · 60) with
  | error fault => simp [evaluating, Except.toOption] at evaluated
  | ok v =>
    simp only [evaluating, Except.toOption, Option.some.injEq] at evaluated answered
    subst evaluated
    rw [Action.answered_ok] at answered
    exact ⟨⟨_, answered⟩, fun b after answered' => checkUnlock_monotone reached reached found found
      Lock.advances_self (by decide) answered answered'⟩

end Escrow
