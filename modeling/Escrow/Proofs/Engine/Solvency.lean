import Escrow.Proofs.Engine.Operation

/-! Custody solvency.

Custody must hold, of every token, at least what the locks on it still hold: the amount of an
active lock, what a consumed lock retained. `Backed` is that fact together with what carries it
through a reopening (the stored settings are the ones in force, and a stored lock has moved the
lock counter, which fixes the custody) and through an unlock (every lock is stored under its
own id). Each operation keeps `Backed` (`Backed.perform`), and so does every run from a fresh
store (`custody_covers_locks`), as long as custody does not lock its own tokens: an intake from
custody to itself moves nothing, and `custody_self_lock_undercovers` shows the locks then
outgrowing the balance.
-/

set_option autoImplicit false

namespace Escrow

/-- What a lock still holds in custody: all of it while active, what it retained once
consumed. -/
def Lock.held (l : Lock) : Nat :=
  match l.state with
  | .active => l.amount
  | .consumed _ _ _ retained => retained

def Lock.heldOf (l : Lock) (token : Address) : Nat := if l.token = token then l.held else 0

def Table.total {κ ν : Type} (t : Table κ ν) (f : ν → Nat) : Nat :=
  t.entries.foldr (fun e total => f e.2 + total) 0

def owed (locks : Table Nat Lock) (token : Address) : Nat := locks.total (·.heldOf token)

theorem Lock.held_of_isActive {l : Lock} (active : l.isActive = true) : l.held = l.amount := by
  cases state : l.state with
  | active => simp [held, state]
  | consumed => simp [isActive, state] at active

theorem Table.total_insert_add_le {κ ν : Type} [DecidableEq κ] (t : Table κ ν) (k : κ) (v : ν)
    (f : ν → Nat) : (t.insert k v).total f + ((t.get? k).map f).getD 0 ≤ t.total f + f v := by
  unfold Table.total Table.insert Table.get?
  simp only [List.foldr_cons, Option.map_map]
  -- over the entries: those of other keys, plus the first of key `k`, sum to at most all of them
  have kept : ∀ entries : List (κ × ν),
      (entries.filter fun e => !decide (e.1 = k)).foldr (fun e total => f e.2 + total) 0 +
        ((entries.find? fun e => decide (e.1 = k)).map (f ∘ Prod.snd)).getD 0 ≤
      entries.foldr (fun e total => f e.2 + total) 0 := by
    intro entries
    induction entries with
    | nil => simp
    | cons e rest ih =>
      by_cases here : e.1 = k
      · simp only [List.filter_cons, here, decide_true, Bool.not_true, List.find?_cons]
        simp
        omega
      · simp only [List.filter_cons, here, decide_false, Bool.not_false, List.find?_cons]
        simp
        omega
  have := kept t.entries
  omega

theorem Table.entries_ne_nil_of_get? {κ ν : Type} [DecidableEq κ] {t : Table κ ν} {k : κ} {v : ν}
    (found : t.get? k = some v) : t.entries ≠ [] := fun empty => by
  simp [Table.get?, empty] at found

theorem owed_insert_add_le (locks : Table Nat Lock) (id : Nat) (l : Lock) (token : Address) :
    owed (locks.insert id l) token + ((locks.get? id).map (·.heldOf token)).getD 0 ≤
      owed locks token + l.heldOf token :=
  Table.total_insert_add_le locks id l _

def LocksKeyed (locks : Table Nat Lock) : Prop := ∀ id l, locks.get? id = some l → l.id = id

theorem LocksKeyed.insert {locks : Table Nat Lock} (keyed : LocksKeyed locks) {id : Nat} {l : Lock}
    (own : l.id = id) : LocksKeyed (locks.insert id l) := by
  intro k found present
  by_cases here : id = k
  · subst here
    rw [Table.get?_insert_self] at present
    cases present
    exact own
  · rw [Table.get?_insert_ne _ _ here] at present
    exact keyed k found present

/-- Custody solvency, with what carries it through a reopening: the settings in force are the
stored ones; once a lock is stored the lock counter has moved, which fixes the custody; and
custody holds, of every token, at least what the locks hold of it. -/
structure Backed (e : Engine) : Prop where
  stored : e.store.config? = some e.config
  counted : e.store.locks.entries ≠ [] → 0 < e.store.nextLockId
  keyed : LocksKeyed e.store.locks
  covered : ∀ token, owed e.store.locks token ≤ e.store.ledger.balanceOf token e.config.custody

theorem owed_of_entries_eq_nil {locks : Table Nat Lock} (empty : locks.entries = []) (token : Address) :
    owed locks token = 0 := by
  simp [owed, Table.total, empty]

namespace Backed

variable {e after : Engine}

theorem of_budget (backed : Backed e) (stored : after.store.config? = some after.config)
    (counted : after.store.locks.entries ≠ [] → 0 < after.store.nextLockId)
    (keyed : LocksKeyed after.store.locks)
    (custody : after.config.custody = e.config.custody)
    (budget : ∀ token,
      owed after.store.locks token + e.store.ledger.balanceOf token e.config.custody ≤
        owed e.store.locks token + after.store.ledger.balanceOf token e.config.custody) :
    Backed after := by
  refine ⟨stored, counted, keyed, fun token => ?_⟩
  have before := backed.covered token
  have step := budget token
  rw [custody]
  omega

theorem of_ledger (backed : Backed e) (l : Ledger)
    (richer : ∀ token, e.store.ledger.balanceOf token e.config.custody ≤ l.balanceOf token e.config.custody) :
    Backed { e with store := { e.store with ledger := l } } :=
  backed.of_budget backed.stored backed.counted backed.keyed rfl fun token => by
    have gained := richer token
    simp only
    omega

end Backed

open Escrow.Action

theorem backed_start {config : Config} {e : Engine} (started : Engine.start config {} = .ok e) :
    Backed e := by
  obtain ⟨rfl, -⟩ := Engine.start_eq_ok started
  refine ⟨rfl, fun empty => absurd rfl empty, fun _ _ found => ?_, fun token => ?_⟩
  · simp at found
  · simp [owed, Table.total]

variable {s : Session}

theorem Action.ReplacesLedger.backed {α : Type} {action : Action α}
    {change : Ledger → Except LockError Ledger} (replaces : ReplacesLedger action change)
    (backed : Backed s.engine)
    (richer : ∀ l, change s.engine.store.ledger = .ok l → ∀ token,
      s.engine.store.ledger.balanceOf token s.engine.config.custody ≤
        l.balanceOf token s.engine.config.custody) :
    Backed (sessionAfter (action.run s)).engine := by
  rw [replaces s]
  cases changing : change s.engine.store.ledger with
  | error fault => exact backed
  | ok l => exact backed.of_ledger l (richer l changing)

theorem Backed.resetsSettings {α : Type} {action : Action α} (resets : ResetsSettings action)
    (backed : Backed s.engine) : Backed (sessionAfter (action.run s)).engine := by
  rcases resets s with same | ⟨next, custody, changed⟩
  · rw [same]
    exact backed
  · rw [changed]
    exact backed.of_budget rfl backed.counted backed.keyed custody fun token => Nat.le_refl _

theorem Backed.sign (backed : Backed s.engine) (signer : Address) (id : Nat) (proof : List Digest) :
    Backed (sessionAfter ((sign signer id proof).run s)).engine := by
  rcases engine_sign signer id proof s with same | ⟨record, signed⟩
  · rw [same]
    exact backed
  · rw [signed]
    exact backed.of_budget backed.stored backed.counted backed.keyed rfl fun token => Nat.le_refl _

theorem Backed.reopen (backed : Backed s.engine) (config : Option Config) :
    Backed (sessionAfter ((reopen config).run s)).engine := by
  rcases engine_reopen config s with same | ⟨c, -, started⟩
  · rw [same]
    exact backed
  obtain ⟨reopened, fixed⟩ := Engine.start_eq_ok started
  rw [reopened]
  refine ⟨rfl, backed.counted, backed.keyed, fun token => ?_⟩
  by_cases empty : s.engine.store.locks.entries = []
  · simp [owed_of_entries_eq_nil empty]
  · have custody := fixed _ backed.stored (backed.counted empty)
    rw [← custody]
    exact backed.covered token

theorem FeeSchedule.quote_percent_lt {schedule : FeeSchedule} {token wallet : Address} {amount fee : Nat}
    (quoted : schedule.quote token amount = .ok (.percent wallet fee)) : fee < amount := by
  unfold FeeSchedule.quote at quoted
  split at quoted
  · cases quoted
  · split at quoted
    · cases computing : mulDiv amount schedule.feePercent fixedOne with
      | error fault => simp [computing, bind, Except.bind] at quoted
      | ok computed =>
        simp only [computing, bind, Except.bind] at quoted
        by_cases zero : computed = 0
        · simp [zero, pure, Except.pure] at quoted
        by_cases whole : computed ≥ amount
        · simp [zero, whole, throw, throwThe, MonadExceptOf.throw] at quoted
        · simp only [zero, whole, if_false, pure, Except.pure, Except.ok.injEq,
            FeeCharge.percent.injEq] at quoted
          omega
    · split at quoted
      · split at quoted <;> cases quoted
      · cases quoted
open Ledger
variable {l intake charged : Ledger} {token caller custody : Address} {amount : Nat}

theorem custody_balanceOf_intake (differ : caller ≠ custody)
    (taking : l.transferFrom token custody caller custody amount = .ok intake) (t : Address) :
    intake.balanceOf t custody = l.balanceOf t custody + if token = t then amount else 0 := by
  rw [balanceOf_of_transferFrom taking]
  by_cases onToken : token = t
  · subst onToken
    simp [differ, Ne.symm differ]
  · simp [onToken, Ne.symm onToken]

theorem custody_gain_of_create {schedule : FeeSchedule} {charge : FeeCharge}
    (differ : caller ≠ custody) (quoting : schedule.quote token amount = .ok charge)
    (taking : l.transferFrom token custody caller custody amount = .ok intake)
    (charging : intake.chargeFee custody caller token charge = .ok charged) (t : Address) :
    l.balanceOf t custody + (if token = t then charge.netOf amount else 0) ≤
      charged.balanceOf t custody := by
  have intaken := custody_balanceOf_intake differ taking t
  cases charge with
  | none =>
    cases charging
    simp only [FeeCharge.netOf, intaken]
    omega
  | flat wallet feeToken fee =>
    -- a flat fee is taken from the owner, never from custody
    have kept := balanceOf_le_of_transferFrom charging t (Ne.symm differ)
    simp only [FeeCharge.netOf]
    omega
  | percent wallet fee =>
    have below := FeeSchedule.quote_percent_lt quoting
    rw [chargeFee, balanceOf_of_transfer charging] at *
    simp only [FeeCharge.netOf]
    by_cases onToken : token = t
    · subst onToken
      by_cases toWallet : custody = wallet
      · simp [toWallet] at intaken ⊢
        omega
      · simp [toWallet] at intaken ⊢
        omega
    · simp [onToken, Ne.symm onToken] at intaken ⊢
      omega

theorem custody_le_of_refund (differ : caller ≠ custody)
    (taking : l.transferFrom token custody caller custody amount = .ok intake) (t : Address) :
    l.balanceOf t custody ≤
      (match intake.transfer token custody caller amount with
        | .ok back => back
        | .error _ => intake).balanceOf t custody := by
  have intaken := custody_balanceOf_intake differ taking t
  cases refunding : intake.transfer token custody caller amount with
  | error fault =>
    simp only
    omega
  | ok back =>
    simp only
    rw [balanceOf_of_transfer refunding]
    by_cases onToken : token = t
    · subst onToken
      simp [Ne.symm differ] at intaken ⊢
      omega
    · simp [onToken, Ne.symm onToken] at intaken ⊢
      omega

theorem Backed.create (backed : Backed s.engine) {caller : Address}
    (notCustody : caller ≠ s.engine.config.custody) (req : LockRequest) (now : Int) :
    Backed (sessionAfter ((Action.create caller req now).run s)).engine := by
  rcases run_create_cases (show (Action.create caller req now).run s = _ from rfl) with
    ⟨fault, refused⟩ | ⟨charge, intake, inner, after, -, taking, -, refused, restored⟩ |
      ⟨compiled, refs, records, next, charge, intake, charged, after, -, -, -, quoting, taking,
        charging, accepted, written⟩
  · rw [refused]
    exact backed
  · rw [refused, sessionAfter_error, restored]
    exact backed.of_ledger _ (custody_le_of_refund notCustody taking)
  · rw [accepted, sessionAfter_ok, written]
    refine backed.of_budget ?_ (fun _ => Nat.succ_pos _) ?_ rfl fun token => ?_
    · simpa using backed.stored
    · simp only [Store.locks_putLock, Store.foldl_putCriterion]
      exact backed.keyed.insert rfl
    -- the new lock owes its net amount, and custody gained at least that much
    · have replaced := owed_insert_add_le s.engine.store.locks s.engine.store.nextLockId
        { id := s.engine.store.nextLockId, owner := caller, token := req.token,
          amount := charge.netOf req.amount, feePaid := charge.paid,
          expression := compiled.tokens, criteria := refs, createdAt := now } token
      have gained := custody_gain_of_create notCustody quoting taking charging token
      simp only [Lock.heldOf, Lock.held] at replaced
      simp only [Store.foldl_putCriterion, Store.locks_putLock, Store.ledger_putLock]
      omega

/-- A payout lowers custody's balance of the lock's token by at most what it pays, and no
other balance of custody. -/
theorem custody_le_of_payout {l paidOut : Ledger} {token custody recipient : Address} {paid : Nat}
    (paying : (if 0 < paid then l.transfer token custody recipient paid else .ok l) = .ok paidOut)
    (t : Address) :
    l.balanceOf t custody ≤ paidOut.balanceOf t custody + if token = t then paid else 0 := by
  by_cases positive : 0 < paid
  · simp only [positive, if_true] at paying
    rw [Ledger.balanceOf_of_transfer paying]
    by_cases onToken : token = t
    · subst onToken
      by_cases toCustody : custody = recipient
      · simp [toCustody]
      · simp [toCustody]
        omega
    · simp [onToken, Ne.symm onToken]
  · simp only [positive, if_false, Except.ok.injEq] at paying
    subst paying
    omega

theorem Backed.unlockWith (backed : Backed s.engine) (caller : Address) (id : Nat)
    (recipient : Address) (mode : UnlockMode) (now : Int) :
    Backed (sessionAfter ((Action.unlockWith caller id recipient mode now).run s)).engine := by
  rcases run_unlockWith_cases (show (Action.unlockWith caller id recipient mode now).run s = _ from rfl) with
    ⟨fault, after, refused, same, -⟩ |
      ⟨l, paid, inner, after, found, -, active, -, within, -, -, refused, restored⟩ |
      ⟨l, paid, paidOut, checked, after, -, found, -, active, -, -, within, paying, accepted, written⟩
  · rw [refused, sessionAfter_error, same]
    exact backed
  · -- the lock goes back active: the locks hold no more than before, and nothing was paid
    obtain rfl := backed.keyed id l found
    rw [refused, sessionAfter_error, restored]
    refine backed.of_budget backed.stored
      (fun _ => backed.counted (Table.entries_ne_nil_of_get? found)) ?_ rfl fun token => ?_
    · exact (backed.keyed.insert rfl).insert rfl
    · simp only [Store.locks_putLock, Store.ledger_putLock]
      have consumed := owed_insert_add_le s.engine.store.locks l.id
        { l with state := .consumed now recipient paid (l.amount - paid) } token
      have back := owed_insert_add_le (s.engine.store.locks.insert l.id
        { l with state := .consumed now recipient paid (l.amount - paid) }) l.id l token
      rw [found] at consumed
      rw [Table.get?_insert_self] at back
      simp only [Option.map_some, Option.getD_some] at consumed back
      omega
  · -- the lock keeps what it does not pay, and custody pays no more than that
    obtain rfl := backed.keyed id l found
    rw [accepted, sessionAfter_ok, written]
    refine backed.of_budget backed.stored
      (fun _ => backed.counted (Table.entries_ne_nil_of_get? found)) ?_ rfl fun token => ?_
    · exact backed.keyed.insert rfl
    · simp only [Store.locks_putLock]
      have replaced := owed_insert_add_le s.engine.store.locks l.id
        { l with state := .consumed now recipient paid (l.amount - paid) } token
      have paidFrom := custody_le_of_payout paying token
      rw [found] at replaced
      simp only [Option.map_some, Option.getD_some, Lock.heldOf, Lock.held_of_isActive active] at replaced
      by_cases onToken : l.token = token
      · subst onToken
        simp only [↓reduceIte, Lock.held] at replaced paidFrom
        omega
      · simp only [onToken, if_false] at replaced paidFrom
        omega

theorem Backed.unlock (backed : Backed s.engine) (caller : Address) (id : Nat) (recipient : Address)
    (mode : Nat) (data : List UInt8) (now : Int) :
    Backed (sessionAfter ((Action.unlock caller id recipient mode data now).run s)).engine := by
  rw [run_unlock]
  cases UnlockMode.decode mode data with
  | ok decoded => exact backed.unlockWith caller id recipient decoded now
  | error fault => exact backed

/-- The operations of a run in which custody never pays itself: it locks none of its own
tokens, and no direct transfer lowers its balance, that is, pays a positive amount from custody
to another holder. -/
def Operation.SparesCustody : Operation → Session → Prop
  | .create caller _ _, s => caller ≠ s.engine.config.custody
  | .transfer _ sender receiver amount, s =>
    s.engine.config.custody = sender → receiver = sender ∨ amount = 0
  | .transferFrom _ _ owner receiver amount, s =>
    s.engine.config.custody = owner → receiver = owner ∨ amount = 0
  | _, _ => True

theorem Backed.perform (backed : Backed s.engine) {op : Operation} (spares : op.SparesCustody s) :
    Backed (op.perform s).engine := by
  cases op with
  | create caller req now => exact backed.create spares req now
  | unlock caller id recipient mode data now => exact backed.unlock caller id recipient mode data now
  | unlockWith caller id recipient mode now => exact backed.unlockWith caller id recipient mode now
  | sign signer id proof => exact backed.sign signer id proof
  | checkUnlock id now =>
    show Backed (sessionAfter ((checkUnlock id now).run s)).engine
    rw [keepsEngine_checkUnlock id now s]
    exact backed
  | setFeeWallet wallet => exact backed.resetsSettings (resetsSettings_setFeeWallet wallet)
  | setFeeToken token => exact backed.resetsSettings (resetsSettings_setFeeToken token)
  | setFeeAmount amount => exact backed.resetsSettings (resetsSettings_setFeeAmount amount)
  | setFeePercent percent => exact backed.resetsSettings (resetsSettings_setFeePercent percent)
  | toggleFeeType token => exact backed.resetsSettings (resetsSettings_toggleFeeType token)
  | toggleBurnSink sink => exact backed.resetsSettings (resetsSettings_toggleBurnSink sink)
  | reopen config => exact backed.reopen config
  | registerToken token symbol decimals =>
    exact (replacesLedger_registerToken token symbol decimals).backed backed
      fun _ registered _ => by cases registered; exact Nat.le_refl _
  | mint token receiver amount =>
    exact (replacesLedger_mint token receiver amount).backed backed
      fun _ minted t => Ledger.balanceOf_le_of_mint minted t _
  | approve token owner spender amount =>
    exact (replacesLedger_approve token owner spender amount).backed backed
      fun _ approved t => Nat.le_of_eq (Ledger.balanceOf_of_approve approved t _).symm
  | transfer token sender receiver amount =>
    exact (replacesLedger_transfer token sender receiver amount).backed backed
      fun _ moved t => Ledger.balanceOf_le_of_transfer_unless moved t spares
  | transferFrom token spender owner receiver amount =>
    exact (replacesLedger_transferFrom token spender owner receiver amount).backed backed
      fun _ moved t => Ledger.balanceOf_le_of_transferFrom_unless moved t spares
  | setPrice token price =>
    exact (replacesLedger_setPrice token price).backed backed
      fun _ priced _ => by cases priced; exact Nat.le_refl _

theorem backed_of_reachable (reached : Reachable Operation.SparesCustody s) : Backed s.engine := by
  induction reached with
  | start config started => exact backed_start started
  | step _ spares backed => exact backed.perform spares

/-- Custody solvency: along any run in which custody locks none of its own tokens and no direct
transfer pays from it to another holder, custody holds of every token at least what the active
locks hold and the consumed locks retain. -/
theorem custody_covers_locks (reached : Reachable Operation.SparesCustody s) (token : Address) :
    owed s.engine.store.locks token ≤ s.engine.store.ledger.balanceOf token s.engine.config.custody :=
  (backed_of_reachable reached).covered token

section Runs

def freshSession : Session := { engine := { config := {}, store := { config? := some {} } } }

def ownerLockRun : Session :=
  (Operation.create lockOwner minuteRequest 0).perform <|
  (Operation.approve lockToken lockOwner defaultCustody 1000).perform <|
  (Operation.mint lockToken lockOwner 1000).perform <|
  (Operation.registerToken lockToken "TKN" 18).perform freshSession

theorem custody_covers_locks_ownerLockRun :
    Reachable Operation.SparesCustody ownerLockRun ∧
      owed ownerLockRun.engine.store.locks lockToken ≤
        ownerLockRun.engine.store.ledger.balanceOf lockToken ownerLockRun.engine.config.custody := by
  have reached : Reachable Operation.SparesCustody ownerLockRun :=
    .step (.step (.step (.step (.start {} rfl) trivial) trivial) trivial) (by
      show lockOwner ≠ _
      decide)
  exact ⟨reached, custody_covers_locks reached lockToken⟩

def selfLockRun : Session :=
  (Operation.create defaultCustody minuteRequest 0).perform <|
  (Operation.create defaultCustody minuteRequest 0).perform <|
  (Operation.approve lockToken defaultCustody defaultCustody 200).perform <|
  (Operation.mint lockToken defaultCustody 100).perform <|
  (Operation.registerToken lockToken "TKN" 18).perform freshSession

/-- Let custody lock its own tokens and solvency fails: an intake from custody to itself moves
nothing, so two locks of 100 stand against a balance of 100. -/
theorem custody_self_lock_undercovers :
    Reachable (fun _ _ => True) selfLockRun ∧
      selfLockRun.engine.store.ledger.balanceOf lockToken selfLockRun.engine.config.custody = 100 ∧
      owed selfLockRun.engine.store.locks lockToken = 200 := by
  refine ⟨.step (.step (.step (.step (.step (.start {} rfl) trivial) trivial) trivial) trivial) trivial,
    ?_, ?_⟩ <;> decide +kernel

end Runs

end Escrow
