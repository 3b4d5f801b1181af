import Mathlib.Data.List.Basic
import Escrow.Proofs.Engine.Operation
import Escrow.Proofs.Engine.Resolution
import Escrow.Proofs.Criterion.Atomicity
import Escrow.Proofs.Engine.Solvency

/-! The store's locks and criterion rows agree along every run.

`Store.Consistent` ties the lock table, the criterion table and the two counters together:
locks sit under the ids the lock counter gave out, every policy passes the grammar check with its
refs on its placeholders in order, and the refs of all locks and the stored rows match one to
one. A create writes a lock with fresh consecutive ids and one row for each; an unlock only marks
a lock; a signature rewrites one row under its own id; everything else leaves both tables alone.
So `consistent_of_reachable` holds, and with it an existing lock's policy always evaluates: the
only faults left to `checkUnlock` are the ledger's and the oracle's.
-/

set_option autoImplicit false

namespace Escrow

open Escrow.Policy

namespace Table

variable {κ ν : Type} [DecidableEq κ]

theorem get?_foldl_insert_of_forall_ne (key : ν → κ) {k : κ} :
    ∀ (items : List ν) (t : Table κ ν), (∀ item ∈ items, key item ≠ k) →
    (items.foldl (fun t item => t.insert (key item) item) t).get? k = t.get? k
  | [], _, _ => rfl
  | item :: rest, t, absent => by
    rw [List.foldl_cons, get?_foldl_insert_of_forall_ne key rest _
      fun other member => absent other (List.mem_cons_of_mem item member)]
    exact get?_insert_ne t item (absent item List.mem_cons_self)

theorem get?_foldl_insert_of_mem (key : ν → κ) {item : ν} :
    ∀ (items : List ν) (t : Table κ ν), (items.map key).Nodup → item ∈ items →
    (items.foldl (fun t item => t.insert (key item) item) t).get? (key item) = some item
  | [], _, _, member => by cases member
  | first :: rest, t, distinct, member => by
    rw [List.map_cons, List.nodup_cons] at distinct
    rw [List.foldl_cons]
    rcases List.mem_cons.mp member with rfl | member
    · rw [get?_foldl_insert_of_forall_ne key rest _ fun other member same =>
        distinct.1 (by rw [← same]; exact List.mem_map_of_mem member)]
      exact get?_insert_self t _ _
    · exact get?_foldl_insert_of_mem key rest _ distinct.2 member

end Table

namespace Store

def refs (st : Store) : List CriterionRef :=
  (List.range st.nextLockId).flatMap fun id => ((st.locks.get? id).map Lock.criteria).getD []

def Resolves (st : Store) (r : CriterionRef) : Prop :=
  ∃ record, st.criteria.get? r.id = some record ∧ record.kind = r.kind ∧ record.id = r.id

/-- The locks and criteria of a store agree: locks sit under the ids the lock counter has given
out, each policy passes the grammar check with its refs binding its placeholders in order, and
the refs of all locks and the stored criterion rows match one to one, under ids the criterion
counter has given out. -/
structure Consistent (st : Store) : Prop where
  lockIds : ∀ id, (st.locks.get? id).isSome ↔ id < st.nextLockId
  keyed : ∀ id l, st.locks.get? id = some l → l.id = id
  grammar : ∀ id l, st.locks.get? id = some l →
    checkGrammar l.expression = .ok (l.criteria.map CriterionRef.position)
  resolves : ∀ r ∈ st.refs, st.Resolves r
  below : ∀ r ∈ st.refs, r.id < st.nextCriterionId
  distinct : (st.refs.map CriterionRef.id).Nodup
  referenced : ∀ k record, st.criteria.get? k = some record →
    ∃ r ∈ st.refs, r.id = k ∧ r.kind = record.kind

theorem refs_congr {st st' : Store} (sameCount : st'.nextLockId = st.nextLockId)
    (sameCriteria : ∀ id, (st'.locks.get? id).map Lock.criteria = (st.locks.get? id).map Lock.criteria) :
    st'.refs = st.refs := by
  simp only [refs, sameCount, sameCriteria]

namespace Consistent

variable {st st' : Store}

theorem of_same (consistent : Consistent st) (sameCount : st'.nextLockId = st.nextLockId)
    (sameLocks : ∀ id, (st'.locks.get? id).isSome = (st.locks.get? id).isSome)
    (sameLock : ∀ id l', st'.locks.get? id = some l' → ∃ l, st.locks.get? id = some l ∧
      l'.id = l.id ∧ l'.expression = l.expression ∧ l'.criteria = l.criteria)
    (sameCriteria : st'.criteria = st.criteria) (sameNext : st'.nextCriterionId = st.nextCriterionId) :
    Consistent st' := by
  have sameRefs : st'.refs = st.refs := by
    refine refs_congr sameCount fun id => ?_
    cases found : st'.locks.get? id with
    | none =>
      have := sameLocks id
      rw [found] at this
      cases other : st.locks.get? id with
      | none => rfl
      | some l => rw [other] at this; cases this
    | some l' =>
      obtain ⟨l, old, -, -, criteria⟩ := sameLock id l' found
      simp [old, criteria]
  refine ⟨fun id => ?_, fun id l' found => ?_, fun id l' found => ?_, ?_, ?_, ?_, ?_⟩
  · rw [sameLocks, sameCount]
    exact consistent.lockIds id
  · obtain ⟨l, old, sameId, -, -⟩ := sameLock id l' found
    rw [sameId]
    exact consistent.keyed id l old
  · obtain ⟨l, old, -, expression, criteria⟩ := sameLock id l' found
    rw [expression, criteria]
    exact consistent.grammar id l old
  · intro r member
    rw [sameRefs] at member
    obtain ⟨record, found, kind, id⟩ := consistent.resolves r member
    exact ⟨record, by rw [sameCriteria]; exact found, kind, id⟩
  · intro r member
    rw [sameRefs] at member
    rw [sameNext]
    exact consistent.below r member
  · rw [sameRefs]
    exact consistent.distinct
  · intro k record found
    rw [sameCriteria] at found
    rw [sameRefs]
    exact consistent.referenced k record found

theorem relock (consistent : Consistent st) {id : Nat} {l : Lock} (found : st.locks.get? id = some l)
    (l' : Lock) (locks : ∀ k, st'.locks.get? k = (st.locks.insert id l').get? k) (sameId : l'.id = id)
    (sameExpression : l'.expression = l.expression) (sameCriteria : l'.criteria = l.criteria)
    (criteria : st'.criteria = st.criteria) (lockCount : st'.nextLockId = st.nextLockId)
    (rowCount : st'.nextCriterionId = st.nextCriterionId) : Consistent st' := by
  refine consistent.of_same lockCount (fun other => ?_) (fun other l'' found' => ?_) criteria rowCount
  · by_cases here : id = other
    · subst here
      simp [locks, found]
    · rw [locks, Table.get?_insert_ne _ _ here]
  · rw [locks] at found'
    by_cases here : id = other
    · subst here
      rw [Table.get?_insert_self] at found'
      cases found'
      exact ⟨l, found, sameId.trans (consistent.keyed id l found).symm, sameExpression, sameCriteria⟩
    · rw [Table.get?_insert_ne _ _ here] at found'
      exact ⟨l'', found', rfl, rfl, rfl⟩

theorem setState (consistent : Consistent st) {id : Nat} {l : Lock} (found : st.locks.get? id = some l)
    (state : LockState) (ledger : Ledger) : Consistent { st.putLock { l with state } with ledger } := by
  have keyed := consistent.keyed id l found
  exact consistent.relock found { l with state } (fun k => by simp [keyed]) keyed rfl rfl rfl rfl rfl

theorem restore (consistent : Consistent st) {id : Nat} {l : Lock} (found : st.locks.get? id = some l)
    (state : LockState) : Consistent ((st.putLock { l with state }).putLock l) := by
  have keyed := consistent.keyed id l found
  refine consistent.relock found l (fun k => ?_) keyed rfl rfl rfl rfl rfl
  simp only [locks_putLock, keyed]
  by_cases here : id = k
  · subst here
    simp
  · simp [Table.get?_insert_ne _ _ here]

theorem rewriteRow (consistent : Consistent st) {k : Nat} {record record' : CriterionRecord}
    (found : st.criteria.get? k = some record) (sameId : record'.id = k)
    (sameKind : record'.kind = record.kind) : Consistent (st.putCriterion record') := by
  have sameRefs : (st.putCriterion record').refs = st.refs := rfl
  have lookup : ∀ other, (st.putCriterion record').criteria.get? other =
      if k = other then some record' else st.criteria.get? other := by
    intro other
    by_cases here : k = other
    · subst here
      simp [putCriterion, sameId]
    · simp [putCriterion, sameId, Table.get?_insert_ne _ _ here, here]
  refine ⟨consistent.lockIds, consistent.keyed, consistent.grammar, fun r member => ?_,
    consistent.below, consistent.distinct, fun other row rowFound => ?_⟩
  · obtain ⟨old, oldFound, oldKind, oldId⟩ := consistent.resolves r member
    by_cases here : k = r.id
    · rw [here, oldFound] at found
      cases found
      exact ⟨record', by rw [lookup, if_pos here], sameKind.trans oldKind, sameId.trans here⟩
    · exact ⟨old, by rw [lookup, if_neg here]; exact oldFound, oldKind, oldId⟩
  · rw [lookup] at rowFound
    by_cases here : k = other
    · rw [if_pos here] at rowFound
      cases rowFound
      rw [sameKind, ← here]
      exact consistent.referenced k record found
    · rw [if_neg here] at rowFound
      exact consistent.referenced other row rowFound

theorem create (consistent : Consistent st) (ledger : Ledger) {lock : Lock}
    {records : List CriterionRecord} (lockId : lock.id = st.nextLockId)
    (checked : checkGrammar lock.expression = .ok (lock.criteria.map CriterionRef.position))
    (ids : lock.criteria.map CriterionRef.id = List.range' st.nextCriterionId lock.criteria.length)
    (rows : records.map (fun record => (record.id, record.kind)) =
      lock.criteria.map fun r => (r.id, r.kind)) :
    Consistent { (records.foldl putCriterion { st with ledger }).putLock lock with
      nextCriterionId := st.nextCriterionId + lock.criteria.length, nextLockId := st.nextLockId + 1 } := by
  generalize created : ({ (records.foldl putCriterion { st with ledger }).putLock lock with
      nextCriterionId := st.nextCriterionId + lock.criteria.length,
      nextLockId := st.nextLockId + 1 } : Store) = st'
  have locks : st'.locks = st.locks.insert st.nextLockId lock := by simp [← created, lockId]
  have criteria : st'.criteria = records.foldl (fun t record => t.insert record.id record) st.criteria := by
    simp [← created, putLock]
  have lockCount : st'.nextLockId = st.nextLockId + 1 := by simp [← created]
  have rowCount : st'.nextCriterionId = st.nextCriterionId + lock.criteria.length := by
    simp [← created]
  -- the new refs come after the old ones, with ids past every old one
  have sameBefore : ∀ id ∈ List.range st.nextLockId,
      ((st'.locks.get? id).map Lock.criteria).getD [] = ((st.locks.get? id).map Lock.criteria).getD [] := by
    intro id member
    rw [locks, Table.get?_insert_ne _ _ (by rw [List.mem_range] at member; omega)]
  have newRefs : st'.refs = st.refs ++ lock.criteria := by
    rw [refs, lockCount, List.range_succ, List.flatMap_append, List.flatMap_congr sameBefore]
    simp [locks, refs]
  have fresh : ∀ r ∈ lock.criteria, st.nextCriterionId ≤ r.id ∧ r.id < st'.nextCriterionId := by
    intro r member
    have := List.mem_map_of_mem (f := CriterionRef.id) member
    rw [ids, List.mem_range'_1] at this
    omega
  have recordIds : records.map CriterionRecord.id = lock.criteria.map CriterionRef.id := by
    have := congrArg (List.map Prod.fst) rows
    simpa [List.map_map, Function.comp_def] using this
  have distinctRows : (records.map CriterionRecord.id).Nodup := by
    rw [recordIds, ids]
    exact List.nodup_range'
  -- an old row keeps its lookup; a new one is found under its id
  have oldRow : ∀ k, k < st.nextCriterionId → st'.criteria.get? k = st.criteria.get? k := by
    intro k below
    rw [criteria]
    refine Table.get?_foldl_insert_of_forall_ne CriterionRecord.id records _ fun record member same => ?_
    have := List.mem_map_of_mem (f := CriterionRecord.id) member
    rw [recordIds, same] at this
    obtain ⟨r, member, rfl⟩ := List.mem_map.mp this
    have := (fresh r member).1
    omega
  have newRow : ∀ record ∈ records, st'.criteria.get? record.id = some record := by
    intro record member
    rw [criteria]
    exact Table.get?_foldl_insert_of_mem CriterionRecord.id records _ distinctRows member
  have lookupLock : ∀ id, st'.locks.get? id = if st.nextLockId = id then some lock else st.locks.get? id := by
    intro id
    rw [locks, Table.get?_insert]
  refine ⟨fun id => ?_, fun id l found => ?_, fun id l found => ?_, fun r member => ?_,
    fun r member => ?_, ?_, fun k record found => ?_⟩
  · rw [lookupLock, lockCount]
    by_cases here : st.nextLockId = id
    · simp [here]
    · rw [if_neg here, consistent.lockIds id]
      omega
  · rw [lookupLock] at found
    by_cases here : st.nextLockId = id
    · rw [if_pos here] at found
      cases found
      exact lockId.trans here
    · rw [if_neg here] at found
      exact consistent.keyed id l found
  · rw [lookupLock] at found
    by_cases here : st.nextLockId = id
    · rw [if_pos here] at found
      cases found
      exact checked
    · rw [if_neg here] at found
      exact consistent.grammar id l found
  · rw [newRefs, List.mem_append] at member
    rcases member with old | new
    · obtain ⟨record, found, kind, id⟩ := consistent.resolves r old
      exact ⟨record, by rw [oldRow r.id (consistent.below r old)]; exact found, kind, id⟩
    · have := List.mem_map_of_mem (f := fun r : CriterionRef => (r.id, r.kind)) new
      rw [← rows] at this
      obtain ⟨record, member, same⟩ := List.mem_map.mp this
      simp only [Prod.mk.injEq] at same
      exact ⟨record, by rw [← same.1]; exact newRow record member, same.2, same.1⟩
  · rw [newRefs, List.mem_append] at member
    rcases member with old | new
    · have := consistent.below r old
      omega
    · exact (fresh r new).2
  · rw [newRefs, List.map_append, ids, List.nodup_append]
    refine ⟨consistent.distinct, List.nodup_range', fun a old b new same => ?_⟩
    obtain ⟨r, member, rfl⟩ := List.mem_map.mp old
    have := consistent.below r member
    rw [List.mem_range'_1] at new
    omega
  · rw [newRefs]
    by_cases written : ∃ row ∈ records, row.id = k
    · obtain ⟨row, member, rfl⟩ := written
      rw [newRow row member] at found
      cases found
      have := List.mem_map_of_mem (f := fun record : CriterionRecord => (record.id, record.kind)) member
      rw [rows] at this
      obtain ⟨r, new, same⟩ := List.mem_map.mp this
      simp only [Prod.mk.injEq] at same
      exact ⟨r, List.mem_append_right _ new, same.1, same.2⟩
    · have untouched : st'.criteria.get? k = st.criteria.get? k := by
        rw [criteria]
        exact Table.get?_foldl_insert_of_forall_ne CriterionRecord.id records _
          fun row member same => written ⟨row, member, same⟩
      rw [untouched] at found
      obtain ⟨r, old, id, kind⟩ := consistent.referenced k record found
      exact ⟨r, List.mem_append_left _ old, id, kind⟩

theorem row_id (consistent : Consistent st) {k : Nat} {record : CriterionRecord}
    (found : st.criteria.get? k = some record) : record.id = k := by
  obtain ⟨r, member, rfl, -⟩ := consistent.referenced k record found
  obtain ⟨same, sameFound, -, sameId⟩ := consistent.resolves r member
  rw [found] at sameFound
  cases sameFound
  exact sameId

-- steps that touch neither the locks, the criteria nor the counters
theorem withLedger (consistent : Consistent st) (ledger : Ledger) : Consistent { st with ledger } :=
  consistent.of_same rfl (fun _ => rfl) (fun _ l found => ⟨l, found, rfl, rfl, rfl⟩) rfl rfl

theorem withConfig (consistent : Consistent st) (config? : Option Config) :
    Consistent { st with config? } :=
  consistent.of_same rfl (fun _ => rfl) (fun _ l found => ⟨l, found, rfl, rfl, rfl⟩) rfl rfl

end Consistent

theorem consistent_empty (config? : Option Config) : Consistent { config? } := by
  refine ⟨fun id => ?_, fun id l found => ?_, fun id l found => ?_, fun r member => ?_,
    fun r member => ?_, ?_, fun k record found => ?_⟩ <;> simp_all [refs]

end Store

theorem checkGrammar_of_compile {symbols : List String} {criterionCount : Nat} {declared : List Nat}
    {descriptorCount : Nat} {limits : Limits} {compiled : Compiled}
    (compiling : (compile symbols criterionCount declared descriptorCount limits).mapError
      LockError.malformedExpression = .ok compiled) :
    checkGrammar compiled.tokens = .ok compiled.positions := by
  have accepted : compile symbols criterionCount declared descriptorCount limits = .ok compiled := by
    cases compiled' : compile symbols criterionCount declared descriptorCount limits <;>
      simp_all [Except.mapError]
  obtain ⟨-, -, tokens, positions, -, checked, -, -, -, rfl⟩ :=
    (compile_eq_ok_iff_stages _ _ _ _ _ _).mp accepted
  exact checked

namespace Action

variable {s : Session}

theorem consistent_create (consistent : s.engine.store.Consistent) (caller : Address)
    (req : LockRequest) (now : Int) :
    (sessionAfter ((create caller req now).run s)).engine.store.Consistent := by
  rcases run_create_cases (show (create caller req now).run s = _ from rfl) with
    ⟨fault, refused⟩ | ⟨_, _, _, _, -, -, -, refused, restored⟩ |
      ⟨compiled, refs, records, next, charge, intake, charged, after, -, compiling, binding, -, -, -,
        accepted, written⟩
  · rw [refused]
    exact consistent
  · rw [refused, sessionAfter_error, restored]
    exact consistent.withLedger _
  · rw [accepted, sessionAfter_ok, written]
    obtain ⟨counted, positions, ids, rfl, added, rfl, rows⟩ := staged_of_bindCriteria binding
    have zipped : (compiled.positions.zip req.criteria).length = refs.length := by
      rw [← List.length_map (f := CriterionRef.position), positions, List.length_map]
    have bound : refs.map CriterionRef.position = compiled.positions := by
      rw [positions, List.map_fst_zip (by omega)]
    rw [zipped]
    refine consistent.create charged rfl ?_ (by simpa [zipped] using ids) rows
    simpa [bound] using checkGrammar_of_compile compiling

theorem consistent_unlockWith (consistent : s.engine.store.Consistent) (caller : Address) (id : Nat)
    (recipient : Address) (mode : UnlockMode) (now : Int) :
    (sessionAfter ((unlockWith caller id recipient mode now).run s)).engine.store.Consistent := by
  rcases run_unlockWith_cases (show (unlockWith caller id recipient mode now).run s = _ from rfl) with
    ⟨fault, after, refused, same, -⟩ |
      ⟨l, paid, inner, after, found, -, -, -, -, -, -, refused, restored⟩ |
      ⟨l, paid, paidOut, checked, after, -, found, -, -, -, -, -, -, accepted, written⟩
  · rw [refused, sessionAfter_error, same]
    exact consistent
  · -- the lock is marked consumed and then written back as it was
    rw [refused, sessionAfter_error, restored]
    exact consistent.restore found _
  · rw [accepted, sessionAfter_ok, written]
    exact consistent.setState found _ _

theorem consistent_unlock (consistent : s.engine.store.Consistent) (caller : Address) (id : Nat)
    (recipient : Address) (mode : Nat) (data : List UInt8) (now : Int) :
    (sessionAfter ((unlock caller id recipient mode data now).run s)).engine.store.Consistent := by
  rw [run_unlock]
  cases UnlockMode.decode mode data with
  | ok decoded => exact consistent_unlockWith consistent caller id recipient decoded now
  | error fault => exact consistent

theorem consistent_sign (consistent : s.engine.store.Consistent) (signer : Address) (id : Nat)
    (proof : List Digest) :
    (sessionAfter ((sign signer id proof).run s)).engine.store.Consistent := by
  rcases run_sign_cases (show (sign signer id proof).run s = _ from rfl) with
    ⟨-, refused⟩ | ⟨c, fault, c', after, -, -, refused, same⟩ |
      ⟨c, status, c', after, found, signing, accepted, written⟩
  · rw [refused]
    exact consistent
  · rw [refused, sessionAfter_error, same]
    exact consistent
  · -- the signed record replaces the one it was made from, under the same id
    rw [accepted, sessionAfter_ok, written]
    have stored : s.engine.store.criteria.get? id = some (.multisig c) := by
      unfold Store.multisigRecord? at found
      split at found <;> simp_all
    obtain ⟨-, -, -, -, rfl, -⟩ := applySignature_eq_ok signing
    have rowId := consistent.row_id stored
    exact consistent.rewriteRow stored rowId rfl

theorem consistent_reopen (consistent : s.engine.store.Consistent) (config : Option Config) :
    (sessionAfter ((reopen config).run s)).engine.store.Consistent := by
  rcases engine_reopen config s with same | ⟨c, -, started⟩
  · rw [same]
    exact consistent
  · obtain ⟨reopened, -⟩ := Engine.start_eq_ok started
    rw [reopened]
    exact consistent.withConfig _

theorem ResetsSettings.consistent {α : Type} {action : Action α} (resets : ResetsSettings action)
    (consistent : s.engine.store.Consistent) : (sessionAfter (action.run s)).engine.store.Consistent := by
  rcases resets s with same | ⟨next, -, changed⟩
  · rw [same]
    exact consistent
  · rw [changed]
    exact consistent.withConfig _

theorem ReplacesLedger.consistent {α : Type} {action : Action α}
    {change : Ledger → Except LockError Ledger} (replaces : ReplacesLedger action change)
    (consistent : s.engine.store.Consistent) : (sessionAfter (action.run s)).engine.store.Consistent := by
  rw [replaces s]
  cases change s.engine.store.ledger with
  | ok l => exact consistent.withLedger l
  | error fault => exact consistent

end Action

open Escrow.Action

theorem consistent_perform {s : Session} (consistent : s.engine.store.Consistent) (op : Operation) :
    (op.perform s).engine.store.Consistent := by
  cases op with
  | create caller req now => exact consistent_create consistent caller req now
  | unlock caller id recipient mode data now =>
    exact consistent_unlock consistent caller id recipient mode data now
  | unlockWith caller id recipient mode now =>
    exact consistent_unlockWith consistent caller id recipient mode now
  | sign signer id proof => exact consistent_sign consistent signer id proof
  | checkUnlock id now =>
    show (sessionAfter ((checkUnlock id now).run s)).engine.store.Consistent
    rw [keepsEngine_checkUnlock id now s]
    exact consistent
  | setFeeWallet wallet => exact (resetsSettings_setFeeWallet wallet).consistent consistent
  | setFeeToken token => exact (resetsSettings_setFeeToken token).consistent consistent
  | setFeeAmount amount => exact (resetsSettings_setFeeAmount amount).consistent consistent
  | setFeePercent percent => exact (resetsSettings_setFeePercent percent).consistent consistent
  | toggleFeeType token => exact (resetsSettings_toggleFeeType token).consistent consistent
  | toggleBurnSink sink => exact (resetsSettings_toggleBurnSink sink).consistent consistent
  | reopen config => exact consistent_reopen consistent config
  | registerToken token symbol decimals =>
    exact (replacesLedger_registerToken token symbol decimals).consistent consistent
  | mint token receiver amount => exact (replacesLedger_mint token receiver amount).consistent consistent
  | approve token owner spender amount =>
    exact (replacesLedger_approve token owner spender amount).consistent consistent
  | transfer token sender receiver amount =>
    exact (replacesLedger_transfer token sender receiver amount).consistent consistent
  | transferFrom token spender owner receiver amount =>
    exact (replacesLedger_transferFrom token spender owner receiver amount).consistent consistent
  | setPrice token price => exact (replacesLedger_setPrice token price).consistent consistent

theorem consistent_of_reachable {allowed : Operation → Session → Prop} {s : Session}
    (reached : Reachable allowed s) : s.engine.store.Consistent := by
  induction reached with
  | start config started =>
    obtain ⟨rfl, -⟩ := Engine.start_eq_ok started
    exact Store.consistent_empty _
  | step _ _ consistent => exact consistent_perform consistent _

/-! ### What consistency gives an evaluation -/

theorem Store.Consistent.mem_refs {st : Store} (consistent : st.Consistent) {id : Nat} {l : Lock}
    (found : st.locks.get? id = some l) {r : CriterionRef} (member : r ∈ l.criteria) : r ∈ st.refs := by
  have below : id < st.nextLockId := (consistent.lockIds id).mp (by simp [found])
  exact List.mem_flatMap.mpr ⟨id, List.mem_range.mpr below, by simpa [found] using member⟩

/-- A ref that finds its row reads at most the ledger and the oracle, so it can only fail with
their faults. -/
theorem Engine.isSatisfied_eq_error {e : Engine} {r : CriterionRef} {now : Int} {fault : LockError}
    (resolves : e.store.Resolves r) (failed : e.isSatisfied r now = .error fault) :
    fault.FromLedger := by
  obtain ⟨record, found, sameKind, -⟩ := resolves
  unfold Engine.isSatisfied at failed
  rw [← sameKind] at failed
  -- the row has the ref's kind, so its lookup succeeds and only the ledger read is left
  cases record with
  | time c => simp [CriterionRecord.kind, Store.timeRecord?, found] at failed
  | burn c =>
    simp only [CriterionRecord.kind, Store.burnRecord?, found] at failed
    rcases bind_eq_error.mp failed with read | ⟨_, -, compared⟩
    · exact Ledger.burnRatio_eq_error read
    · cases compared
  | price c =>
    simp only [CriterionRecord.kind, Store.priceRecord?, found] at failed
    rcases bind_eq_error.mp failed with read | ⟨_, -, compared⟩
    · exact Ledger.fetchPrice_eq_error read
    · cases compared
  | marketCap c =>
    simp only [CriterionRecord.kind, Store.marketCapRecord?, found] at failed
    rcases bind_eq_error.mp failed with read | ⟨_, -, compared⟩
    · exact Ledger.currentMarketCap_eq_error read
    · cases compared
  | multisig c => simp [CriterionRecord.kind, Store.multisigRecord?, found] at failed

/-- On a consistent store, asking whether an existing lock unlocks fails only with a fault of the
ledger or the oracle: every ref finds its row and the policy is well formed. -/
theorem Action.checkUnlock_eq_error {s : Session} (consistent : s.engine.store.Consistent)
    {id : Nat} {l : Lock} (found : s.engine.store.locks.get? id = some l) {now : Int}
    {fault : LockError} {after : Session} (failed : (checkUnlock id now).run s = .error fault after) :
    fault.FromLedger := by
  obtain ⟨log, ran⟩ := Action.run_checkUnlock id now s
  obtain ⟨chain, -, evaluates⟩ := Lock.evaluate_eq (consistent.grammar id l found)
  rw [ran, found] at failed
  simp only [evaluates] at failed
  -- the policy's value is computed once every ref is resolved, so only a resolution can fail
  cases resolving : l.criteria.mapM (s.engine.isSatisfied · now) with
  | ok values => simp [resolving, Except.map] at failed
  | error refusal =>
    simp only [resolving, Except.map, Action.answered_error, EStateM.Result.error.injEq] at failed
    obtain ⟨rfl, -⟩ := failed
    obtain ⟨r, member, refused⟩ := exists_of_mapM_eq_error resolving
    exact Engine.isSatisfied_eq_error (consistent.resolves r (consistent.mem_refs found member)) refused

/-- The store of every reachable session is consistent, spelled out: the locks are those under
the ids below the lock counter, each under its own id; each policy passes the grammar check and
its refs bind its placeholders in increasing order; every ref finds a row of its kind under its
id, below the criterion counter; the refs' ids are distinct, and each stored row is named by
exactly one ref, of the row's kind. So asking whether an existing lock unlocks never fails with
a broken policy or a missing criterion. -/
theorem store_consistent_of_reachable {allowed : Operation → Session → Prop} {s : Session}
    (reached : Reachable allowed s) :
    (∀ id, (s.engine.store.locks.get? id).isSome ↔ id < s.engine.store.nextLockId) ∧
    (∀ id l, s.engine.store.locks.get? id = some l → l.id = id ∧
      checkGrammar l.expression = .ok (placeholderIndices l.expression 0) ∧
      l.criteria.map CriterionRef.position = placeholderIndices l.expression 0 ∧
      (l.criteria.map CriterionRef.position).Pairwise (· < ·)) ∧
    (∀ r ∈ s.engine.store.refs, s.engine.store.Resolves r ∧ r.id < s.engine.store.nextCriterionId) ∧
    (s.engine.store.refs.map CriterionRef.id).Nodup ∧
    (∀ k record, s.engine.store.criteria.get? k = some record →
      (s.engine.store.refs.map CriterionRef.id).count k = 1 ∧
      ∀ r ∈ s.engine.store.refs, r.id = k → r.kind = record.kind) ∧
    (∀ id l now fault after, s.engine.store.locks.get? id = some l →
      (Action.checkUnlock id now).run s = .error fault after →
      (∀ d, fault ≠ .policyInvariant d) ∧ ∀ kind k, fault ≠ .criterionNotFound kind k) := by
  have consistent := consistent_of_reachable reached
  refine ⟨consistent.lockIds, fun id l found => ?_, fun r member => ⟨consistent.resolves r member,
    consistent.below r member⟩, consistent.distinct, fun k record found => ?_,
    fun id l now fault after found failed => ?_⟩
  · have checked := consistent.grammar id l found
    have positions := checkGrammar_positions checked
    rw [positions] at checked
    exact ⟨consistent.keyed id l found, checked, positions,
      positions ▸ pairwise_placeholderIndices l.expression 0⟩
  · obtain ⟨r, member, rfl, -⟩ := consistent.referenced k record found
    refine ⟨List.count_eq_one_of_mem consistent.distinct (List.mem_map_of_mem member),
      fun other otherMember same => ?_⟩
    obtain ⟨row, rowFound, rowKind, -⟩ := consistent.resolves other otherMember
    rw [same, found] at rowFound
    cases rowFound
    exact rowKind.symm
  · -- a ledger fault is neither of the two
    have fromLedger := Action.checkUnlock_eq_error consistent found failed
    refine ⟨fun d same => ?_, fun kind k same => ?_⟩ <;> subst same <;> exact fromLedger

theorem store_consistent_ownerLockRun :
    Reachable (fun _ _ => True) ownerLockRun ∧ (ownerLockRun.engine.store.locks.get? 0).isSome ∧
      (ownerLockRun.engine.store.refs.map CriterionRef.id).Nodup := by
  have reached : Reachable (fun _ _ => True) ownerLockRun :=
    .step (.step (.step (.step (.start {} rfl) trivial) trivial) trivial) trivial
  have invariant := store_consistent_of_reachable reached
  exact ⟨reached, (invariant.1 0).mpr (by decide +kernel), invariant.2.2.2.1⟩

end Escrow
