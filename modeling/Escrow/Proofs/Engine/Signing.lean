import Escrow.Proofs.Engine.Payout

/-! What signing does to a multisig row.

An accepted signature adds a signer the row did not hold and raises the count by one; a refused
one is never written back. The criterion rows change only by a create writing the rows it staged
and by a signature rewriting the row it signs (`criteria_perform`), so every multisig row of a
reachable store counts its signers exactly: its count is the number of distinct addresses it
holds (`signersCounted_of_reachable`).
-/

set_option autoImplicit false

namespace Escrow

theorem Address.eq_of_val_eq {a b : Address} (same : a.val = b.val) : a = b := by
  cases a
  cases b
  simp_all

theorem perm_insertSorted {a : Address} :
    ∀ {l : List Address}, l.any (·.val == a.val) = false → (insertSorted a l).Perm (a :: l)
  | [], _ => List.Perm.refl _
  | b :: rest, absent => by
    simp only [List.any_cons, Bool.or_eq_false_iff, beq_eq_false_iff_ne] at absent
    unfold insertSorted
    split
    · exact List.Perm.refl _
    · split
      · rename_i same
        exact absurd same.symm absent.1
      · exact ((perm_insertSorted absent.2).cons b).trans (List.Perm.swap a b rest)

namespace AddressSet

variable {s : AddressSet} {a : Address}

theorem contains_iff : s.contains a = true ↔ a ∈ s.toList := by
  simp only [contains, List.any_eq_true, beq_iff_eq]
  constructor
  · rintro ⟨b, member, same⟩
    rwa [← Address.eq_of_val_eq same]
  · intro member
    exact ⟨a, member, rfl⟩

theorem mem_insert (absent : s.contains a = false) {b : Address} :
    b ∈ (s.insert a).toList ↔ b = a ∨ b ∈ s.toList :=
  (perm_insertSorted absent).mem_iff.trans List.mem_cons

theorem size_insert (absent : s.contains a = false) : (s.insert a).size = s.size + 1 := by
  simp [size, insert, (perm_insertSorted absent).length_eq]

theorem nodup_insert (distinct : s.toList.Nodup) (absent : s.contains a = false) :
    (s.insert a).toList.Nodup := by
  have outside : a ∉ s.toList := fun member => by
    rw [← contains_iff] at member
    simp [member] at absent
  exact (perm_insertSorted absent).nodup_iff.mpr (List.nodup_cons.mpr ⟨outside, distinct⟩)

end AddressSet

/-- A multisig row counts its signers: the count is the number of addresses, all distinct. -/
structure MultisigRecord.Counted (c : MultisigRecord) : Prop where
  count : c.signedCount = c.signed.size
  distinct : c.signed.toList.Nodup

theorem MultisigRecord.Counted.sign {c c' : MultisigRecord} (counted : c.Counted) {signer : Address}
    {proof : List Digest} {maxDepth : Nat} {status : MultisigStatus}
    (signing : (applySignature signer proof maxDepth).run.run c = (.ok status, c')) : c'.Counted := by
  obtain ⟨-, -, fresh, -, rfl, -⟩ := applySignature_eq_ok signing
  exact ⟨by simp [AddressSet.size_insert fresh, counted.count],
    AddressSet.nodup_insert counted.distinct fresh⟩

theorem Engine.prepare_counted {e : Engine} {id : Nat} {d : Descriptor} {token : Address} {now : Int}
    {c : MultisigRecord} (prepared : e.prepare id d token now = .ok (.multisig c)) : c.Counted := by
  unfold Engine.prepare at prepared
  simp only [bind, Except.bind] at prepared
  split at prepared
  · cases prepared
  rename_i spec _
  cases spec <;> simp only at prepared <;> (repeat' split at prepared) <;> cases prepared
  -- only the multisig branch is left, with its empty row
  all_goals exact ⟨rfl, List.nodup_nil⟩

theorem Table.get?_foldl_insert_cases {κ ν : Type} [DecidableEq κ] (key : ν → κ) {k : κ} {v : ν} :
    ∀ (items : List ν) (t : Table κ ν),
    (items.foldl (fun t item => t.insert (key item) item) t).get? k = some v →
    v ∈ items ∨ t.get? k = some v
  | [], _, found => .inr found
  | item :: rest, t, found => by
    rw [List.foldl_cons] at found
    rcases get?_foldl_insert_cases key rest _ found with later | written
    · exact .inl (List.mem_cons_of_mem item later)
    · by_cases here : key item = k
      · subst here
        rw [get?_insert_self] at written
        cases written
        exact .inl List.mem_cons_self
      · rw [get?_insert_ne _ _ here] at written
        exact .inr written

theorem Store.criteria_multisig {st : Store} {k : Nat} {c : MultisigRecord}
    (found : st.multisigRecord? k = some c) : st.criteria.get? k = some (.multisig c) := by
  unfold Store.multisigRecord? at found
  split at found <;> simp_all

open Escrow.Action

/-- What an operation does to the criterion rows: nothing, except that a successful create
writes the rows `prepare` made for it, and an accepted signature rewrites the row it signs with
the signed copy. -/
theorem criteria_perform (op : Operation) (s : Session) :
    (op.perform s).engine.store.criteria = s.engine.store.criteria ∨
    (∃ caller req now, ∃ records : List CriterionRecord, op = .create caller req now ∧
      (∀ record ∈ records, ∃ id d, s.engine.prepare id d req.token now = .ok record) ∧
      (op.perform s).engine.store.criteria =
        records.foldl (fun t record => t.insert record.id record) s.engine.store.criteria) ∨
    (∃ signer id proof c status c', op = .sign signer id proof ∧
      s.engine.store.multisigRecord? id = some c ∧
      (applySignature signer proof s.engine.config.maxProofDepth).run.run c = (.ok status, c') ∧
      (op.perform s).engine.store.criteria = s.engine.store.criteria.insert c.id (.multisig c')) := by
  rcases Operation.perform_cases op s with ⟨caller, req, now, rfl⟩ |
    ⟨caller, id, recipient, mode, data, now, rfl⟩ | ⟨caller, id, recipient, mode, now, rfl⟩ |
    ⟨signer, id, proof, rfl⟩ | ⟨_, _, same⟩
  · rcases run_create_cases (show (create caller req now).run s = _ from rfl) with
      ⟨fault, refused⟩ | ⟨_, _, _, _, -, -, -, refused, restored⟩ |
        ⟨compiled, refs, records, next, charge, intake, charged, after, -, -, binding, -, -, -,
          accepted, written⟩
    · exact .inl (by simp [Operation.perform, refused])
    · exact .inl (by simp [Operation.perform, refused, restored])
    · refine .inr (.inl ⟨caller, req, now, records, rfl, prepared_of_bindCriteria binding, ?_⟩)
      simp [Operation.perform, accepted, written, Store.foldl_putCriterion, Store.putLock]
  · refine .inl ?_
    show (sessionAfter ((unlock caller id recipient mode data now).run s)).engine.store.criteria = _
    rw [run_unlock]
    cases UnlockMode.decode mode data with
    | error fault => rfl
    | ok decoded =>
      rcases run_unlockWith_cases (show (unlockWith caller id recipient decoded now).run s = _ from rfl) with
        ⟨_, _, refused, same, -⟩ | ⟨_, _, _, _, -, -, -, -, -, -, -, refused, restored⟩ |
          ⟨_, _, _, _, _, -, -, -, -, -, -, -, -, accepted, written⟩
      · simp [refused, same]
      · simp [refused, restored, Store.putLock]
      · simp [accepted, written, Store.putLock]
  · refine .inl ?_
    rcases run_unlockWith_cases (show (unlockWith caller id recipient mode now).run s = _ from rfl) with
      ⟨_, _, refused, same, -⟩ | ⟨_, _, _, _, -, -, -, -, -, -, -, refused, restored⟩ |
        ⟨_, _, _, _, _, -, -, -, -, -, -, -, -, accepted, written⟩
    · simp [Operation.perform, refused, same]
    · simp [Operation.perform, refused, restored, Store.putLock]
    · simp [Operation.perform, accepted, written, Store.putLock]
  · rcases run_sign_cases (show (sign signer id proof).run s = _ from rfl) with
      ⟨-, refused⟩ | ⟨_, _, _, _, -, -, refused, same⟩ | ⟨c, status, c', after, found, signing, accepted, written⟩
    · exact .inl (by simp [Operation.perform, refused])
    · exact .inl (by simp [Operation.perform, refused, same])
    · -- the signed copy keeps the row's id
      obtain ⟨-, -, -, -, rfl, -⟩ := applySignature_eq_ok signing
      refine .inr (.inr ⟨signer, id, proof, c, status, _, rfl, found, signing, ?_⟩)
      simp [Operation.perform, accepted, written, Store.putCriterion, CriterionRecord.id]
  · exact .inl ((congrArg Store.criteria same).trans rfl)

def Store.SignersCounted (st : Store) : Prop :=
  ∀ k c, st.criteria.get? k = some (.multisig c) → c.Counted

theorem signersCounted_perform {s : Session} (counted : s.engine.store.SignersCounted)
    (op : Operation) : (op.perform s).engine.store.SignersCounted := by
  rcases criteria_perform op s with same | ⟨caller, req, now, records, -, prepared, written⟩ |
    ⟨signer, id, proof, c, status, c', -, found, signing, written⟩
  · intro k c present
    rw [same] at present
    exact counted k c present
  · -- a row the create wrote was prepared, so it starts with no signer
    intro k c present
    rw [written] at present
    rcases Table.get?_foldl_insert_cases CriterionRecord.id records _ present with new | old
    · obtain ⟨_, _, preparing⟩ := prepared _ new
      exact Engine.prepare_counted preparing
    · exact counted k c old
  · intro k c'' present
    rw [written] at present
    by_cases here : c.id = k
    · subst here
      rw [Table.get?_insert_self] at present
      cases present
      exact (counted _ c (Store.criteria_multisig found)).sign signing
    · rw [Table.get?_insert_ne _ _ here] at present
      exact counted k c'' present

theorem signersCounted_of_reachable {allowed : Operation → Session → Prop} {s : Session}
    (reached : Reachable allowed s) : s.engine.store.SignersCounted := by
  induction reached with
  | start config started =>
    obtain ⟨rfl, -⟩ := Engine.start_eq_ok started
    intro k c present
    simp at present
  | step _ _ counted => exact signersCounted_perform counted _

end Escrow
