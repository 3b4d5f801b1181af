import Escrow.Criterion.Record

/-!
What a failed signature leaves behind. The checks of `applySignature` come in a fixed order: the
proof's depth, its path to the whitelist root, and a repeated signer. Each of them fails before
the record is touched. The last failure, a count already at its limit, comes after the signer
has been added, so there the record keeps the new signer while its count stays put.
-/

set_option autoImplicit false

namespace Escrow

theorem run_get_bind {α : Type} (f : MultisigRecord → ExceptT LockError (StateM MultisigRecord) α)
    (c : MultisigRecord) : (get >>= f).run.run c = (f c).run.run c := rfl

theorem applySignature_run (c : MultisigRecord) (signer : Address) (proof : List Digest)
    (maxDepth : Nat) :
    (applySignature signer proof maxDepth).run.run c =
      if proof.length > maxDepth then (.error (.proofTooDeep maxDepth proof.length), c)
      else if !Crypto.verifyProof c.whitelistRoot (Crypto.leafHash signer) proof then
        (.error .notWhitelisted, c)
      else if c.hasSigned signer then (.error .alreadySigned, c)
      else if c.signedCount + 1 ≥ signedCountBound then
        (.error .arithmeticOverflow, { c with signed := c.signed.insert signer })
      else
        let c' := { c with signed := c.signed.insert signer, signedCount := c.signedCount + 1 }
        (.ok c'.status, c') := by
  rw [applySignature, run_get_bind]
  by_cases h1 : proof.length > maxDepth
  · simp only [h1, ↓reduceIte]; rfl
  by_cases h2 : (!Crypto.verifyProof c.whitelistRoot (Crypto.leafHash signer) proof) = true
  · simp only [h1, h2, ↓reduceIte]; rfl
  by_cases h3 : c.hasSigned signer = true
  · simp only [h1, h2, h3, ↓reduceIte]; rfl
  by_cases h4 : c.signedCount + 1 ≥ signedCountBound
  · simp only [h1, h2, h3, h4, ↓reduceIte]; rfl
  · simp only [h1, h2, h3, h4, ↓reduceIte]; rfl

/-- A failed signature leaves the record as it was, unless the count was at its limit: then the
error is the overflow and the new signer has been added with the count unchanged. -/
theorem applySignature_error_state (c c' : MultisigRecord) (signer : Address)
    (proof : List Digest) (maxDepth : Nat) (e : LockError)
    (h : (applySignature signer proof maxDepth).run.run c = (.error e, c')) :
    (e ≠ .arithmeticOverflow ∧ c' = c) ∨
      (e = .arithmeticOverflow ∧ signedCountBound ≤ c.signedCount + 1 ∧
        c.hasSigned signer = false ∧ c' = { c with signed := c.signed.insert signer }) := by
  rw [applySignature_run] at h
  split at h
  · cases h; exact Or.inl ⟨fun h => LockError.noConfusion h, rfl⟩
  split at h
  · cases h; exact Or.inl ⟨fun h => LockError.noConfusion h, rfl⟩
  split at h
  · cases h; exact Or.inl ⟨fun h => LockError.noConfusion h, rfl⟩
  split at h
  · cases h
    exact Or.inr ⟨rfl, by assumption, by simpa using (by assumption : ¬c.hasSigned signer = true), rfl⟩
  · cases h

/-- An accepted signature passed every check, added the signer, raised the count by one and
gives the new status. -/
theorem applySignature_eq_ok {c c' : MultisigRecord} {signer : Address} {proof : List Digest}
    {maxDepth : Nat} {status : MultisigStatus}
    (h : (applySignature signer proof maxDepth).run.run c = (.ok status, c')) :
    proof.length ≤ maxDepth ∧ Crypto.verifyProof c.whitelistRoot (Crypto.leafHash signer) proof = true ∧
      c.hasSigned signer = false ∧ c.signedCount + 1 < signedCountBound ∧
      c' = { c with signed := c.signed.insert signer, signedCount := c.signedCount + 1 } ∧
      status = c'.status := by
  rw [applySignature_run] at h
  split at h
  · cases h
  rename_i shallow
  split at h
  · cases h
  rename_i verified
  split at h
  · cases h
  rename_i fresh
  split at h
  · cases h
  rename_i room
  cases h
  refine ⟨by omega, by simpa using verified, by simpa using fresh, by omega, rfl, rfl⟩

theorem applySignature_error_state_repeated :
    let c : MultisigRecord :=
      { id := 1, threshold := 2, whitelistRoot := Crypto.leafHash Address.zero,
        announcedSigners := [Address.zero], listingType := 0,
        signed := ({} : AddressSet).insert Address.zero, signedCount := 1 }
    (applySignature Address.zero [] 0).run.run c = (.error .alreadySigned, c) ∧
      ((LockError.alreadySigned ≠ .arithmeticOverflow ∧ c = c) ∨
        (LockError.alreadySigned = .arithmeticOverflow ∧ signedCountBound ≤ c.signedCount + 1 ∧
          c.hasSigned Address.zero = false ∧ c = { c with signed := c.signed.insert Address.zero })) := by
  intro c
  have repeated : (applySignature Address.zero [] 0).run.run c = (.error .alreadySigned, c) := by
    rw [applySignature_run]
    simp [c, Crypto.verifyProof, MultisigRecord.hasSigned, AddressSet.contains, AddressSet.insert,
      insertSorted]
  exact ⟨repeated, applySignature_error_state c c Address.zero [] 0 _ repeated⟩

/-- A failed signature can change the record: with the count one below its limit, a whitelisted
new signer is recorded although the step fails with the overflow. -/
theorem applySignature_overflow_keeps_signer :
    ¬ ∀ (c c' : MultisigRecord) (signer : Address) (proof : List Digest) (maxDepth : Nat)
      (e : LockError), (applySignature signer proof maxDepth).run.run c = (.error e, c') → c' = c := by
  intro hall
  let c : MultisigRecord :=
    { id := 0, threshold := 1, whitelistRoot := Crypto.leafHash Address.zero,
      announcedSigners := [], listingType := 0, signed := {},
      signedCount := signedCountBound - 1 }
  have hrun : (applySignature Address.zero [] 0).run.run c =
      (.error .arithmeticOverflow, { c with signed := c.signed.insert Address.zero }) := by
    rw [applySignature_run]
    simp [c, Crypto.verifyProof, MultisigRecord.hasSigned, AddressSet.contains, signedCountBound]
  have hsame := hall c _ Address.zero [] 0 _ hrun
  have hlist := congrArg (fun r : MultisigRecord => r.signed.toList) hsame
  simp [c, AddressSet.insert, insertSorted] at hlist

end Escrow
