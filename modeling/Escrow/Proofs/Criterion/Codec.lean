import Escrow.Criterion.Spec
import Escrow.Proofs.Abi.Layout

/-! The criterion descriptor codec.

Every parameter set within the widths of its fields decodes from its own descriptor
(`decode_encode`). The decoder is lenient: it ignores trailing bytes and follows whatever
offset the signer list's head word holds. A payload that decodes is written back byte for byte
exactly when it has the encoder's layout (`Descriptor.Canonical`): one word per static field,
and for a multisig criterion a signer list right after the four head words with nothing after
its last address.
-/

set_option autoImplicit false

namespace Escrow

open Escrow.Abi Escrow.Text

namespace CriterionSpec

/-- Parameters within the widths of their fields: a duration below 2^64; ratios, prices,
market caps and the listing type below 2^128; a threshold below 2^32; and few enough signers
for the payload to stay below the largest machine offset. -/
def Fits : CriterionSpec → Prop
  | .time secs => secs < Nat.pow 2 64
  | .burn _ target => target < Nat.pow 2 128
  | .price target => target < Nat.pow 2 128
  | .marketCap target => target < Nat.pow 2 128
  | .multisig threshold signers _ listing =>
    threshold < Nat.pow 2 32 ∧ listing < Nat.pow 2 128 ∧
      wordBytes * (5 + signers.length) < offsetBound

theorem abi_eq_ok {α : Type} {r : Except AbiFault α} {a : α} : abi r = .ok a ↔ r = .ok a := by
  cases r <;> simp [abi, Except.mapError]

theorem length_encode_multisig (threshold : Nat) (signers : List Address) (root : Digest)
    (listing : Nat) :
    (encode (.multisig threshold signers root listing)).data.length =
      wordBytes * (5 + signers.length) := by
  simp [encode, values, length_encode, AbiValue.tailLength, wordBytes]
  ring

/-- The numbers the payload's words spell, in order: the static fields, and for a multisig
criterion the signer list's offset (128) and length before the addresses. -/
def words : CriterionSpec → List Nat
  | .time secs => [secs]
  | .burn sink target => [sink.val, target]
  | .price target => [target]
  | .marketCap target => [target]
  | .multisig threshold signers root listing =>
    [threshold, 128, root.val, listing, signers.length] ++ signers.map Address.val

theorem encode_data (s : CriterionSpec) : s.encode.data = s.words.flatMap word := by
  cases s <;> simp [encode, values, words, encode_eq, heads, AbiValue.headWord, AbiValue.tail,
    AbiValue.tailLength, wordBytes, List.flatMap_map]

theorem uint_encode_single {v : Nat} (fits : v < Nat.pow 2 128) :
    (Reader.mk (Abi.encode [.uint v])).uint 0 = .ok v := by
  have machine : (Abi.encode [.uint v]).length < offsetBound := by
    simp [length_encode, AbiValue.tailLength, wordBytes, offsetBound]
  exact uint_encode machine fits (show [AbiValue.uint v][0]? = some (.uint v) from rfl)

theorem decode_encode (s : CriterionSpec) (fits : s.Fits) : decode s.encode = .ok s := by
  cases s with
  | time secs =>
    simp only [Fits] at fits
    simp [decode, encode, values, kind, abi, Except.mapError, Reader.expectWords, length_encode,
      wordOffset_of_lt (show wordBytes * 1 < offsetBound by decide),
      uint_encode_single (lt_trans fits (by decide)), bind, Except.bind, pure, Except.pure]
    exact fits
  | burn sink target =>
    simp only [Fits] at fits
    have machine : (Abi.encode [.address sink, .uint target]).length < offsetBound := by
      simp [length_encode, AbiValue.tailLength, wordBytes, offsetBound]
    have sink0 := address_encode machine
      (show [AbiValue.address sink, .uint target][0]? = some (.address sink) from rfl)
    have target1 := uint_encode machine fits
      (show [AbiValue.address sink, .uint target][1]? = some (.uint target) from rfl)
    simp [decode, encode, values, kind, abi, Except.mapError, Reader.expectWords, length_encode,
      wordOffset_of_lt (show wordBytes * 2 < offsetBound by decide), sink0, target1, bind,
      Except.bind, pure, Except.pure]
  | price target =>
    simp only [Fits] at fits
    simp [decode, encode, values, kind, abi, Except.mapError, Reader.expectWords, length_encode,
      wordOffset_of_lt (show wordBytes * 1 < offsetBound by decide), uint_encode_single fits, bind,
      Except.bind, pure, Except.pure]
  | marketCap target =>
    simp only [Fits] at fits
    simp [decode, encode, values, kind, abi, Except.mapError, Reader.expectWords, length_encode,
      wordOffset_of_lt (show wordBytes * 1 < offsetBound by decide), uint_encode_single fits, bind,
      Except.bind, pure, Except.pure]
  | multisig threshold signers root listing =>
    obtain ⟨thresholdFits, listingFits, room⟩ := fits
    have machine : (Abi.encode (values (.multisig threshold signers root listing))).length <
        offsetBound := by
      have := length_encode_multisig threshold signers root listing
      simp only [encode] at this
      omega
    let vs := values (.multisig threshold signers root listing)
    have threshold0 := uint_encode machine (lt_trans thresholdFits (by decide))
      (show vs[0]? = some (.uint threshold) from rfl)
    have signers1 := addressArray_encode (show vs[1]? = some (.addressArray signers) from rfl) machine
    have root2 := bytes32_encode machine (show vs[2]? = some (.bytes32 root) from rfl)
    have listing3 := uint_encode machine listingFits (show vs[3]? = some (.uint listing) from rfl)
    have narrow : ¬ threshold ≥ Nat.pow 2 32 := by omega
    have head : ¬ (Abi.encode vs).length < wordBytes * 4 := by
      have := length_encode_multisig threshold signers root listing
      simp only [encode] at this
      simp only [vs, this, wordBytes]
      omega
    simp [decode, encode, kind, abi, Except.mapError, Reader.expectWords,
      wordOffset_of_lt (show wordBytes * 4 < offsetBound by decide), head, threshold0,
      signers1, root2, listing3, narrow, bind, Except.bind, pure, Except.pure, vs]

theorem decode_time_eq_ok {data : List UInt8} {s : CriterionSpec}
    (decoded : decode ⟨.time, data⟩ = .ok s) :
    ∃ secs, (Reader.mk data).uint 0 = .ok secs ∧ s = .time secs := by
  simp only [decode] at decoded
  obtain ⟨-, -, decoded⟩ := bind_eq_ok.mp decoded
  obtain ⟨secs, read, decoded⟩ := bind_eq_ok.mp decoded
  split at decoded
  · cases decoded
    exact ⟨secs, abi_eq_ok.mp read, rfl⟩
  · cases decoded

theorem decode_burn_eq_ok {data : List UInt8} {s : CriterionSpec}
    (decoded : decode ⟨.burn, data⟩ = .ok s) :
    ∃ sink target, (Reader.mk data).address 0 = .ok sink ∧ (Reader.mk data).uint 1 = .ok target ∧
      s = .burn sink target := by
  simp only [decode] at decoded
  obtain ⟨-, -, decoded⟩ := bind_eq_ok.mp decoded
  obtain ⟨sink, sinkRead, decoded⟩ := bind_eq_ok.mp decoded
  obtain ⟨target, targetRead, decoded⟩ := bind_eq_ok.mp decoded
  cases decoded
  exact ⟨sink, target, abi_eq_ok.mp sinkRead, abi_eq_ok.mp targetRead, rfl⟩

theorem decode_price_eq_ok {data : List UInt8} {s : CriterionSpec}
    (decoded : decode ⟨.price, data⟩ = .ok s) :
    ∃ target, (Reader.mk data).uint 0 = .ok target ∧ s = .price target := by
  simp only [decode] at decoded
  obtain ⟨-, -, decoded⟩ := bind_eq_ok.mp decoded
  obtain ⟨target, read, decoded⟩ := bind_eq_ok.mp decoded
  cases decoded
  exact ⟨target, abi_eq_ok.mp read, rfl⟩

theorem decode_marketCap_eq_ok {data : List UInt8} {s : CriterionSpec}
    (decoded : decode ⟨.marketCap, data⟩ = .ok s) :
    ∃ target, (Reader.mk data).uint 0 = .ok target ∧ s = .marketCap target := by
  simp only [decode] at decoded
  obtain ⟨-, -, decoded⟩ := bind_eq_ok.mp decoded
  obtain ⟨target, read, decoded⟩ := bind_eq_ok.mp decoded
  cases decoded
  exact ⟨target, abi_eq_ok.mp read, rfl⟩

theorem decode_multisig_eq_ok {data : List UInt8} {s : CriterionSpec}
    (decoded : decode ⟨.multisig, data⟩ = .ok s) :
    ∃ threshold signers root listing, (Reader.mk data).uint 0 = .ok threshold ∧
      (Reader.mk data).addressArray 1 = .ok signers ∧ (Reader.mk data).bytes32 2 = .ok root ∧
      (Reader.mk data).uint 3 = .ok listing ∧ s = .multisig threshold signers root listing := by
  simp only [decode] at decoded
  obtain ⟨-, -, decoded⟩ := bind_eq_ok.mp decoded
  obtain ⟨threshold, thresholdRead, decoded⟩ := bind_eq_ok.mp decoded
  split at decoded
  · cases decoded
  obtain ⟨signers, signersRead, decoded⟩ := bind_eq_ok.mp decoded
  obtain ⟨root, rootRead, decoded⟩ := bind_eq_ok.mp decoded
  obtain ⟨listing, listingRead, decoded⟩ := bind_eq_ok.mp decoded
  cases decoded
  exact ⟨threshold, signers, root, listing, abi_eq_ok.mp thresholdRead, abi_eq_ok.mp signersRead,
    abi_eq_ok.mp rootRead, abi_eq_ok.mp listingRead, rfl⟩

end CriterionSpec

/-- The layout the encoder writes: exactly one word per static field for time, price and market
cap criteria (one) and burn criteria (two); for a multisig criterion, a signer list whose
offset word holds 128, right after the four head words, and a payload that ends with the list's
last address word. -/
def Descriptor.Canonical (d : Descriptor) : Prop :=
  match d.kind with
  | .time | .price | .marketCap => d.data.length = wordBytes
  | .burn => d.data.length = 2 * wordBytes
  | .multisig => (Reader.mk d.data).uint 1 = .ok 128 ∧
      ∃ n, (Reader.mk d.data).uint 4 = .ok n ∧ d.data.length = wordBytes * (5 + n)

namespace CriterionSpec

theorem uint_flatMap_word {ns : List Nat} {i : Nat} (h : i < ns.length)
    (fits : ns[i] < Nat.pow 2 128) (machine : wordBytes * i + wordBytes < offsetBound) :
    (Reader.mk (ns.flatMap word)).uint i = .ok ns[i] := by
  have inside : wordBytes * i + wordBytes ≤ (ns.flatMap word).length := by
    rw [length_flatMap_word]
    simp only [wordBytes]
    omega
  have chunk := chunk_flatMap word length_word ns [] i h
  rw [List.append_nil] at chunk
  simp [Reader.uint, wordOffset_of_lt (show wordBytes * i < offsetBound by omega),
    Reader.wordAt_eq_ok inside machine, chunk, decodeUint_word fits, bind, Except.bind]

theorem flatMap_word_eq_iff_of_uint {data : List UInt8} {v : Nat}
    (read : (Reader.mk data).uint 0 = .ok v) :
    [v].flatMap word = data ↔ data.length = wordBytes := by
  constructor
  · rintro rfl
    simp
  · intro whole
    obtain ⟨-, chunk⟩ := Reader.chunk_of_uint_eq_ok read
    refine (eq_flatMap_word_of_chunks [v] (by simpa using whole) fun j hj => ?_).symm
    simp only [List.length_singleton, Nat.lt_one_iff] at hj
    subst hj
    simpa using chunk

theorem flatMap_word_eq_iff_of_burn {data : List UInt8} {sink : Address} {target : Nat}
    (sinkRead : (Reader.mk data).address 0 = .ok sink)
    (targetRead : (Reader.mk data).uint 1 = .ok target) :
    [sink.val, target].flatMap word = data ↔ data.length = 2 * wordBytes := by
  constructor
  · rintro rfl
    simp [wordBytes]
  · intro whole
    obtain ⟨-, sinkChunk⟩ := Reader.chunk_of_address_eq_ok sinkRead
    obtain ⟨-, targetChunk⟩ := Reader.chunk_of_uint_eq_ok targetRead
    refine (eq_flatMap_word_of_chunks [sink.val, target] (by simp [whole, Nat.mul_comm])
      fun j hj => ?_).symm
    rcases j with _ | _ | j
    · simpa using sinkChunk
    · simpa using targetChunk
    · simp only [List.length_cons, List.length_nil] at hj
      omega

theorem flatMap_word_eq_iff_of_multisig {data : List UInt8} {threshold listing : Nat}
    {signers : List Address} {root : Digest}
    (thresholdRead : (Reader.mk data).uint 0 = .ok threshold)
    (signersRead : (Reader.mk data).addressArray 1 = .ok signers)
    (rootRead : (Reader.mk data).bytes32 2 = .ok root)
    (listingRead : (Reader.mk data).uint 3 = .ok listing) :
    (multisig threshold signers root listing).words.flatMap word = data ↔
      (Reader.mk data).uint 1 = .ok 128 ∧
        ∃ n, (Reader.mk data).uint 4 = .ok n ∧ data.length = wordBytes * (5 + n) := by
  obtain ⟨offset, offsetRead, countSmall, countWord, itemWords⟩ :=
    Reader.of_addressArray_eq_ok signersRead
  have countFits : signers.length < Nat.pow 2 128 := by
    have : offsetBound < Nat.pow 2 128 := by decide
    omega
  constructor
  · rintro rfl
    have long : 4 < (multisig threshold signers root listing).words.length := by simp [words]
    have offsetAt : (multisig threshold signers root listing).words[1] = 128 := rfl
    have countAt : (multisig threshold signers root listing).words[4] = signers.length := rfl
    refine ⟨?_, signers.length, ?_, ?_⟩
    · rw [← offsetAt]
      exact uint_flatMap_word _ (by rw [offsetAt]; decide) (by decide)
    · rw [← countAt]
      exact uint_flatMap_word _ (by rw [countAt]; exact countFits) (by decide)
    · simp only [length_flatMap_word, words, List.length_append, List.length_cons, List.length_nil,
        List.length_map]
  · rintro ⟨at128, n, countRead, whole⟩
    rw [at128] at offsetRead
    cases offsetRead
    obtain ⟨-, countChunk⟩ := Reader.chunk_of_uint_eq_ok countRead
    obtain ⟨-, countChunk'⟩ := Reader.of_wordAt_eq_ok countWord
    rw [show wordBytes * 4 = 128 from rfl] at countChunk
    have counted : n = signers.length := by
      have same : word n = word signers.length := countChunk.symm.trans countChunk'.symm
      refine word_inj (lt_trans (Reader.lt_of_uint_eq_ok countRead) (by decide))
        (lt_trans countFits (by decide)) same
    subst counted
    obtain ⟨-, thresholdChunk⟩ := Reader.chunk_of_uint_eq_ok thresholdRead
    obtain ⟨-, offsetChunk⟩ := Reader.chunk_of_uint_eq_ok at128
    obtain ⟨-, rootChunk⟩ := Reader.chunk_of_bytes32_eq_ok rootRead
    obtain ⟨-, listingChunk⟩ := Reader.chunk_of_uint_eq_ok listingRead
    refine (eq_flatMap_word_of_chunks _ (by simp only [whole, words, List.length_append,
      List.length_cons, List.length_nil, List.length_map]) fun j hj => ?_).symm
    rcases j with _ | _ | _ | _ | _ | k
    · simpa [words] using thresholdChunk
    · simpa [words] using offsetChunk
    · simpa [words] using rootChunk
    · simpa [words] using listingChunk
    · simpa [words, wordBytes] using countChunk'.symm
    · have hk : k < signers.length := by simp [words] at hj; omega
      obtain ⟨-, itemChunk⟩ := Reader.of_wordAt_eq_ok (itemWords k hk)
      rw [show 128 + wordBytes * (k + 1) = wordBytes * (k + 5) by simp [wordBytes]; ring] at itemChunk
      simpa [words, List.getElem_append_right] using itemChunk.symm

/-- A payload that decodes is written back byte for byte exactly when it has the encoder's
layout. -/
theorem encode_data_eq_iff_canonical {kind : CriterionKind} {data : List UInt8} {s : CriterionSpec}
    (decoded : decode ⟨kind, data⟩ = .ok s) :
    s.encode.data = data ↔ Descriptor.Canonical ⟨kind, data⟩ := by
  rw [encode_data]
  cases kind with
  | time =>
    obtain ⟨secs, read, rfl⟩ := decode_time_eq_ok decoded
    exact flatMap_word_eq_iff_of_uint read
  | burn =>
    obtain ⟨sink, target, sinkRead, targetRead, rfl⟩ := decode_burn_eq_ok decoded
    exact flatMap_word_eq_iff_of_burn sinkRead targetRead
  | price =>
    obtain ⟨target, read, rfl⟩ := decode_price_eq_ok decoded
    exact flatMap_word_eq_iff_of_uint read
  | marketCap =>
    obtain ⟨target, read, rfl⟩ := decode_marketCap_eq_ok decoded
    exact flatMap_word_eq_iff_of_uint read
  | multisig =>
    obtain ⟨threshold, signers, root, listing, thresholdRead, signersRead, rootRead, listingRead,
      rfl⟩ := decode_multisig_eq_ok decoded
    exact flatMap_word_eq_iff_of_multisig thresholdRead signersRead rootRead listingRead

end CriterionSpec

/-- The descriptor codec round-trips both ways: parameters within the widths of their fields
decode from their own descriptor, and a payload of any kind that decodes is written back byte for
byte exactly when it has the encoder's layout. -/
theorem descriptor_roundTrip :
    (∀ s : CriterionSpec, s.Fits → CriterionSpec.decode s.encode = .ok s) ∧
      ∀ (kind : CriterionKind) (data : List UInt8) (s : CriterionSpec),
        CriterionSpec.decode ⟨kind, data⟩ = .ok s →
          (s.encode.data = data ↔ Descriptor.Canonical ⟨kind, data⟩) :=
  ⟨CriterionSpec.decode_encode, fun _ _ _ decoded => CriterionSpec.encode_data_eq_iff_canonical decoded⟩

/-- A three-signer multisig criterion decodes from its own descriptor. -/
theorem descriptor_roundTrip_multisig :
    (CriterionSpec.multisig 3 [Address.ofNat 1, Address.ofNat 2, Address.ofNat 3] (Digest.ofNat 7)
        1).Fits ∧
      CriterionSpec.decode
          (CriterionSpec.multisig 3 [Address.ofNat 1, Address.ofNat 2, Address.ofNat 3]
            (Digest.ofNat 7) 1).encode =
        .ok (CriterionSpec.multisig 3 [Address.ofNat 1, Address.ofNat 2, Address.ofNat 3]
          (Digest.ofNat 7) 1) :=
  have fits : (CriterionSpec.multisig 3 [Address.ofNat 1, Address.ofNat 2, Address.ofNat 3]
      (Digest.ofNat 7) 1).Fits := by
    simp only [CriterionSpec.Fits]
    decide
  ⟨fits, descriptor_roundTrip.1 _ fits⟩

end Escrow
