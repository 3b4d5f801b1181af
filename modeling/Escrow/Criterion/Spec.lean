import Escrow.Abi.Word
import Escrow.Error
import Escrow.FixedPoint
import Escrow.Text.Printable

/-!
The creation parameters of a criterion and their payloads. A time criterion carries a duration
in seconds (one word, at most 2^64 - 1); a burn criterion a sink and a target ratio; price and
market-cap criteria a target; a multisig criterion a threshold (at most 2^32 - 1), announced
signers, a whitelist root and a listing type, in that word order, the signers as a list.
-/

set_option autoImplicit false

/-! ## Descriptors

Criterion descriptors: a kind and the word-coded payload of its creation parameters, as a lock
request carries them.
-/

namespace Escrow

/-- One criterion of a lock request: its kind and its payload. -/
structure Descriptor where
  kind : CriterionKind
  data : List UInt8
  deriving DecidableEq, Repr, Inhabited

def Descriptor.ofWire (code : Nat) (data : List UInt8) : Except LockError Descriptor :=
  match CriterionKind.ofCode? code with
  | some kind => .ok { kind, data }
  | none => .error (.unknownCriterionType code)

/-! ## Creation parameters -/

open Escrow.Abi

/-- The decoded creation parameters of one criterion. -/
inductive CriterionSpec where
  | time (durationSecs : Nat)
  | burn (sink : Address) (targetRatio : Nat)
  | price (targetPrice : Nat)
  | marketCap (targetMarketCap : Nat)
  | multisig (threshold : Nat) (announcedSigners : List Address) (whitelistRoot : Digest)
      (listingType : Nat)
  deriving Inhabited

namespace CriterionSpec

def kind : CriterionSpec → CriterionKind
  | .time _ => .time
  | .burn _ _ => .burn
  | .price _ => .price
  | .marketCap _ => .marketCap
  | .multisig _ _ _ _ => .multisig

def abi {α : Type} (r : Except AbiFault α) : Except LockError α :=
  r.mapError LockError.abiDecode

def decode (d : Descriptor) : Except LockError CriterionSpec :=
  let r : Reader := ⟨d.data⟩
  match d.kind with
  | .time => do
    abi (r.expectWords 1)
    let secs ← abi (r.uint 0)
    if secs < Nat.pow 2 64 then pure (.time secs)
    else throw (.invalidParameters "lock duration out of range")
  | .burn => do
    abi (r.expectWords 2)
    let sink ← abi (r.address 0)
    let target ← abi (r.uint 1)
    pure (.burn sink target)
  | .price => do
    abi (r.expectWords 1)
    pure (.price (← abi (r.uint 0)))
  | .marketCap => do
    abi (r.expectWords 1)
    pure (.marketCap (← abi (r.uint 0)))
  | .multisig => do
    abi (r.expectWords 4)
    let threshold ← abi (r.uint 0)
    if threshold ≥ Nat.pow 2 32 then throw (.invalidParameters "multisig threshold out of range")
    let signers ← abi (r.addressArray 1)
    let root ← abi (r.bytes32 2)
    let listing ← abi (r.uint 3)
    pure (.multisig threshold signers root listing)

def values : CriterionSpec → List AbiValue
  | .time secs => [.uint secs]
  | .burn sink target => [.address sink, .uint target]
  | .price target => [.uint target]
  | .marketCap target => [.uint target]
  | .multisig threshold signers root listing =>
    [.uint threshold, .addressArray signers, .bytes32 root, .uint listing]

def encode (s : CriterionSpec) : Descriptor :=
  { kind := s.kind, data := Abi.encode s.values }

end CriterionSpec

end Escrow

/-! ## Command-line text

The text forms of criteria on the command line: `time:<secs>`, `burn:<sink>:<ratio>`,
`price:<target>`, `marketcap:<target>` and `multisig:<threshold>:<root>[:<signer,...>]`. Ratios
and targets are fixed-point decimals. In the multisig form the signers are read first, then the
threshold, then the root.
-/

namespace Escrow

open Escrow.Text

def parseAddressArg (s : String) : Except Diagnostic Address :=
  match Address.ofHex s with
  | .ok a => .ok a
  | .error e => .error (Diagnostic.within ("invalid address " ++ s) ⟨e.message, []⟩)

def parseNatArg (bound : Nat) (context s : String) : Except Diagnostic Nat :=
  match parseNat bound s with
  | .ok n => .ok n
  | .error fault => .error (Diagnostic.within (context ++ " " ++ s) ⟨fault.message, []⟩)

def parseSigners : List String → Except Diagnostic (List Address)
  | [list] => if list.isEmpty then .ok [] else (list.splitOn ",").mapM parseAddressArg
  | _ => .ok []

def parseCriterion (s : String) : Except Diagnostic CriterionSpec :=
  match s.splitOn ":" with
  | ["time", secs] => do
    pure (.time (← parseNatArg (Nat.pow 2 64) "invalid duration" secs))
  | ["burn", sink, ratio] => do
    let a ← parseAddressArg sink
    pure (.burn a (← parseFixed ratio))
  | ["price", target] => do pure (.price (← parseFixed target))
  | ["marketcap", target] => do pure (.marketCap (← parseFixed target))
  | "multisig" :: threshold :: root :: rest =>
    if rest.length ≤ 1 then do
      let signers ← parseSigners rest
      let t ← parseNatArg (Nat.pow 2 32) "invalid threshold" threshold
      let r ← match Digest.ofHex root with
        | .ok d => pure d
        | .error e => throw (Diagnostic.within ("invalid whitelist root " ++ root) ⟨e.message, []⟩)
      pure (.multisig t signers r 0)
    else .error ⟨"unrecognised criterion " ++ quoteText s, []⟩
  | _ => .error ⟨"unrecognised criterion " ++ quoteText s, []⟩

end Escrow
