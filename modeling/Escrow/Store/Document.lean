import Escrow.Store
import Escrow.Json.Parse

/-!
The stored state as a JSON document, and back. Settings, locks and the fee schedule are written
as the command line shows them; criterion records are objects tagged with their kind; tables are
arrays of entries in their own order, so that reading a written document gives back the same
state. `Store.ofDocument` is the inverse of `Store.toDocument` on every state.
-/

set_option autoImplicit false

namespace Escrow

open Json

/-! ## Writing -/

def addressValue (a : Address) : Value := .str a.toHex

def digestValue (d : Digest) : Value := .str d.toHex

def addressSetValue (s : AddressSet) : Value := .arr (s.toList.map addressValue)

def feeScheduleValue (f : FeeSchedule) : Value :=
  .obj [("fee_wallet", .option addressValue f.feeWallet),
    ("fee_token", .option addressValue f.feeToken), ("flat_fee", .nat f.flatFee),
    ("fee_percent", .nat f.feePercent), ("percent_tokens", addressSetValue f.percentTokens)]

def configValue (c : Config) : Value :=
  .obj [("custody_address", addressValue c.custody), ("fee", feeScheduleValue c.fee),
    ("burn_sinks", addressSetValue c.burnSinks),
    ("max_expression_tokens", .nat c.maxExpressionTokens),
    ("max_proof_depth", .nat c.maxProofDepth)]

def tokenValue : Policy.Token → Value
  | .lparen => .str "Open"
  | .rparen => .str "Close"
  | .op .and => .str "And"
  | .op .or => .str "Or"
  | .placeholder s => .obj [("Placeholder", .str s)]

def criterionRefValue (r : CriterionRef) : Value :=
  .obj [("position", .nat r.position), ("kind", .str r.kind.title), ("id", .nat r.id)]

def lockStateValue : LockState → Value
  | .active => .str "Active"
  | .consumed consumedAt recipient paid retained =>
    .obj [("Consumed", .obj [("consumed_at", .number consumedAt),
      ("recipient", addressValue recipient), ("paid", .nat paid), ("retained", .nat retained)])]

def lockValue (l : Lock) : Value :=
  .obj [("id", .nat l.id), ("owner", addressValue l.owner), ("token", addressValue l.token),
    ("amount", .nat l.amount), ("fee_paid", .nat l.feePaid),
    ("expression", .arr (l.expression.map tokenValue)),
    ("criteria", .arr (l.criteria.map criterionRefValue)),
    ("created_at", .number l.createdAt), ("state", lockStateValue l.state)]

def recordValue : CriterionRecord → Value
  | .time r => .obj [("kind", .str "time"), ("id", .nat r.id),
      ("lock_timestamp", .number r.lockTimestamp), ("unlock_timestamp", .number r.unlockTimestamp)]
  | .burn r => .obj [("kind", .str "burn"), ("id", .nat r.id), ("token", addressValue r.token),
      ("burn_sink", addressValue r.burnSink), ("target_ratio", .nat r.targetRatio),
      ("ratio_at_lock", .nat r.ratioAtLock)]
  | .price r => .obj [("kind", .str "price"), ("id", .nat r.id), ("token", addressValue r.token),
      ("price_at_lock", .nat r.priceAtLock), ("target_price", .nat r.targetPrice)]
  | .marketCap r => .obj [("kind", .str "marketcap"), ("id", .nat r.id),
      ("token", addressValue r.token), ("market_cap_at_lock", .nat r.marketCapAtLock),
      ("target_market_cap", .nat r.targetMarketCap)]
  | .multisig r => .obj [("kind", .str "multisig"), ("id", .nat r.id),
      ("threshold", .nat r.threshold), ("whitelist_root", digestValue r.whitelistRoot),
      ("announced_signers", .arr (r.announcedSigners.map addressValue)),
      ("listing_type", .nat r.listingType), ("signed", addressSetValue r.signed),
      ("signed_count", .nat r.signedCount)]

def ledgerValue (l : Ledger) : Value :=
  .obj [("tokens", .arr (l.tokens.entries.map fun (t, i) =>
          .arr [addressValue t, .str i.symbol, .nat i.decimals, .nat i.totalSupply])),
        ("balances", .arr (l.balances.entries.map fun ((t, h), n) =>
          .arr [addressValue t, addressValue h, .nat n])),
        ("allowances", .arr (l.allowances.entries.map fun ((t, o, s), n) =>
          .arr [addressValue t, addressValue o, addressValue s, .nat n])),
        ("prices", .arr (l.prices.entries.map fun (t, p) => .arr [addressValue t, .nat p]))]

def Store.toDocument (s : Store) : Value :=
  .obj [("config", .option configValue s.config?), ("ledger", ledgerValue s.ledger),
    ("criteria", .arr (s.criteria.entries.map fun (id, r) => .arr [.nat id, recordValue r])),
    ("locks", .arr (s.locks.entries.map fun (id, l) => .arr [.nat id, lockValue l])),
    ("owner_locks", .arr (s.ownerIndex.entries.map fun (key, _) => .arr [.str (Text.encodeHex key)])),
    ("next_lock_id", .nat s.nextLockId), ("next_criterion_id", .nat s.nextCriterionId)]

/-! ## Reading -/

def addressOf? (v : Value) : Option Address := v.asStr.bind fun s => (Address.ofHex s).toOption

def digestOf? (v : Value) : Option Digest := v.asStr.bind fun s => (Digest.ofHex s).toOption

def addressSetOf? (v : Value) : Option AddressSet := do
  pure ⟨← (← v.asList).mapM addressOf?⟩

def optionalAddressOf? (v : Value) : Option (Option Address) :=
  match v with
  | .null => some none
  | v => some <$> addressOf? v

def feeScheduleOf? (v : Value) : Option FeeSchedule := do
  pure { feeWallet := ← optionalAddressOf? (← v.field "fee_wallet"),
         feeToken := ← optionalAddressOf? (← v.field "fee_token"),
         flatFee := ← (← v.field "flat_fee").asNat,
         feePercent := ← (← v.field "fee_percent").asNat,
         percentTokens := ← addressSetOf? (← v.field "percent_tokens") }

def configOf? (v : Value) : Option Config := do
  pure { custody := ← addressOf? (← v.field "custody_address"),
         fee := ← feeScheduleOf? (← v.field "fee"),
         burnSinks := ← addressSetOf? (← v.field "burn_sinks"),
         maxExpressionTokens := ← (← v.field "max_expression_tokens").asNat,
         maxProofDepth := ← (← v.field "max_proof_depth").asNat }

def tokenOf? : Value → Option Policy.Token
  | .str "Open" => some .lparen
  | .str "Close" => some .rparen
  | .str "And" => some (.op .and)
  | .str "Or" => some (.op .or)
  | v => (v.field "Placeholder").bind fun p => Policy.Token.placeholder <$> p.asStr

def kindOf? (title : String) : Option CriterionKind :=
  [CriterionKind.time, .burn, .price, .marketCap, .multisig].find? (·.title == title)

def criterionRefOf? (v : Value) : Option CriterionRef := do
  pure { position := ← (← v.field "position").asNat,
         kind := ← kindOf? (← (← v.field "kind").asStr),
         id := ← (← v.field "id").asNat }

def lockStateOf? (v : Value) : Option LockState :=
  match v with
  | .str "Active" => some .active
  | v => do
    let c ← v.field "Consumed"
    pure (.consumed (← (← c.field "consumed_at").asInt) (← addressOf? (← c.field "recipient"))
      (← (← c.field "paid").asNat) (← (← c.field "retained").asNat))

def lockOf? (v : Value) : Option Lock := do
  pure { id := ← (← v.field "id").asNat, owner := ← addressOf? (← v.field "owner"),
         token := ← addressOf? (← v.field "token"), amount := ← (← v.field "amount").asNat,
         feePaid := ← (← v.field "fee_paid").asNat,
         expression := ← (← (← v.field "expression").asList).mapM tokenOf?,
         criteria := ← (← (← v.field "criteria").asList).mapM criterionRefOf?,
         createdAt := ← (← v.field "created_at").asInt,
         state := ← lockStateOf? (← v.field "state") }

def recordOf? (v : Value) : Option CriterionRecord := do
  let nat (k : String) : Option Nat := (v.field k).bind Value.asNat
  let int (k : String) : Option Int := (v.field k).bind Value.asInt
  let addr (k : String) : Option Address := (v.field k).bind addressOf?
  let id ← nat "id"
  match ← (← v.field "kind").asStr with
  | "time" => pure (.time { id, lockTimestamp := ← int "lock_timestamp",
                            unlockTimestamp := ← int "unlock_timestamp" })
  | "burn" => pure (.burn { id, token := ← addr "token", burnSink := ← addr "burn_sink",
                            targetRatio := ← nat "target_ratio",
                            ratioAtLock := ← nat "ratio_at_lock" })
  | "price" => pure (.price { id, token := ← addr "token", priceAtLock := ← nat "price_at_lock",
                              targetPrice := ← nat "target_price" })
  | "marketcap" => pure (.marketCap { id, token := ← addr "token",
                                      marketCapAtLock := ← nat "market_cap_at_lock",
                                      targetMarketCap := ← nat "target_market_cap" })
  | "multisig" => do
    let whitelistRoot ← digestOf? (← v.field "whitelist_root")
    let announcedSigners ← (← (← v.field "announced_signers").asList).mapM addressOf?
    let signed ← addressSetOf? (← v.field "signed")
    pure (.multisig { id, threshold := ← nat "threshold", whitelistRoot, announcedSigners,
                      listingType := ← nat "listing_type", signed,
                      signedCount := ← nat "signed_count" })
  | _ => none

def entriesOf? {κ ν : Type} (entry : List Value → Option (κ × ν)) (v : Value) :
    Option (Table κ ν) := do
  pure ⟨← (← v.asList).mapM fun e => e.asList.bind entry⟩

def ledgerOf? (v : Value) : Option Ledger := do
  let tokens ← entriesOf? (fun e => match e with
    | [t, s, d, n] => do
      pure (← addressOf? t, { symbol := ← s.asStr, decimals := ← d.asNat, totalSupply := ← n.asNat })
    | _ => none) (← v.field "tokens")
  let balances ← entriesOf? (fun e => match e with
    | [t, h, n] => do pure ((← addressOf? t, ← addressOf? h), ← n.asNat)
    | _ => none) (← v.field "balances")
  let allowances ← entriesOf? (fun e => match e with
    | [t, o, s, n] => do pure ((← addressOf? t, ← addressOf? o, ← addressOf? s), ← n.asNat)
    | _ => none) (← v.field "allowances")
  let prices ← entriesOf? (fun e => match e with
    | [t, p] => do pure (← addressOf? t, ← p.asNat)
    | _ => none) (← v.field "prices")
  pure { tokens, balances, allowances, prices }

def Store.ofDocument (v : Value) : Option Store := do
  let config? ← match ← v.field "config" with
    | .null => some none
    | c => some <$> configOf? c
  pure { config?, ledger := ← ledgerOf? (← v.field "ledger"),
         criteria := ← entriesOf? (fun e => match e with
           | [i, r] => do pure (← i.asNat, ← recordOf? r)
           | _ => none) (← v.field "criteria"),
         locks := ← entriesOf? (fun e => match e with
           | [i, l] => do pure (← i.asNat, ← lockOf? l)
           | _ => none) (← v.field "locks"),
         ownerIndex := ← entriesOf? (fun e => match e with
           | [k] => do pure ((← (Text.readHex (← k.asStr)).toOption), ())
           | _ => none) (← v.field "owner_locks"),
         nextLockId := ← (← v.field "next_lock_id").asNat,
         nextCriterionId := ← (← v.field "next_criterion_id").asNat }

end Escrow
