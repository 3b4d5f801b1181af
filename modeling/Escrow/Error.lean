import Escrow.Address

/-!
The errors of the lock library and the faults they wrap: the kinds of criterion an error can
name, the faults of a policy, of an engine configuration and of a word-coded payload, and
`LockError` itself. Each cause has one constructor and one text.
-/

set_option autoImplicit false

/-! ## Criterion kinds

The five kinds of criterion, their fixed wire codes (0 to 4) and their names. A criterion ref
binds one placeholder of a policy to a stored criterion of some kind.
-/

namespace Escrow

/-- What a criterion watches. -/
inductive CriterionKind where
  /-- A moment in time has passed. -/
  | time
  /-- A share of the token's supply sits at a burn sink. -/
  | burn
  /-- The token's price reached a target. -/
  | price
  /-- The token's market capitalisation reached a target. -/
  | marketCap
  /-- Enough whitelisted addresses have signed. -/
  | multisig
  deriving DecidableEq, Repr, Inhabited

namespace CriterionKind

def code : CriterionKind → Nat
  | .time => 0
  | .burn => 1
  | .price => 2
  | .marketCap => 3
  | .multisig => 4

def ofCode? : Nat → Option CriterionKind
  | 0 => some .time
  | 1 => some .burn
  | 2 => some .price
  | 3 => some .marketCap
  | 4 => some .multisig
  | _ => none

def name : CriterionKind → String
  | .time => "time"
  | .burn => "burn"
  | .price => "price"
  | .marketCap => "marketcap"
  | .multisig => "multisig"

def title : CriterionKind → String
  | .time => "Time"
  | .burn => "Burn"
  | .price => "Price"
  | .marketCap => "MarketCap"
  | .multisig => "Multisig"

theorem ofCode?_code (k : CriterionKind) : ofCode? k.code = some k := by
  cases k <;> rfl

end CriterionKind

/-- Binds the placeholder at `position` of a policy to the stored criterion `id` of `kind`. -/
structure CriterionRef where
  position : Nat
  kind : CriterionKind
  id : Nat
  deriving DecidableEq, Repr, Inhabited

end Escrow

/-! ## Policy faults

Why a policy is refused. `ExprFault` is a fault of a submitted expression, found when it is
compiled; `PolicyFault` is a fault found while a policy is evaluated, which a compiled policy
never has. Each fault has one text.
-/

namespace Escrow.Policy

def showPositions (ps : List Nat) : String :=
  "[" ++ ", ".intercalate (ps.map toString) ++ "]"

/-- Why a submitted expression does not compile. -/
inductive ExprFault where
  | empty
  | tooLong (count max : Nat)
  | emptySymbol
  | missingOperator (position : Nat)
  | openAfterOperand (position : Nat)
  | closeWithoutOperand (position : Nat)
  | unbalancedClose (position : Nat)
  | operatorWithoutOperand (position : Nat)
  | mixedConnectives (position : Nat)
  | danglingOperator
  | unclosed (count : Nat)
  | criterionCount (declared found : Nat)
  | descriptorCount (supplied found : Nat)
  | positions (declared actual : List Nat)
  | descriptorCountChanged
  deriving DecidableEq, Repr

def ExprFault.message : ExprFault → String
  | .empty => "expression is empty"
  | .tooLong count max => s!"expression has {count} tokens, maximum is {max}"
  | .emptySymbol => "empty symbol"
  | .missingOperator i => s!"missing operator before position {i}"
  | .openAfterOperand i => s!"'(' at position {i} must follow an operator"
  | .closeWithoutOperand i => s!"')' at position {i} closes an empty group or follows an operator"
  | .unbalancedClose i => s!"unbalanced ')' at position {i}"
  | .operatorWithoutOperand i => s!"operator at position {i} has no left operand"
  | .mixedConnectives i => s!"AND and OR mixed in one group at position {i}; add parentheses"
  | .danglingOperator => "expression ends without a final operand"
  | .unclosed count => s!"{count} unclosed '('"
  | .criterionCount declared found => s!"criterion count {declared} does not match {found} placeholders"
  | .descriptorCount supplied found => s!"{supplied} criteria supplied for {found} placeholders"
  | .positions declared actual =>
    let d := showPositions declared
    let a := showPositions actual
    s!"declared placeholder positions {d} do not match actual {a}"
  | .descriptorCountChanged => "descriptor count changed after compilation"

/-- Why a policy cannot be evaluated. -/
inductive PolicyFault where
  /-- A criterion is bound to a position that holds no placeholder. -/
  | nonPlaceholder (kind : CriterionKind) (id position : Nat)
  | fewerValues
  | moreValues
  | unbound (name : String) (position : Nat)
  | unbalancedClose (position : Nat)
  | unbalancedOpen
  | reducedTo (count : Nat)
  | noRightOperand
  | noLeftOperand
  deriving DecidableEq, Repr

def PolicyFault.message : PolicyFault → String
  | .nonPlaceholder kind id position =>
    let k := kind.name
    s!"{k} criterion {id} bound to non-placeholder position {position}"
  | .fewerValues => "fewer values than placeholders"
  | .moreValues => "more values than placeholders"
  | .unbound name position => s!"placeholder '{name}' at {position} is unbound"
  | .unbalancedClose position => s!"unbalanced ')' at {position}"
  | .unbalancedOpen => "unbalanced '('"
  | .reducedTo count => s!"expression reduced to {count} values"
  | .noRightOperand => "operator without right operand"
  | .noLeftOperand => "operator without left operand"

end Escrow.Policy

/-! ## Configuration faults

Why an engine configuration is refused. Each fault has one text.
-/

namespace Escrow

/-- Why an engine configuration is refused. -/
inductive ConfigFault where
  | zeroCustody
  | noExpressionTokens
  | feePercentTooLarge
  | feeWalletIsCustody
  | custodyFixed
  deriving DecidableEq, Repr

def ConfigFault.message : ConfigFault → String
  | .zeroCustody => "custody address must not be zero"
  | .noExpressionTokens => "max_expression_tokens must be at least 1"
  | .feePercentTooLarge => "fee_percent must not exceed 1e18"
  | .feeWalletIsCustody => "fee wallet must differ from custody"
  | .custodyFixed => "custody address cannot change once locks exist"

end Escrow

/-! ## Payload faults

Why a word-coded payload cannot be read. Each fault has one text.
-/

namespace Escrow.Abi

/-- Why a payload of 32-byte words cannot be read. -/
inductive AbiFault where
  /-- Fewer bytes than the words the head must hold. -/
  | tooShort (words bytes : Nat)
  /-- A word's end lies past the largest machine offset. -/
  | offsetOverflow
  /-- The word starting at this byte offset is not wholly inside the payload. -/
  | outOfRange (offset : Nat)
  /-- An integer word uses more than its low 16 bytes. -/
  | wideInteger
  /-- An address word has a nonzero byte in its first 12. -/
  | dirtyPadding
  | offsetTooLarge
  | lengthTooLarge
  /-- An array declares more elements than words follow its length word. -/
  | shortArray (declared available : Nat)
  /-- The byte offset `32 · n` of a word index or count overflows a machine word. This is no
  error the reader reports: the product is unchecked, and the program panics there. -/
  | multiplyOverflow
  deriving DecidableEq, Repr

def AbiFault.message : AbiFault → String
  | .tooShort words bytes => s!"expected at least {words} words, got {bytes} bytes"
  | .offsetOverflow => "offset overflow"
  | .outOfRange offset => s!"word at byte {offset} out of range"
  | .wideInteger => "integer exceeds 128 bits"
  | .dirtyPadding => "address word has dirty padding"
  | .offsetTooLarge => "array offset too large"
  | .lengthTooLarge => "array length too large"
  | .shortArray declared available =>
    s!"array declares {declared} elements but only {available} words follow"
  | .multiplyOverflow => "attempt to multiply with overflow"

end Escrow.Abi

/-! ## Lock errors -/

namespace Escrow

/-- The step of a custody movement that failed. -/
inductive TransferStage where
  /-- Moving the locked amount from the owner into custody. -/
  | intake
  /-- Collecting the creation fee. -/
  | feeCollection
  /-- Paying an unlocked amount out of custody. -/
  | payout
  deriving DecidableEq, Repr

/-- Everything that can go wrong in the lock library. -/
inductive LockError where
  | malformedExpression (fault : Policy.ExprFault)
  | policyInvariant (fault : Policy.PolicyFault)
  /-- A parameter outside its domain; shown as the bare reason. -/
  | invalidParameters (reason : String)
  | unknownCriterionType (code : Nat)
  | criterionNotFound (kind : CriterionKind) (id : Nat)
  | notWhitelisted
  | alreadySigned
  | proofTooDeep (max got : Nat)
  | unlockConditionsMismatch
  | lockNotFound (id : Nat)
  | notLockOwner
  | zeroAmount
  | unsupportedUnlockMode (mode : Nat)
  | custodyTransferFailed (stage : TransferStage) (cause : LockError)
  | unknownToken (token : Address)
  | insufficientBalance (need held : Nat)
  | insufficientAllowance (need held : Nat)
  | oracleUnavailable (token : Address)
  | arithmeticOverflow
  | divisionByZero
  | abiDecode (fault : Abi.AbiFault)
  | config (fault : ConfigFault)

def LockError.message : LockError → String
  | .malformedExpression fault => "malformed expression: " ++ fault.message
  | .policyInvariant fault => "stored policy violates an invariant: " ++ fault.message
  | .invalidParameters reason => reason
  | .unknownCriterionType code => s!"unknown criterion type code {code}"
  | .criterionNotFound kind id =>
    let k := kind.name
    s!"{k} criterion not found: {id}"
  | .notWhitelisted => "not whitelisted"
  | .alreadySigned => "already signed"
  | .proofTooDeep max got => s!"merkle proof too deep: max {max} siblings, got {got}"
  | .unlockConditionsMismatch => "Unlock Conditions Mismatch"
  | .lockNotFound id => s!"lock not found: {id}"
  | .notLockOwner => "only the lock owner may unlock"
  | .zeroAmount => "amount must be greater than zero"
  | .unsupportedUnlockMode mode => s!"unsupported unlock mode {mode}"
  | .custodyTransferFailed .feeCollection cause =>
    "custody transfer failed: fee collection: " ++ cause.message
  | .custodyTransferFailed _ cause => "custody transfer failed: " ++ cause.message
  | .unknownToken token => "unknown token: " ++ token.toHex
  | .insufficientBalance need held => s!"insufficient balance: need {need}, have {held}"
  | .insufficientAllowance need held => s!"insufficient allowance: need {need}, have {held}"
  | .oracleUnavailable token => "price unavailable for token " ++ token.toHex
  | .arithmeticOverflow => "fixed-point arithmetic overflow"
  | .divisionByZero => "division by zero"
  | .abiDecode fault => "abi decode error: " ++ fault.message
  | .config fault => "configuration error: " ++ fault.message

end Escrow
