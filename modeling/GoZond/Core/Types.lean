import GoZond.Vm.Create

/-!
The data the block processors pass around: transactions, the messages made from them, what
applying a message returns, and receipts.

`core/state_transition.go` is not among the repository's files. `TransactionToMessage` is
modelled from the spec, recovering the sender through the `Sender` capability of §6, and
`ApplyMessage` is a parameter with the interface the spec gives it (§4.2, §4.3, §4.5): it
reaches the state only through journaled `StateDB` calls, and when it succeeds the block's gas
pool has lost exactly the gas it reports as used.
-/

namespace GoZond

/-- Modelled from the spec: `types.Bloom`: 2048 bits. -/
abbrev Bloom := BitVec 2048

/-- `types.Transaction`, with the fields of its payload (`LegacyTx` in src) the processors read. -/
structure Transaction where
  type : UInt8
  nonce : UInt64
  gasPrice : Int
  gasTipCap : Int
  gasFeeCap : Int
  gas : UInt64
  /-- `To()`: `none` for a contract creation. -/
  toAddr : Option Address
  value : Int
  data : Bytes
  accessList : List (Address × List Hash)

/-- Modelled from the spec: `types.Header`, with the fields the processors read: the gas limit, the
base fee (`none` when nil), the number, the time and the random value of the beacon chain. -/
structure Header where
  gasLimit : UInt64
  baseFee : Option Int
  number : UInt64
  time : UInt64
  random : Hash

/-- Modelled from the spec: `core.Message`; `sender` is its `From`. -/
structure Message where
  /-- `To`: `none` for a contract creation. -/
  toAddr : Option Address
  sender : Address
  nonce : UInt64
  value : Int
  gasLimit : UInt64
  gasPrice : Int
  gasFeeCap : Int
  gasTipCap : Int
  data : Bytes
  accessList : List (Address × List Hash)
  skipAccountChecks : Bool

/-- Modelled from the spec: `core.TransactionToMessage`. With a base fee the gas price is the
effective one, `min(tip + baseFee, feeCap)`; the sender comes from `Sender`, whose error is the
conversion's. -/
def transactionToMessage (sender : Transaction → Except String Address) (tx : Transaction)
    (baseFee : Option Int) : Except String Message :=
  let gasPrice := match baseFee with
    | some b => min (tx.gasTipCap + b) tx.gasFeeCap
    | none => tx.gasPrice
  match sender tx with
  | .error e => .error e
  | .ok a => .ok ⟨tx.toAddr, a, tx.nonce, tx.value, tx.gas, gasPrice, tx.gasFeeCap, tx.gasTipCap,
      tx.data, tx.accessList, false⟩

lemma transactionToMessage_eq_ok {sender : Transaction → Except String Address}
    {tx : Transaction} {baseFee : Option Int} {msg : Message}
    (h : transactionToMessage sender tx baseFee = .ok msg) :
    sender tx = .ok msg.sender ∧ msg.nonce = tx.nonce ∧ msg.skipAccountChecks = false ∧
      (tx.gasPrice ≤ tx.gasFeeCap → msg.gasPrice ≤ msg.gasFeeCap) := by
  simp only [transactionToMessage] at h
  split at h
  · cases h
  · rename_i a ha
    cases h
    exact ⟨ha, rfl, rfl, fun hp => by cases baseFee <;> simp [hp]⟩

/-- Modelled from the spec: `core.ExecutionResult`: the gas used, the ZVM's error, the return
data. -/
structure ExecutionResult where
  usedGas : UInt64
  err : Option ZvmError
  returnData : Bytes

/-- Modelled from the spec: `ExecutionResult.Failed`. -/
def ExecutionResult.failed (r : ExecutionResult) : Bool := r.err.isSome

/-- Modelled from the spec: `types.ReceiptStatusFailed`. -/
def receiptStatusFailed : UInt64 := 0

/-- Modelled from the spec: `types.ReceiptStatusSuccessful`. -/
def receiptStatusSuccessful : UInt64 := 1

/-- Modelled from the spec: `types.Receipt`; `blockNumber` is `none` while unset. -/
structure Receipt where
  type : UInt8
  postState : Bytes
  status : UInt64
  cumulativeGasUsed : UInt64
  bloom : Bloom
  logs : List Log
  txHash : Hash
  contractAddress : Address
  gasUsed : UInt64
  blockHash : Hash
  blockNumber : Option UInt64
  transactionIndex : Nat

/-- The receipt status of an execution result. -/
def ExecutionResult.status (r : ExecutionResult) : UInt64 :=
  if r.failed then receiptStatusFailed else receiptStatusSuccessful

/-- What `ApplyMessage` does on StateDB `s` when the block's gas pool holds `gp`: the StateDB it
leaves, reached from `s` by journaled calls, the gas left in the pool, its result or error, and
the block numbers the code asked `GetHash` for. A result says how much gas it used, and the pool
has lost exactly that. -/
@[ext] structure MsgOutcome (gp : UInt64) (s : StateDB) where
  state : StateDB
  journaled : s.Extends state
  gas : UInt64
  result : Except String ExecutionResult
  hashLookups : List UInt64
  gas_used : ∀ r, result = .ok r → gas.toNat + r.usedGas.toNat = gp.toNat

namespace MsgOutcome

variable {gp : UInt64} {s : StateDB} (o : MsgOutcome gp s)

lemma revert_state : o.state.revertToSnapshot s.snapshot = s := o.journaled

@[simp] lemma txIndex_state : o.state.txIndex = s.txIndex := o.journaled.txIndex_eq

end MsgOutcome

/-- Modelled from the spec: the interface of `core.ApplyMessage`, run on a ZVM, a message and
the pool's gas, over a StateDB. -/
abbrev ApplyMessage := (zvm : ZVM) → Message → (gp : UInt64) → (s : StateDB) → MsgOutcome gp s

/-- An `ApplyMessage` that, on a ZVM whose interpreter reads the block hashes only at the numbers
it looks up, does the same: under a `GetHash` that agrees with the ZVM's at the numbers the run
looked up, it runs the message the same way. -/
def ReadsLookedUpHashes (applyMessage : ApplyMessage) : Prop :=
  ∀ zvm msg gp s (getHash : UInt64 → Hash), zvm.interpreter.ReadsLookedUpHashes →
    (∀ num ∈ (applyMessage zvm msg gp s).hashLookups, getHash num = zvm.context.getHash num) →
      applyMessage (zvm.withGetHash getHash) msg gp s = applyMessage zvm msg gp s

/-- What `NewZVM` takes from the chain configuration and `vm.Config`: the active precompiles,
the interpreter, and the hash functions. -/
structure VmConfig where
  precompiles : Address → Option PrecompiledContract
  interpreter : Interpreter
  crypto : Crypto

/-- `vm.NewZVM`, at depth zero; the StateDB travels beside it. -/
def VmConfig.newZVM (e : VmConfig) (blockCtx : BlockContext) (txCtx : TxContext) : ZVM :=
  ⟨blockCtx, txCtx, 0, e.precompiles, e.interpreter, e.crypto⟩

/-- Modelled from the spec: `core.NewZVMTxContext`. -/
def newZVMTxContext (msg : Message) : TxContext := ⟨msg.sender, msg.gasPrice⟩

/-- Modelled from the spec: `types.Withdrawal`, with the fields `Apply` reads: the recipient and the
amount in gplanck. -/
structure Withdrawal where
  address : Address
  amount : UInt64

/-- The capabilities the processors use for hashes they do not compute themselves: the
transaction hash (`tx.Hash()`), the derived trie roots, blooms and the logs hash. -/
structure Digests where
  txHash : Transaction → Hash
  headerHash : Header → Hash
  deriveShaTxs : List Transaction → Hash
  deriveShaReceipts : List Receipt → Hash
  deriveShaWithdrawals : List Withdrawal → Hash
  createBloom : List Receipt → Bloom
  logsHash : List Log → Hash

/-- What both block processors take from outside `src`: the signer's `Sender`, what `NewZVM`
sets up, `ApplyMessage`, and the hash functions. -/
structure Env where
  sender : Transaction → Except String Address
  vmConfig : VmConfig
  applyMessage : ApplyMessage
  digests : Digests

end GoZond
