import GoZond.Core.Receipts

/-!
`StateProcessor.Process` and `applyTransaction` (`common/compiler/hyperion.go` in src).

`Process` runs a block's transactions in order over one StateDB, one gas pool and one running
total: for transaction `i` it converts it to a message, sets the StateDB's transaction context to
`(hash, i)` and calls `applyTransaction`, which applies the message, finalises the state, adds
the gas used to the total and builds the receipt. The first transaction that cannot be converted
or applied aborts the block. Then the consensus engine's `Finalize` runs.

The result of this module is the receipt bookkeeping of `Process`: one receipt per transaction
in block order, receipt `i` with the hash of transaction `i` and the index `i` read back from the
StateDB, cumulative gas the prefix sums of the gas used, a total that is their sum, and the
block's logs the receipts' logs in order.
-/

namespace GoZond

/-- Modelled from the spec: `types.Block`: its header and the transactions of its body. -/
structure Block where
  header : Header
  transactions : List Transaction

/-- `StateProcessor`, with what `Process` reads of its chain configuration and blockchain (`env`,
and `GetHashFn` over the chain), and of its consensus engine (`Finalize`, as the calls it
makes, and `Author`, the beneficiary of a header). -/
structure StateProcessor where
  env : Env
  getHashFn : Header → UInt64 → Hash
  finalize : Block → StateDB → Eff
  author : Header → Address

/-- Modelled from the spec: `NewZVMBlockContext` with no author, which is not in src:
`core.CanTransfer`, `core.Transfer`, the chain's block hashes below `header`, the engine's
`Author` of the header as coinbase, and the header's gas limit, number, time, base fee and
random value. -/
def newZVMBlockContext (header : Header) (getHashFn : Header → UInt64 → Hash)
    (author : Header → Address) : BlockContext :=
  ⟨canTransfer, transfer, getHashFn header, author header, header.gasLimit, header.number,
    header.time, header.baseFee, some header.random⟩

/-- The error of `Process`, `could not apply tx %d [%v]: %w`: the transaction's index and hash,
and the cause. -/
structure TxError where
  index : Nat
  hash : Hash
  err : String

/-- `applyTransaction`: apply the message on the ZVM reset to the message's transaction context,
finalise, add the gas used to `usedGas`, and build the receipt. Returns the receipt, the pool's
gas, the new total and the StateDB. -/
def applyTransaction (env : Env) (msg : Message) (gp : UInt64) (statedb : StateDB)
    (blockNumber : UInt64) (blockHash : Hash) (tx : Transaction) (usedGas : UInt64) (zvm : ZVM) :
    Except String (Receipt × UInt64 × UInt64 × StateDB) :=
  let zvm := { zvm with txContext := newZVMTxContext msg }
  let o := env.applyMessage zvm msg gp statedb
  let statedb := o.state
  match o.result with
  | .error e => .error e
  | .ok result =>
    let statedb := statedb.finalise true
    let usedGas := usedGas + result.usedGas
    let receipt := newReceipt env.digests zvm.crypto zvm.txContext.origin tx msg result usedGas
      (statedb.getLogs (env.digests.txHash tx) blockNumber blockHash)
    .ok ({ receipt with blockHash, blockNumber := some blockNumber,
                        transactionIndex := statedb.txIndex }, o.gas, usedGas, statedb)

/-- What `Process` carries through its loop: the StateDB, the pool's gas, the total gas used,
the receipts and the logs so far. -/
structure ProcessState where
  statedb : StateDB
  gp : UInt64
  usedGas : UInt64
  receipts : List Receipt
  allLogs : List Log

namespace StateProcessor

variable (p : StateProcessor) (header : Header) (blockHash : Hash) (zvm : ZVM)

/-- One iteration of the loop of `Process`, for transaction `i`. -/
def processTx (i : Nat) (tx : Transaction) (σ : ProcessState) : Except TxError ProcessState :=
  let hash := p.env.digests.txHash tx
  match transactionToMessage p.env.sender tx header.baseFee with
  | .error e => .error ⟨i, hash, e⟩
  | .ok msg =>
    match applyTransaction p.env msg σ.gp (σ.statedb.setTxContext hash i) header.number blockHash
        tx σ.usedGas zvm with
    | .error e => .error ⟨i, hash, e⟩
    | .ok (receipt, gp, usedGas, statedb) =>
      .ok ⟨statedb, gp, usedGas, σ.receipts ++ [receipt], σ.allLogs ++ receipt.logs⟩

/-- The loop of `Process`, from transaction `i` on. -/
def processTxs : Nat → List Transaction → ProcessState → Except TxError ProcessState
  | _, [], σ => .ok σ
  | i, tx :: txs, σ =>
    match p.processTx header blockHash zvm i tx σ with
    | .error e => .error e
    | .ok σ' => processTxs (i + 1) txs σ'

/-- `StateProcessor.Process`: the receipts, the logs, the gas used, and the StateDB it leaves. -/
def process (block : Block) (statedb : StateDB) :
    Except TxError (List Receipt × List Log × UInt64 × StateDB) :=
  let header := block.header
  let zvm := p.env.vmConfig.newZVM (newZVMBlockContext header p.getHashFn p.author) ⟨0, 0⟩
  match p.processTxs header (p.env.digests.headerHash header) zvm 0 block.transactions
      ⟨statedb, header.gasLimit, 0, [], []⟩ with
  | .error e => .error e
  | .ok σ => .ok (σ.receipts, σ.allLogs, σ.usedGas, (p.finalize block σ.statedb).run σ.statedb)

/-- `ApplyTransaction`: convert the transaction and apply it on a new ZVM for `header`, whose
coinbase is `author` or, when nil, the engine's `Author` of the header. -/
def ApplyTransaction (author : Option Address) (gp : UInt64) (statedb : StateDB) (header : Header)
    (tx : Transaction) (usedGas : UInt64) : Except String (Receipt × UInt64 × UInt64 × StateDB) :=
  match transactionToMessage p.env.sender tx header.baseFee with
  | .error e => .error e
  | .ok msg =>
    let blockContext := newZVMBlockContext header p.getHashFn fun h => author.getD (p.author h)
    let vmenv := p.env.vmConfig.newZVM blockContext ⟨0, 0⟩
    applyTransaction p.env msg gp statedb header.number (p.env.digests.headerHash header) tx usedGas
      vmenv

end StateProcessor

/-! ### One transaction -/

lemma applyTransaction_spec {env : Env} {msg : Message} {gp : UInt64} {statedb : StateDB}
    {blockNumber : UInt64} {blockHash : Hash} {tx : Transaction} {usedGas : UInt64} {zvm : ZVM}
    {r : Receipt} {gp' usedGas' : UInt64} {statedb' : StateDB}
    (h : applyTransaction env msg gp statedb blockNumber blockHash tx usedGas zvm =
      .ok (r, gp', usedGas', statedb')) :
    r.txHash = env.digests.txHash tx ∧ r.transactionIndex = statedb.txIndex ∧
      r.cumulativeGasUsed = usedGas' ∧ usedGas' = usedGas + r.gasUsed ∧
      gp'.toNat + r.gasUsed.toNat = gp.toNat ∧ statedb'.txIndex = statedb.txIndex := by
  simp only [applyTransaction] at h
  split at h
  · cases h
  · rename_i result hres
    cases h
    exact ⟨rfl, by simp, rfl, rfl, (env.applyMessage _ msg gp statedb).gas_used _ hres, by simp⟩

lemma applyTransaction_state {env : Env} {msg : Message} {gp : UInt64} {statedb : StateDB}
    {blockNumber : UInt64} {blockHash : Hash} {tx : Transaction} {usedGas : UInt64} {zvm : ZVM}
    {r : Receipt} {gp' usedGas' : UInt64} {statedb' : StateDB}
    (h : applyTransaction env msg gp statedb blockNumber blockHash tx usedGas zvm =
      .ok (r, gp', usedGas', statedb')) :
    ∃ res,
      (env.applyMessage { zvm with txContext := newZVMTxContext msg } msg gp statedb).result =
        .ok res ∧
      statedb' = (env.applyMessage { zvm with txContext := newZVMTxContext msg } msg gp
        statedb).state.finalise true ∧
      r.gasUsed = res.usedGas ∧
      r.logs = statedb'.getLogs (env.digests.txHash tx) blockNumber blockHash := by
  simp only [applyTransaction] at h
  split at h
  · cases h
  · rename_i res hres
    cases h
    exact ⟨res, hres, rfl, rfl, rfl⟩

namespace StateProcessor

variable {p : StateProcessor} {header : Header} {blockHash : Hash} {zvm : ZVM}

lemma processTx_spec {i : Nat} {tx : Transaction} {σ σ' : ProcessState}
    (h : p.processTx header blockHash zvm i tx σ = .ok σ') :
    ∃ r, σ'.receipts = σ.receipts ++ [r] ∧ σ'.allLogs = σ.allLogs ++ r.logs ∧
      r.txHash = p.env.digests.txHash tx ∧ r.transactionIndex = i ∧
      r.cumulativeGasUsed = σ'.usedGas ∧ σ'.usedGas = σ.usedGas + r.gasUsed ∧
      σ'.gp.toNat + r.gasUsed.toNat = σ.gp.toNat := by
  simp only [processTx] at h
  split at h
  · cases h
  split at h
  · cases h
  rename_i hr
  cases h
  obtain ⟨hh, hi, hc, hu, hg, -⟩ := applyTransaction_spec hr
  exact ⟨_, rfl, rfl, hh, by simpa using hi, hc, hu, hg⟩

lemma processTx_state {i : Nat} {tx : Transaction} {σ σ' : ProcessState}
    (h : p.processTx header blockHash zvm i tx σ = .ok σ') :
    ∃ msg res r, transactionToMessage p.env.sender tx header.baseFee = .ok msg ∧
      (p.env.applyMessage { zvm with txContext := newZVMTxContext msg } msg σ.gp
        (σ.statedb.setTxContext (p.env.digests.txHash tx) i)).result = .ok res ∧
      σ'.statedb = (p.env.applyMessage { zvm with txContext := newZVMTxContext msg } msg σ.gp
        (σ.statedb.setTxContext (p.env.digests.txHash tx) i)).state.finalise true ∧
      σ'.receipts = σ.receipts ++ [r] ∧ r.gasUsed = res.usedGas ∧
      r.logs = σ'.statedb.getLogs (p.env.digests.txHash tx) header.number blockHash := by
  simp only [processTx] at h
  split at h
  · cases h
  rename_i msg hm
  split at h
  · cases h
  rename_i hr
  cases h
  obtain ⟨res, hres, hst, hg, hl⟩ := applyTransaction_state hr
  exact ⟨msg, res, _, hm, hres, hst, rfl, hg, hl⟩

/-- What holds once `Process` has handled the transactions `done` with a pool that started at
`gasLimit`. -/
structure Inv (txHash : Transaction → Hash) (gasLimit : UInt64) (done : List Transaction)
    (σ : ProcessState) : Prop where
  receipts : MatchTxs txHash done σ.receipts
  gas : GasBook gasLimit σ.receipts σ.usedGas σ.gp
  allLogs : σ.allLogs = σ.receipts.flatMap Receipt.logs

lemma inv_init (txHash : Transaction → Hash) (gasLimit : UInt64) (statedb : StateDB) :
    Inv txHash gasLimit [] ⟨statedb, gasLimit, 0, [], []⟩ :=
  ⟨matchTxs_nil txHash, GasBook.init gasLimit, rfl⟩

variable {gasLimit : UInt64}

lemma Inv.step {done : List Transaction} {tx : Transaction} {σ σ' : ProcessState}
    (hi : Inv p.env.digests.txHash gasLimit done σ)
    (h : p.processTx header blockHash zvm done.length tx σ = .ok σ') :
    Inv p.env.digests.txHash gasLimit (done ++ [tx]) σ' := by
  obtain ⟨r, hrs, hlogs, hh, hidx, hcum, hused, hgp⟩ := processTx_spec h
  refine ⟨?_, ?_, ?_⟩ <;> rw [hrs]
  · exact hi.receipts.snoc hh (hidx.trans hi.receipts.1.symm)
  · exact hi.gas.snoc hcum hused hgp
  · rw [hlogs, hi.allLogs, List.flatMap_append, List.flatMap_singleton]

lemma processTxs_induction (P : List Transaction → ProcessState → Prop)
    (step : ∀ {done tx σ σ'}, P done σ →
      p.processTx header blockHash zvm done.length tx σ = .ok σ' → P (done ++ [tx]) σ')
    (txs done : List Transaction) {σ σ' : ProcessState} (hi : P done σ)
    (h : p.processTxs header blockHash zvm done.length txs σ = .ok σ') : P (done ++ txs) σ' := by
  induction txs generalizing done σ with
  | nil =>
    cases h
    simpa using hi
  | cons tx txs ih =>
    simp only [processTxs] at h
    split at h
    · cases h
    rename_i σ₁ h₁
    rw [show done.length + 1 = (done ++ [tx]).length by simp] at h
    simpa using ih _ (step hi h₁) h

lemma processTxs_induction_mem (P : List Transaction → ProcessState → Prop)
    (txs : List Transaction)
    (step : ∀ {done tx σ σ'}, tx ∈ txs → P done σ →
      p.processTx header blockHash zvm done.length tx σ = .ok σ' → P (done ++ [tx]) σ')
    {σ σ' : ProcessState} (hi : P [] σ)
    (h : p.processTxs header blockHash zvm 0 txs σ = .ok σ') : P txs σ' :=
  processTxs_induction (fun done σ => done <+: txs → P done σ)
    (fun ih h hpre => step (hpre.subset (by simp)) (ih ((List.prefix_append _ _).trans hpre)) h)
    txs [] (fun _ => hi) h (List.prefix_refl _)

lemma Inv.run (txs : List Transaction) {done : List Transaction} {σ σ' : ProcessState}
    (hi : Inv p.env.digests.txHash gasLimit done σ)
    (h : p.processTxs header blockHash zvm done.length txs σ = .ok σ') :
    Inv p.env.digests.txHash gasLimit (done ++ txs) σ' :=
  processTxs_induction _ Inv.step txs done hi h

end StateProcessor

/-! ### The block -/

/-- An `ApplyMessage` for the examples: it charges the message's whole gas limit when the pool
holds it, and fails with `gas limit reached` when it does not. -/
def flatFeeApply : ApplyMessage := fun _ msg gp s =>
  if h : msg.gasLimit ≤ gp then
    ⟨s, .refl s, gp - msg.gasLimit, .ok ⟨msg.gasLimit, none, []⟩, [], fun _ hr => by
      cases hr
      rw [UInt64.toNat_sub_of_le _ _ h]
      exact Nat.sub_add_cancel h⟩
  else ⟨s, .refl s, gp, .error "gas limit reached", [], fun _ hr => by cases hr⟩

/-- A chain for the examples: every transaction is signed by `0x01`, no precompiles, an
interpreter that stops at once, and a transaction's hash is its nonce. -/
def sampleEnv : Env where
  sender _ := .ok 1
  vmConfig :=
    ⟨fun _ => none, fun _ _ _ c _ _ _ => ⟨[], c.gas, UInt64.le_refl _, .success, .done, []⟩,
      ⟨fun _ => 0, fun _ _ => 0, fun _ _ _ => 0⟩⟩
  applyMessage := flatFeeApply
  digests := ⟨fun tx => BitVec.ofNat 256 tx.nonce.toNat, fun _ => 0, fun _ => 0, fun _ => 0,
    fun _ => 0, fun _ => 0, fun _ => 0⟩

/-- A value transfer to `0x02` with the given nonce and gas limit. -/
def sampleTx (nonce gas : UInt64) : Transaction := ⟨0, nonce, 1, 0, 0, gas, some 2, 1, [], []⟩

/-- A processor for the examples: no block hashes, and a `Finalize` that makes no calls. -/
def sampleProcessor : StateProcessor := ⟨sampleEnv, fun _ _ => 0, fun _ _ => .done, fun _ => 0⟩

lemma StateProcessor.process_spec {p : StateProcessor} {block : Block} {statedb : StateDB}
    {receipts : List Receipt} {logs : List Log} {usedGas : UInt64} {statedb' : StateDB}
    (h : p.process block statedb = .ok (receipts, logs, usedGas, statedb')) :
    ∃ σ : ProcessState, StateProcessor.Inv p.env.digests.txHash block.header.gasLimit
      block.transactions σ ∧ receipts = σ.receipts ∧ logs = σ.allLogs ∧ usedGas = σ.usedGas := by
  simp only [StateProcessor.process] at h
  split at h
  · cases h
  rename_i σ hσ
  cases h
  exact ⟨σ, (StateProcessor.inv_init _ _ statedb).run block.transactions hσ, rfl, rfl, rfl⟩

/-- **The receipts of `Process`.** When `Process` returns without error, it returns one receipt
per transaction of the block, in block order: receipt `i` carries the hash of transaction `i`
and the index `i`, and its cumulative gas is the gas used by receipts `0..i`; the gas used it
returns is the sum over all receipts (`0` for an empty block), and the logs are the receipts'
logs in order. -/
theorem process_receipts (p : StateProcessor) (block : Block) (statedb : StateDB)
    (receipts : List Receipt) (logs : List Log) (usedGas : UInt64) (statedb' : StateDB)
    (h : p.process block statedb = .ok (receipts, logs, usedGas, statedb')) :
    MatchTxs p.env.digests.txHash block.transactions receipts ∧ Cumulative receipts ∧
      usedGas.toNat = gasSum receipts ∧ logs = receipts.flatMap Receipt.logs := by
  obtain ⟨σ, hi, rfl, rfl, rfl⟩ := StateProcessor.process_spec h
  exact ⟨hi.receipts, hi.gas.cumulative, hi.gas.used_eq, hi.allLogs⟩

/-- A block of two transfers, of 21000 and 30000 gas, under a gas limit of 60000. -/
theorem process_receipts_two_txs :
    ∃ receipts logs usedGas statedb',
      sampleProcessor.process ⟨⟨60000, none, 1, 0, 0⟩, [sampleTx 0 21000, sampleTx 1 30000]⟩
          StateDB.empty = .ok (receipts, logs, usedGas, statedb') ∧
      MatchTxs sampleEnv.digests.txHash [sampleTx 0 21000, sampleTx 1 30000] receipts ∧
      Cumulative receipts ∧ usedGas.toNat = gasSum receipts ∧
      logs = receipts.flatMap Receipt.logs :=
  ⟨_, _, _, _, rfl, process_receipts sampleProcessor
    ⟨⟨60000, none, 1, 0, 0⟩, [sampleTx 0 21000, sampleTx 1 30000]⟩ StateDB.empty _ _ _ _ rfl⟩

/-- **`Process` stays within the block's gas limit.** The gas used it returns, and every
receipt's cumulative gas, are at most the block's gas limit. -/
theorem process_gas_within_limit (p : StateProcessor) (block : Block) (statedb : StateDB)
    (receipts : List Receipt) (logs : List Log) (usedGas : UInt64) (statedb' : StateDB)
    (h : p.process block statedb = .ok (receipts, logs, usedGas, statedb')) :
    usedGas.toNat ≤ block.header.gasLimit.toNat ∧
      ∀ r ∈ receipts, r.cumulativeGasUsed.toNat ≤ block.header.gasLimit.toNat := by
  obtain ⟨σ, hi, rfl, rfl, rfl⟩ := StateProcessor.process_spec h
  exact ⟨hi.gas.le, fun _ hr => hi.gas.cumulative_le hr⟩

/-- The two transfers use 51000 of the block's 60000 gas. -/
theorem process_gas_within_limit_two_txs :
    ∃ receipts logs usedGas statedb',
      sampleProcessor.process ⟨⟨60000, none, 1, 0, 0⟩, [sampleTx 0 21000, sampleTx 1 30000]⟩
          StateDB.empty = .ok (receipts, logs, usedGas, statedb') ∧
      usedGas.toNat ≤ (60000 : UInt64).toNat ∧
      ∀ r ∈ receipts, r.cumulativeGasUsed.toNat ≤ (60000 : UInt64).toNat :=
  ⟨_, _, _, _, rfl, process_gas_within_limit sampleProcessor
    ⟨⟨60000, none, 1, 0, 0⟩, [sampleTx 0 21000, sampleTx 1 30000]⟩ StateDB.empty _ _ _ _ rfl⟩

end GoZond
