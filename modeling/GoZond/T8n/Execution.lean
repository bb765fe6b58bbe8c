import GoZond.Core.StateTransition

/-!
`Prestate.Apply` of the transition tool (`cmd/qrvm/internal/t8ntool/execution.go`).

`Apply` builds the prestate's StateDB and runs the transactions over it in input order, with one
gas pool. Unlike `Process`, it does not stop at a transaction it cannot use: one that cannot be
converted to a message is rejected at once, and one whose message `ApplyMessage` refuses is
rejected after the StateDB is reverted to the snapshot taken before the message and the pool is
set back to the gas it held. Only the transactions that were applied are included, get a receipt
(indexed by a counter of included transactions) and are counted in the gas used. After the loop
the mining reward and the withdrawals are paid, and the state is committed.

`core.NewQRVMTxContext` and `vm.NewQRVM`, which `Apply` calls, are the `NewZVMTxContext` and
`NewZVM` of the rest of src. The results are the two laws of the loop: a rejected transaction
leaves the world, the pool and the bookkeeping as they were (`Rejected`), and a run that
returns accounts for each input transaction exactly once, with receipts and gas as `Process`
keeps them.
-/

namespace GoZond.T8n

/-- Modelled from the spec: `core.GenesisAccount`, with the fields `MakePreState` reads. -/
structure GenesisAccount where
  code : Bytes
  storage : List (Hash × Hash)
  balance : Int
  nonce : UInt64

/-- Modelled from the spec: `core.GenesisAlloc`, in the order `MakePreState` visits it. -/
abbrev GenesisAlloc := List (Address × GenesisAccount)

/-- `stEnv`, with the fields `Apply` reads; `random`, `blockHashes`, `withdrawals` and `baseFee`
are `none` when nil. The block hashes are the finite map the input lists. -/
structure StEnv where
  coinbase : Address
  random : Option Nat
  gasLimit : UInt64
  number : UInt64
  timestamp : UInt64
  blockHashes : Option (List (UInt64 × Hash))
  withdrawals : Option (List Withdrawal)
  baseFee : Option Int

/-- `Prestate`. -/
structure Prestate where
  env : StEnv
  pre : GenesisAlloc

/-- `rejectedTx`: the input index of a rejected transaction and its error. -/
structure RejectedTx where
  index : Nat
  err : String

/-- The tool's `ExecutionResult`. -/
structure ExecutionResult where
  stateRoot : Hash
  txRoot : Hash
  receiptRoot : Hash
  logsHash : Hash
  bloom : Bloom
  receipts : List Receipt
  rejected : List RejectedTx
  gasUsed : UInt64
  baseFee : Option Int
  withdrawalsRoot : Option Hash

/-- The errors `Apply` returns: the tracer factory's own, `ErrorMissingBlockhash` with the
`getHash` error, and `ErrorQRVM` when the state cannot be committed. -/
inductive ApplyError
  | tracer (err : String)
  | missingBlockhash (err : String)
  | qrvm (err : String)

/-- The `getHash` closure of `Apply`: the hash, and the error it records in `hashError` when the
prestate has no block hashes, or not the one asked for. -/
def StEnv.getHash (env : StEnv) (num : UInt64) : Hash × Option String :=
  match env.blockHashes with
  | none => (0, some ("getHash(" ++ toString num ++ ") invoked, no blockhashes provided"))
  | some hashes =>
    match hashes.lookup num with
    | some h => (h, none)
    | none =>
      (0, some ("getHash(" ++ toString num ++ ") invoked, blockhash for that block not provided"))

/-- `hashError` after the lookups `nums`, in order: the last failed lookup's error. -/
def StEnv.recordLookups (env : StEnv) (hashError : Option String) : List UInt64 → Option String
  | [] => hashError
  | num :: nums => env.recordLookups ((env.getHash num).2.or hashError) nums

/-- The `vmContext` of `Apply`: `core.CanTransfer`, `core.Transfer`, `getHash`, and the
coinbase, gas limit, number, timestamp, base fee and random value of the prestate's environment,
the last as the hash `common.BigToHash` makes of it. -/
def Prestate.vmContext (pre : Prestate) : BlockContext :=
  ⟨canTransfer, transfer, fun num => (pre.env.getHash num).1, pre.env.coinbase, pre.env.gasLimit,
    pre.env.number, pre.env.timestamp, pre.env.baseFee, pre.env.random.map (BitVec.ofNat 256)⟩

/-- The block hash `Apply` stamps on logs, `common.Hash{0x13, 0x37}`. -/
def blockHash : Hash := BitVec.ofNat 256 (0x1337 * 2 ^ 240)

/-- Modelled from the spec: `Commit` then `state.New` at the root. The reopened StateDB holds
the committed accounts (finalised, with the empty ones dropped when `deleteEmptyObjects`) and
nothing of the transaction-scoped data. -/
def commitAndReopen (deleteEmptyObjects : Bool) (s : StateDB) : StateDB :=
  ⟨{ World.empty with accounts := (s.finalise deleteEmptyObjects).world.accounts }, [], 0, 0⟩

/-- One iteration of the loop of `MakePreState`: write the allocated account's code, nonce and
balance, then its storage slot by slot. -/
def allocAccount (keccak256Hash : Bytes → Hash) (s : StateDB) (entry : Address × GenesisAccount) :
    StateDB :=
  let addr := entry.1
  let a := entry.2
  let s := ((s.apply (.setCode addr a.code (keccak256Hash a.code))).apply
    (.setNonce addr a.nonce)).apply (.setBalance addr a.balance)
  a.storage.foldl (fun s kv => s.apply (.setState addr kv.1 kv.2)) s

/-- `MakePreState`: write each allocated account, then commit and reopen. -/
def makePreState (keccak256Hash : Bytes → Hash) (accounts : GenesisAlloc) : StateDB :=
  commitAndReopen false (accounts.foldl (allocAccount keccak256Hash) StateDB.empty)

/-- What the loop of `Apply` carries: the StateDB, the pool's gas, the rejected and the included
transactions, the gas used, the receipts, the count of included transactions and `hashError`. -/
structure ApplyState where
  statedb : StateDB
  gaspool : UInt64
  rejectedTxs : List RejectedTx
  includedTxs : List Transaction
  gasUsed : UInt64
  receipts : List Receipt
  txIndex : Nat
  hashError : Option String

section Loop

variable (env : Env) (pre : Prestate) (getTracerFn : Nat → Hash → Except String Unit)

/-- One iteration of the loop of `Apply`, for input transaction `i`. -/
def applyTx (i : Nat) (tx : Transaction) (σ : ApplyState) : Except ApplyError ApplyState :=
  let hash := env.digests.txHash tx
  match transactionToMessage env.sender tx pre.env.baseFee with
  | .error e => .ok { σ with rejectedTxs := σ.rejectedTxs ++ [⟨i, e⟩] }
  | .ok msg =>
    match getTracerFn σ.txIndex hash with
    | .error e => .error (.tracer e)
    | .ok () =>
      let statedb := σ.statedb.setTxContext hash σ.txIndex
      let zvm := env.vmConfig.newZVM pre.vmContext (newZVMTxContext msg)
      let o := env.applyMessage zvm msg σ.gaspool statedb
      let hashError := pre.env.recordLookups σ.hashError o.hashLookups
      match o.result with
      | .error e =>
        .ok { σ with statedb := o.state.revertToSnapshot statedb.snapshot,
                     rejectedTxs := σ.rejectedTxs ++ [⟨i, e⟩], hashError }
      | .ok result =>
        match hashError with
        | some e => .error (.missingBlockhash e)
        | none =>
          let gasUsed := σ.gasUsed + result.usedGas
          let statedb := o.state.finalise true
          let receipt := newReceipt env.digests zvm.crypto zvm.txContext.origin tx msg result
            gasUsed (statedb.getLogs hash pre.env.number blockHash)
          .ok ⟨statedb, o.gas, σ.rejectedTxs, σ.includedTxs ++ [tx], gasUsed,
               σ.receipts ++ [{ receipt with transactionIndex := σ.txIndex }], σ.txIndex + 1,
               none⟩

/-- The loop of `Apply`, from input transaction `i` on. -/
def applyTxs : Nat → List Transaction → ApplyState → Except ApplyError ApplyState
  | _, [], σ => .ok σ
  | i, tx :: txs, σ =>
    match applyTx env pre getTracerFn i tx σ with
    | .error e => .error e
    | .ok σ' => applyTxs (i + 1) txs σ'

end Loop

/-- `Prestate.Apply`, with `commit` the database's `Commit`, which returns the state root. -/
def Prestate.apply (pre : Prestate) (env : Env) (txs : List Transaction) (miningReward : Int)
    (getTracerFn : Nat → Hash → Except String Unit) (commit : StateDB → Except String Hash) :
    Except ApplyError (StateDB × ExecutionResult) :=
  let statedb := makePreState env.vmConfig.crypto.keccak256Hash pre.pre
  match applyTxs env pre getTracerFn 0 txs ⟨statedb, pre.env.gasLimit, [], [], 0, [], 0, none⟩ with
  | .error e => .error e
  | .ok σ =>
    let statedb := σ.statedb.finalise true
    let statedb :=
      if 0 ≤ miningReward then statedb.apply (.addBalance pre.env.coinbase miningReward)
      else statedb
    let statedb := (pre.env.withdrawals.getD []).foldl
      (fun s w => s.apply (.addBalance w.address (w.amount.toNat * gPlanck))) statedb
    match commit statedb with
    | .error e => .error (.qrvm ("could not commit state: " ++ e))
    | .ok root =>
      .ok (commitAndReopen true statedb,
        { stateRoot := root, txRoot := env.digests.deriveShaTxs σ.includedTxs,
          receiptRoot := env.digests.deriveShaReceipts σ.receipts,
          bloom := env.digests.createBloom σ.receipts,
          logsHash := env.digests.logsHash statedb.world.logs, receipts := σ.receipts,
          rejected := σ.rejectedTxs, gasUsed := σ.gasUsed, baseFee := pre.env.baseFee,
          withdrawalsRoot := pre.env.withdrawals.map env.digests.deriveShaWithdrawals })

/-! ### One transaction -/

/-- `σ'` is `σ` with input transaction `i` rejected for `e`: the world and the journal of the
StateDB, the pool, the receipts, the gas used, the count and the included transactions are as
they were, and one rejection is recorded. -/
structure Rejected (i : Nat) (e : String) (σ σ' : ApplyState) : Prop where
  world : σ'.statedb.world = σ.statedb.world
  journal : σ'.statedb.journal = σ.statedb.journal
  gaspool : σ'.gaspool = σ.gaspool
  receipts : σ'.receipts = σ.receipts
  gasUsed : σ'.gasUsed = σ.gasUsed
  txIndex : σ'.txIndex = σ.txIndex
  includedTxs : σ'.includedTxs = σ.includedTxs
  rejectedTxs : σ'.rejectedTxs = σ.rejectedTxs ++ [⟨i, e⟩]

/-- `σ'` is `σ` with `tx` included under receipt `r`: the receipt of `tx`, indexed by the count
of included transactions, whose cumulative gas is the new total, a pool that lost the gas it
used, and a StateDB that journaled writes from `σ`'s, in the transaction's context, then
`Finalise` reached. -/
structure Included (txHash : Transaction → Hash) (tx : Transaction) (σ σ' : ApplyState)
    (r : Receipt) : Prop where
  statedb : ∃ s, (σ.statedb.setTxContext (txHash tx) σ.txIndex).Extends s ∧
    σ'.statedb = s.finalise true
  rejectedTxs : σ'.rejectedTxs = σ.rejectedTxs
  includedTxs : σ'.includedTxs = σ.includedTxs ++ [tx]
  receipts : σ'.receipts = σ.receipts ++ [r]
  txHash : r.txHash = txHash tx
  transactionIndex : r.transactionIndex = σ.txIndex
  cumulativeGasUsed : r.cumulativeGasUsed = σ'.gasUsed
  gasUsed : σ'.gasUsed = σ.gasUsed + r.gasUsed
  gaspool : σ'.gaspool.toNat + r.gasUsed.toNat = σ.gaspool.toNat
  count : σ'.txIndex = σ.txIndex + 1

section Loop

variable {env : Env} {pre : Prestate} {getTracerFn : Nat → Hash → Except String Unit}
  {i : Nat} {tx : Transaction} {σ σ' : ApplyState}

lemma applyTx_spec (h : applyTx env pre getTracerFn i tx σ = .ok σ') :
    (∃ e, Rejected i e σ σ') ∨ ∃ r, Included env.digests.txHash tx σ σ' r := by
  simp only [applyTx] at h
  split at h
  · cases h
    exact .inl ⟨_, rfl, rfl, rfl, rfl, rfl, rfl, rfl, rfl⟩
  split at h
  · cases h
  split at h
  · rename_i e _
    cases h
    exact .inl ⟨e, by rw [MsgOutcome.revert_state]; rfl, by rw [MsgOutcome.revert_state]; rfl, rfl,
      rfl, rfl, rfl, rfl, rfl⟩
  split at h
  · cases h
  · rename_i hres _ _
    cases h
    exact .inr ⟨_, ⟨_, MsgOutcome.journaled _, rfl⟩, rfl, rfl, rfl, rfl, rfl, rfl, rfl,
      (env.applyMessage _ _ σ.gaspool _).gas_used _ hres, rfl⟩

lemma applyTx_of_result_error {msg : Message} {e : String}
    (hm : transactionToMessage env.sender tx pre.env.baseFee = .ok msg)
    (ht : getTracerFn σ.txIndex (env.digests.txHash tx) = .ok ())
    (hr : (env.applyMessage (env.vmConfig.newZVM pre.vmContext (newZVMTxContext msg)) msg σ.gaspool
        (σ.statedb.setTxContext (env.digests.txHash tx) σ.txIndex)).result = .error e) :
    ∃ σ', applyTx env pre getTracerFn i tx σ = .ok σ' ∧ Rejected i e σ σ' := by
  simp only [applyTx, hm, ht, hr]
  exact ⟨_, rfl, by rw [MsgOutcome.revert_state]; rfl, by rw [MsgOutcome.revert_state]; rfl, rfl,
    rfl, rfl, rfl, rfl, rfl⟩

lemma applyTx_of_result_ok {msg : Message} {res : GoZond.ExecutionResult}
    (hm : transactionToMessage env.sender tx pre.env.baseFee = .ok msg)
    (ht : getTracerFn σ.txIndex (env.digests.txHash tx) = .ok ())
    (hr : (env.applyMessage (env.vmConfig.newZVM pre.vmContext (newZVMTxContext msg)) msg σ.gaspool
        (σ.statedb.setTxContext (env.digests.txHash tx) σ.txIndex)).result = .ok res)
    (hl : pre.env.recordLookups σ.hashError
        (env.applyMessage (env.vmConfig.newZVM pre.vmContext (newZVMTxContext msg)) msg σ.gaspool
          (σ.statedb.setTxContext (env.digests.txHash tx) σ.txIndex)).hashLookups = none) :
    ∃ σ' r, applyTx env pre getTracerFn i tx σ = .ok σ' ∧ Included env.digests.txHash tx σ σ' r ∧
      r.gasUsed = res.usedGas := by
  simp only [applyTx, hm, ht, hr, hl]
  exact ⟨_, _, rfl, ⟨⟨_, MsgOutcome.journaled _, rfl⟩, rfl, rfl, rfl, rfl, rfl, rfl, rfl,
    MsgOutcome.gas_used _ _ hr, rfl⟩, rfl⟩

end Loop

/-- Why `Apply` rejects input transaction `tx` in state `σ`, with error text `e`:
`TransactionToMessage` fails, or, the tracer made, `ApplyMessage` does. -/
def Rejects (env : Env) (pre : Prestate) (getTracerFn : Nat → Hash → Except String Unit)
    (tx : Transaction) (σ : ApplyState) (e : String) : Prop :=
  transactionToMessage env.sender tx pre.env.baseFee = .error e ∨
    ∃ msg, transactionToMessage env.sender tx pre.env.baseFee = .ok msg ∧
      getTracerFn σ.txIndex (env.digests.txHash tx) = .ok () ∧
      (env.applyMessage (env.vmConfig.newZVM pre.vmContext (newZVMTxContext msg)) msg σ.gaspool
        (σ.statedb.setTxContext (env.digests.txHash tx) σ.txIndex)).result = .error e

/-- **A rejected transaction leaves no trace.** Whenever `Apply` rejects input transaction `i`,
because it cannot be converted to a message or because `ApplyMessage` fails on it, whatever
`ApplyMessage` wrote before failing, the iteration goes on with the world and the journal of the
StateDB, the gas pool, the receipts, the gas used, the count and the included transactions as
they were, and records the rejection of index `i`. -/
theorem rejected_tx_leaves_no_trace (env : Env) (pre : Prestate)
    (getTracerFn : Nat → Hash → Except String Unit) (i : Nat) (tx : Transaction) (σ : ApplyState)
    (e : String) (h : Rejects env pre getTracerFn tx σ e) :
    ∃ σ', applyTx env pre getTracerFn i tx σ = .ok σ' ∧ Rejected i e σ σ' := by
  rcases h with hm | ⟨msg, hm, ht, hr⟩
  · simp only [applyTx, hm]
    exact ⟨_, rfl, rfl, rfl, rfl, rfl, rfl, rfl, rfl, rfl⟩
  · exact applyTx_of_result_error hm ht hr

/-- A prestate for the examples: no accounts, a gas limit of 60000, no block hashes. -/
def samplePre : Prestate := ⟨⟨0, none, 60000, 1, 0, none, none, none⟩, []⟩

/-- A transfer from `0x01` with 20000 gas, below the intrinsic 21000: the state transition buys
the gas, debiting `0x01` by 20000, before it rejects the message, and `Apply` reverts the
debit. -/
theorem rejected_tx_after_purchase :
    (∃ msg, transactionToMessage transitionEnv.sender (sampleTx 0 20000) samplePre.env.baseFee =
        .ok msg ∧
      (transitionEnv.applyMessage (transitionEnv.vmConfig.newZVM samplePre.vmContext
          (newZVMTxContext msg)) msg 60000 (sampleState.setTxContext
            (transitionEnv.digests.txHash (sampleTx 0 20000)) 0)).state.world.getBalance 1 =
        100000 - 20000) ∧
    Rejects transitionEnv samplePre (fun _ _ => .ok ()) (sampleTx 0 20000)
        ⟨sampleState, 60000, [], [], 0, [], 0, none⟩ errIntrinsicGas ∧
      ∃ σ', applyTx transitionEnv samplePre (fun _ _ => .ok ()) 0 (sampleTx 0 20000)
          ⟨sampleState, 60000, [], [], 0, [], 0, none⟩ = .ok σ' ∧
        Rejected 0 errIntrinsicGas ⟨sampleState, 60000, [], [], 0, [], 0, none⟩ σ' := by
  have h : Rejects transitionEnv samplePre (fun _ _ => .ok ()) (sampleTx 0 20000)
      ⟨sampleState, 60000, [], [], 0, [], 0, none⟩ errIntrinsicGas := .inr ⟨_, rfl, rfl, rfl⟩
  exact ⟨⟨_, rfl, rfl⟩, h, rejected_tx_leaves_no_trace transitionEnv samplePre _ 0 _ _ _ h⟩

/-! ### The whole loop -/

/-- The input indices `0..n-1` split into `inc` and `rej`: each occurs in exactly one of them,
once, and each list is increasing. -/
def Split (n : Nat) (inc rej : List Nat) : Prop :=
  inc.Sorted (· < ·) ∧ rej.Sorted (· < ·) ∧ (inc ++ rej).Perm (List.range n)

lemma split_zero : Split 0 [] [] := ⟨List.sorted_nil, List.sorted_nil, by simp⟩

namespace Split

variable {n : Nat} {inc rej : List Nat}

lemma lt (h : Split n inc rej) {k : Nat} (hk : k ∈ inc ++ rej) : k < n :=
  List.mem_range.1 (h.2.2.mem_iff.1 hk)

lemma sorted_snoc {l : List Nat} (hl : l.Sorted (· < ·)) (hlt : ∀ k ∈ l, k < n) :
    (l ++ [n]).Sorted (· < ·) :=
  List.pairwise_append.2 ⟨hl, List.sorted_singleton n, fun a ha b hb => by
    rw [List.mem_singleton.1 hb]; exact hlt a ha⟩

lemma snoc_included (h : Split n inc rej) : Split (n + 1) (inc ++ [n]) rej := by
  refine ⟨sorted_snoc h.1 fun k hk => h.lt (List.mem_append_left _ hk), h.2.1, ?_⟩
  rw [List.range_succ, List.append_assoc]
  exact (List.perm_append_comm.append_left inc).trans
    (by rw [← List.append_assoc]; exact h.2.2.append_right [n])

lemma snoc_rejected (h : Split n inc rej) : Split (n + 1) inc (rej ++ [n]) := by
  refine ⟨h.1, sorted_snoc h.2.1 fun k hk => h.lt (List.mem_append_right _ hk), ?_⟩
  rw [List.range_succ, ← List.append_assoc]
  exact h.2.2.append_right [n]

end Split

/-- What holds once `Apply` has gone through the input transactions `done` with a pool that
started at `gasLimit`: the input indices split into included and rejected ones, the included
transactions are those at the included indices, and their receipts are kept as `Process` keeps
them. -/
structure Inv (txHash : Transaction → Hash) (gasLimit : UInt64) (done : List Transaction)
    (σ : ApplyState) : Prop where
  split : ∃ inc, Split done.length inc (σ.rejectedTxs.map RejectedTx.index) ∧
    σ.includedTxs.map some = inc.map (done[·]?)
  receipts : MatchTxs txHash σ.includedTxs σ.receipts
  txIndex : σ.txIndex = σ.receipts.length
  gas : GasBook gasLimit σ.receipts σ.gasUsed σ.gaspool

lemma inv_init (txHash : Transaction → Hash) (gasLimit : UInt64) (statedb : StateDB) :
    Inv txHash gasLimit [] ⟨statedb, gasLimit, [], [], 0, [], 0, none⟩ :=
  ⟨⟨[], split_zero, rfl⟩, matchTxs_nil txHash, rfl, GasBook.init gasLimit⟩

lemma map_getElem?_append {done : List Transaction} {inc : List Nat}
    (h : ∀ k ∈ inc, k < done.length) (txs : List Transaction) :
    inc.map ((done ++ txs)[·]?) = inc.map (done[·]?) :=
  List.map_congr_left fun k hk => List.getElem?_append_left (h k hk)

section Loop

variable {env : Env} {pre : Prestate} {getTracerFn : Nat → Hash → Except String Unit}
  {gasLimit : UInt64}

lemma Inv.step {done : List Transaction} {tx : Transaction} {σ σ' : ApplyState}
    (hi : Inv env.digests.txHash gasLimit done σ)
    (h : applyTx env pre getTracerFn done.length tx σ = .ok σ') :
    Inv env.digests.txHash gasLimit (done ++ [tx]) σ' := by
  obtain ⟨inc, hs, hinc⟩ := hi.split
  have hlt : ∀ k ∈ inc, k < done.length := fun k hk => hs.lt (List.mem_append_left _ hk)
  rcases applyTx_spec h with ⟨e, hr⟩ | ⟨r, hr⟩
  · -- rejected: one more rejection, the rest as it was
    refine ⟨⟨inc, by simpa [hr.rejectedTxs] using hs.snoc_rejected, ?_⟩, ?_, ?_, ?_⟩
    · rw [hr.includedTxs, hinc, map_getElem?_append hlt]
    all_goals simp only [hr.includedTxs, hr.receipts, hr.txIndex, hr.gasUsed, hr.gaspool]
    exacts [hi.receipts, hi.txIndex, hi.gas]
  · -- included: one more receipt, with the pool bounding the new total
    refine ⟨⟨inc ++ [done.length], by simpa [hr.rejectedTxs] using hs.snoc_included, ?_⟩, ?_, ?_,
      ?_⟩
    · simp [hr.includedTxs, hinc, map_getElem?_append hlt]
    · rw [hr.includedTxs, hr.receipts]
      exact hi.receipts.snoc hr.txHash (hr.transactionIndex.trans hi.txIndex)
    · simp [hr.count, hr.receipts, hi.txIndex]
    · rw [hr.receipts]
      exact hi.gas.snoc hr.cumulativeGasUsed hr.gasUsed hr.gaspool

lemma applyTxs_induction (P : List Transaction → ApplyState → Prop)
    (step : ∀ {done tx σ σ'}, P done σ →
      applyTx env pre getTracerFn done.length tx σ = .ok σ' → P (done ++ [tx]) σ')
    (txs done : List Transaction) {σ σ' : ApplyState} (hi : P done σ)
    (h : applyTxs env pre getTracerFn done.length txs σ = .ok σ') : P (done ++ txs) σ' := by
  induction txs generalizing done σ with
  | nil =>
    cases h
    simpa using hi
  | cons tx txs ih =>
    simp only [applyTxs] at h
    split at h
    · cases h
    rename_i σ₁ h₁
    rw [show done.length + 1 = (done ++ [tx]).length by simp] at h
    simpa using ih _ (step hi h₁) h

lemma applyTxs_induction_mem (P : List Transaction → ApplyState → Prop) (txs : List Transaction)
    (step : ∀ {done tx σ σ'}, tx ∈ txs → P done σ →
      applyTx env pre getTracerFn done.length tx σ = .ok σ' → P (done ++ [tx]) σ')
    {σ σ' : ApplyState} (hi : P [] σ) (h : applyTxs env pre getTracerFn 0 txs σ = .ok σ') :
    P txs σ' :=
  applyTxs_induction (fun done σ => done <+: txs → P done σ)
    (fun ih h hpre => step (hpre.subset (by simp)) (ih ((List.prefix_append _ _).trans hpre)) h)
    txs [] (fun _ => hi) h (List.prefix_refl _)

lemma Inv.run (txs : List Transaction) {done : List Transaction} {σ σ' : ApplyState}
    (hi : Inv env.digests.txHash gasLimit done σ)
    (h : applyTxs env pre getTracerFn done.length txs σ = .ok σ') :
    Inv env.digests.txHash gasLimit (done ++ txs) σ' :=
  applyTxs_induction _ Inv.step txs done hi h

end Loop

lemma Prestate.apply_spec {pre : Prestate} {env : Env} {txs : List Transaction}
    {miningReward : Int} {getTracerFn : Nat → Hash → Except String Unit}
    {commit : StateDB → Except String Hash} {statedb : StateDB} {result : ExecutionResult}
    (h : pre.apply env txs miningReward getTracerFn commit = .ok (statedb, result)) :
    ∃ σ : ApplyState, Inv env.digests.txHash pre.env.gasLimit txs σ ∧
      result.receipts = σ.receipts ∧ result.rejected = σ.rejectedTxs ∧
      result.gasUsed = σ.gasUsed ∧ result.txRoot = env.digests.deriveShaTxs σ.includedTxs := by
  simp only [Prestate.apply] at h
  split at h
  · cases h
  rename_i σ hσ
  split at h
  · cases h
  cases h
  exact ⟨σ, by simpa using (inv_init env.digests.txHash pre.env.gasLimit _).run txs hσ,
    rfl, rfl, rfl, rfl⟩

/-- **Every input transaction is accounted for once.** When `Apply` returns without error, the
input indices split into the included transactions and the rejected ones, each index once and
both in increasing order, and the transaction root is taken over exactly the included
transactions; there is one receipt per included transaction, receipt `k` with the hash of the
`k`-th included transaction, index `k`, and cumulative gas the gas used by receipts `0..k`; and
the gas used is the sum over all receipts. -/
theorem apply_accounts_each_tx (pre : Prestate) (env : Env) (txs : List Transaction)
    (miningReward : Int) (getTracerFn : Nat → Hash → Except String Unit)
    (commit : StateDB → Except String Hash) (statedb : StateDB) (result : ExecutionResult)
    (h : pre.apply env txs miningReward getTracerFn commit = .ok (statedb, result)) :
    ∃ inc included, Split txs.length inc (result.rejected.map RejectedTx.index) ∧
      included.map some = inc.map (txs[·]?) ∧ result.txRoot = env.digests.deriveShaTxs included ∧
      MatchTxs env.digests.txHash included result.receipts ∧ Cumulative result.receipts ∧
      result.gasUsed.toNat = gasSum result.receipts := by
  obtain ⟨σ, hi, hrc, hrej, hgu, hroot⟩ := Prestate.apply_spec h
  obtain ⟨inc, hs, hinc⟩ := hi.split
  rw [hrc, hrej, hgu]
  exact ⟨inc, σ.includedTxs, hs, hinc, hroot, hi.receipts, hi.gas.cumulative, hi.gas.used_eq⟩

/-- Three transfers under a gas limit of 60000: the second, asking for 50000 gas when 39000 are
left, is rejected between two included ones. -/
theorem apply_accounts_three_txs :
    ∃ statedb result,
      samplePre.apply sampleEnv [sampleTx 0 21000, sampleTx 1 50000, sampleTx 2 30000]
        0 (fun _ _ => .ok ()) (fun _ => .ok 0) = .ok (statedb, result) ∧
      ∃ inc included, Split 3 inc (result.rejected.map RejectedTx.index) ∧
        included.map some = inc.map ([sampleTx 0 21000, sampleTx 1 50000, sampleTx 2 30000][·]?) ∧
        result.txRoot = sampleEnv.digests.deriveShaTxs included ∧
        MatchTxs sampleEnv.digests.txHash included result.receipts ∧ Cumulative result.receipts ∧
        result.gasUsed.toNat = gasSum result.receipts :=
  ⟨_, _, rfl, apply_accounts_each_tx samplePre sampleEnv
    [sampleTx 0 21000, sampleTx 1 50000, sampleTx 2 30000] 0 (fun _ _ => .ok ()) (fun _ => .ok 0)
    _ _ rfl⟩

/-- **`Apply` stays within the block's gas limit.** The gas used it reports, and every
receipt's cumulative gas, are at most the prestate's gas limit. -/
theorem apply_gas_within_limit (pre : Prestate) (env : Env) (txs : List Transaction)
    (miningReward : Int) (getTracerFn : Nat → Hash → Except String Unit)
    (commit : StateDB → Except String Hash) (statedb : StateDB) (result : ExecutionResult)
    (h : pre.apply env txs miningReward getTracerFn commit = .ok (statedb, result)) :
    result.gasUsed.toNat ≤ pre.env.gasLimit.toNat ∧
      ∀ r ∈ result.receipts, r.cumulativeGasUsed.toNat ≤ pre.env.gasLimit.toNat := by
  obtain ⟨σ, hi, hrc, -, hgu, -⟩ := Prestate.apply_spec h
  rw [hrc, hgu]
  exact ⟨hi.gas.le, fun _ hr => hi.gas.cumulative_le hr⟩

/-- The three transfers use 51000 of the 60000 gas. -/
theorem apply_gas_within_limit_three_txs :
    ∃ statedb result,
      samplePre.apply sampleEnv [sampleTx 0 21000, sampleTx 1 50000, sampleTx 2 30000]
        0 (fun _ _ => .ok ()) (fun _ => .ok 0) = .ok (statedb, result) ∧
      result.gasUsed.toNat ≤ samplePre.env.gasLimit.toNat ∧
      ∀ r ∈ result.receipts, r.cumulativeGasUsed.toNat ≤ samplePre.env.gasLimit.toNat :=
  ⟨_, _, rfl, apply_gas_within_limit samplePre sampleEnv
    [sampleTx 0 21000, sampleTx 1 50000, sampleTx 2 30000] 0 (fun _ _ => .ok ()) (fun _ => .ok 0)
    _ _ rfl⟩

/-! ### Rejections are invisible -/

/-- Two loop states agree on what the rest of the loop reads and what `Apply` returns of them,
rejections apart: the world and journal of the StateDB, the pool, the receipts, the gas used,
the count and the included transactions. -/
structure Agree (σ τ : ApplyState) : Prop where
  world : σ.statedb.world = τ.statedb.world
  journal : σ.statedb.journal = τ.statedb.journal
  gaspool : σ.gaspool = τ.gaspool
  receipts : σ.receipts = τ.receipts
  gasUsed : σ.gasUsed = τ.gasUsed
  txIndex : σ.txIndex = τ.txIndex
  includedTxs : σ.includedTxs = τ.includedTxs

lemma Agree.refl (σ : ApplyState) : Agree σ σ := ⟨rfl, rfl, rfl, rfl, rfl, rfl, rfl⟩

lemma Agree.trans {σ τ υ : ApplyState} (h : Agree σ τ) (h' : Agree τ υ) : Agree σ υ :=
  ⟨h.world.trans h'.world, h.journal.trans h'.journal, h.gaspool.trans h'.gaspool,
    h.receipts.trans h'.receipts, h.gasUsed.trans h'.gasUsed, h.txIndex.trans h'.txIndex,
    h.includedTxs.trans h'.includedTxs⟩

lemma Rejected.agree {i : Nat} {e : String} {σ σ' τ : ApplyState} (hr : Rejected i e σ σ')
    (hag : Agree σ τ) : Agree σ' τ :=
  ⟨hr.world.trans hag.world, hr.journal.trans hag.journal, hr.gaspool.trans hag.gaspool,
    hr.receipts.trans hag.receipts, hr.gasUsed.trans hag.gasUsed, hr.txIndex.trans hag.txIndex,
    hr.includedTxs.trans hag.includedTxs⟩

lemma StEnv.recordLookups_eq_none {env : StEnv} {hashError : Option String} {nums : List UInt64}
    (h : env.recordLookups hashError nums = none) : hashError = none := by
  induction nums generalizing hashError with
  | nil => exact h
  | cons num nums ih => exact (Option.or_eq_none.1 (ih h)).2

lemma StEnv.recordLookups_of_provided {env : StEnv} (hashError : Option String) {nums : List UInt64}
    (hh : ∀ num ∈ nums, (env.getHash num).2 = none) :
    env.recordLookups hashError nums = hashError := by
  induction nums generalizing hashError with
  | nil => rfl
  | cons num nums ih =>
    simp only [StEnv.recordLookups, hh num (List.mem_cons_self _ _), Option.none_or]
    exact ih _ fun n hn => hh n (List.mem_cons_of_mem _ hn)

section Loop

variable {env : Env} {pre : Prestate} {getTracerFn : Nat → Hash → Except String Unit}

lemma applyTx_agree_of_included {i j : Nat} {tx : Transaction} {σ σ' τ : ApplyState}
    (hag : Agree σ τ) (hτ : τ.hashError = none) (h : applyTx env pre getTracerFn i tx σ = .ok σ')
    (hinc : σ'.includedTxs = σ.includedTxs ++ [tx]) :
    ∃ τ', applyTx env pre getTracerFn j tx τ = .ok τ' ∧ Agree σ' τ' ∧ τ'.hashError = none ∧
      τ'.rejectedTxs = τ.rejectedTxs := by
  obtain ⟨⟨w, jr, th, ti⟩, gp, rej, inc, gu, rc, k, he⟩ := τ
  obtain ⟨hw, hj, hgp, hrc, hgu, hk, hinc'⟩ := hag
  dsimp only at hw hj hgp hrc hgu hk hinc' hτ
  subst hw hj hgp hrc hgu hk hinc' hτ
  simp only [applyTx] at h ⊢
  split at h
  · cases h
    simp at hinc
  split at h
  · cases h
  have hs : (⟨σ.statedb.world, σ.statedb.journal, th, ti⟩ : StateDB).setTxContext
      (env.digests.txHash tx) σ.txIndex =
        σ.statedb.setTxContext (env.digests.txHash tx) σ.txIndex :=
    rfl
  rw [hs]
  split at h
  · cases h
    simp at hinc
  split at h
  · cases h
  rename_i hhe
  rw [StEnv.recordLookups_eq_none hhe] at hhe
  simp only [hhe]
  cases h
  exact ⟨_, rfl, ⟨rfl, rfl, rfl, rfl, rfl, rfl, rfl⟩, rfl, rfl⟩

lemma Agree.run (txs : List Transaction) {i j : Nat} {σ σ' τ : ApplyState} (hag : Agree σ τ)
    (hτ : τ.hashError = none) (h : applyTxs env pre getTracerFn i txs σ = .ok σ') :
    ∃ inc τ', σ'.includedTxs = σ.includedTxs ++ inc ∧
      applyTxs env pre getTracerFn j inc τ = .ok τ' ∧ Agree σ' τ' ∧
      τ'.rejectedTxs = τ.rejectedTxs := by
  induction txs generalizing i j σ τ with
  | nil =>
    cases h
    exact ⟨[], τ, by simp, rfl, hag, rfl⟩
  | cons tx txs ih =>
    simp only [applyTxs] at h
    split at h
    · cases h
    rename_i σ₁ h₁
    rcases applyTx_spec h₁ with ⟨e, hr⟩ | ⟨r, hr⟩
    · -- rejected: the other loop does nothing
      obtain ⟨inc, τ', hinc, hrun, hag', hrej⟩ := ih (hr.agree hag) hτ h (j := j)
      exact ⟨inc, τ', by rw [hinc, hr.includedTxs], hrun, hag', hrej⟩
    · -- included: the other loop includes it too
      obtain ⟨τ₁, hτ₁, hag₁, hne, hrej₁⟩ :=
        applyTx_agree_of_included hag hτ h₁ hr.includedTxs (j := j)
      obtain ⟨inc, τ', hinc, hrun, hag', hrej⟩ := ih hag₁ hne h (j := j + 1)
      refine ⟨tx :: inc, τ', by simp [hinc, hr.includedTxs], ?_, hag', hrej.trans hrej₁⟩
      simp only [applyTxs, hτ₁]
      exact hrun

end Loop

/-- **Rejected transactions are invisible.** When `Apply`'s loop returns, from a state that
records no hash error, running the loop from the same state on the transactions it included,
and on those alone, includes each of them and ends with the same world and journal, gas pool,
receipts, gas used, count and included transactions, and no further rejection. -/
theorem rejections_invisible (env : Env) (pre : Prestate)
    (getTracerFn : Nat → Hash → Except String Unit) (txs : List Transaction) (i j : Nat)
    (σ σ' : ApplyState) (hσ : σ.hashError = none)
    (h : applyTxs env pre getTracerFn i txs σ = .ok σ') :
    ∃ inc τ', σ'.includedTxs = σ.includedTxs ++ inc ∧
      applyTxs env pre getTracerFn j inc σ = .ok τ' ∧ Agree σ' τ' ∧
      τ'.rejectedTxs = σ.rejectedTxs :=
  Agree.run txs (Agree.refl σ) hσ h

/-- Dropping the rejected middle transfer of the three changes nothing but the rejections. -/
theorem rejections_invisible_three_txs :
    ∃ σ', applyTxs sampleEnv samplePre (fun _ _ => .ok ()) 0
        [sampleTx 0 21000, sampleTx 1 50000, sampleTx 2 30000]
        ⟨StateDB.empty, 60000, [], [], 0, [], 0, none⟩ = .ok σ' ∧
      ∃ inc τ', σ'.includedTxs = [] ++ inc ∧
        applyTxs sampleEnv samplePre (fun _ _ => .ok ()) 0 inc
          ⟨StateDB.empty, 60000, [], [], 0, [], 0, none⟩ = .ok τ' ∧
        Agree σ' τ' ∧ τ'.rejectedTxs = [] :=
  ⟨_, rfl, rejections_invisible sampleEnv samplePre (fun _ _ => .ok ())
    [sampleTx 0 21000, sampleTx 1 50000, sampleTx 2 30000] 0 0
    ⟨StateDB.empty, 60000, [], [], 0, [], 0, none⟩ _ rfl rfl⟩

/-! ### A failed lookup ends inclusion -/

section Loop

variable {env : Env} {pre : Prestate} {getTracerFn : Nat → Hash → Except String Unit}

lemma applyTx_of_hashError {i : Nat} {tx : Transaction} {σ σ' : ApplyState}
    (hσ : σ.hashError ≠ none) (h : applyTx env pre getTracerFn i tx σ = .ok σ') :
    σ'.hashError ≠ none ∧ σ'.includedTxs = σ.includedTxs := by
  simp only [applyTx] at h
  split at h
  · cases h
    exact ⟨hσ, rfl⟩
  split at h
  · cases h
  split at h
  · cases h
    exact ⟨fun hn => hσ (StEnv.recordLookups_eq_none hn), rfl⟩
  split at h
  · cases h
  · exact absurd (StEnv.recordLookups_eq_none ‹_›) hσ

end Loop

/-- **A failed block-hash lookup ends inclusion.** Once `hashError` is set, by a lookup of any
transaction, a rejected one included, the loop includes no further transaction: a run that
returns rejects every remaining input, in order, keeps the world and journal, the pool, the
receipts, the gas used, the count and the included transactions, and still records the error;
the first message `ApplyMessage` accepts makes `Apply` fail with `ErrorMissingBlockhash`. -/
theorem hash_error_ends_inclusion (env : Env) (pre : Prestate)
    (getTracerFn : Nat → Hash → Except String Unit) (txs : List Transaction) (i : Nat)
    (σ σ' : ApplyState) (hσ : σ.hashError ≠ none)
    (h : applyTxs env pre getTracerFn i txs σ = .ok σ') :
    Agree σ' σ ∧ σ'.hashError ≠ none ∧
      σ'.rejectedTxs.map RejectedTx.index =
        σ.rejectedTxs.map RejectedTx.index ++ List.range' i txs.length := by
  induction txs generalizing i σ with
  | nil =>
    cases h
    exact ⟨Agree.refl σ', hσ, by simp⟩
  | cons tx txs ih =>
    simp only [applyTxs] at h
    split at h
    · cases h
    rename_i σ₁ h₁
    obtain ⟨hne, hinc⟩ := applyTx_of_hashError hσ h₁
    obtain ⟨e, hr⟩ := (applyTx_spec h₁).resolve_right fun ⟨_, hr⟩ => by
      simpa [hinc] using hr.includedTxs
    obtain ⟨hag, hne', hrej⟩ := ih (i + 1) σ₁ hne h
    exact ⟨hag.trans (hr.agree (Agree.refl σ)), hne', by
      simp [hrej, hr.rejectedTxs, List.range'_succ]⟩

/-- A loop state whose hash error an earlier transaction left, with 10000 gas in the pool. -/
def lookupFailedState : ApplyState :=
  ⟨StateDB.empty, 10000, [], [], 0, [], 0, some "getHash(1) invoked, no blockhashes provided"⟩

/-- A transfer asking for more gas than is left is rejected; nothing is included. -/
theorem hash_error_ends_inclusion_sampleTx :
    lookupFailedState.hashError ≠ none ∧
      ∃ σ', applyTxs sampleEnv samplePre (fun _ _ => .ok ()) 0 [sampleTx 0 21000]
          lookupFailedState = .ok σ' ∧
        Agree σ' lookupFailedState ∧ σ'.hashError ≠ none ∧
        σ'.rejectedTxs.map RejectedTx.index =
          lookupFailedState.rejectedTxs.map RejectedTx.index ++ List.range' 0 1 :=
  ⟨by decide, _, rfl, hash_error_ends_inclusion sampleEnv samplePre (fun _ _ => .ok ())
    [sampleTx 0 21000] 0 lookupFailedState _ (by decide) rfl⟩

example : ∃ e, applyTxs sampleEnv samplePre (fun _ _ => .ok ()) 0 [sampleTx 0 5000]
    lookupFailedState = .error (.missingBlockhash e) := ⟨_, rfl⟩

end GoZond.T8n
