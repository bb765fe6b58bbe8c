import GoZond.T8n.Execution

/-!
The transition tool against the block processor.

`Prestate.Apply` of the transition tool and `StateProcessor.Process` run the same loop over a
block's transactions: convert, set the transaction context, apply the message on a ZVM reset to
its transaction context, finalise, add the gas used, build the receipt. They differ where a
transaction cannot be used (the tool rejects it and goes on, the processor aborts the block),
in the hash lookups the tool records, and in how receipts and logs are stamped into a block.

When the prestate describes the block (the fields it puts in its context are the header's),
gives the chain's hash of every block a message run looks up, and every tracer is made, the two
agree, provided `ApplyMessage` reads block hashes only where it looks them up: `Process` accepts
the block exactly when the tool rejects none of its transactions, and then both end in the same
StateDB, pool and gas used with the same receipts up to the block stamps; otherwise `Process`
fails at the tool's first rejected transaction, with the same error.
-/

namespace GoZond

/-- A log without the block it was stamped into. -/
def Log.unstamped (l : Log) : Log := { l with blockNumber := 0, blockHash := 0 }

/-- A receipt without what stamps it into a block: its block hash and number, its logs' block
hash and number, and the bloom, a digest of those logs. -/
def Receipt.unstamped (r : Receipt) : Receipt :=
  { r with bloom := 0, logs := r.logs.map Log.unstamped, blockHash := 0, blockNumber := none }

lemma unstamped_getLogs (s : StateDB) (hash : Hash) (n n' : UInt64) (bh bh' : Hash) :
    (s.getLogs hash n bh).map Log.unstamped = (s.getLogs hash n' bh').map Log.unstamped := by
  simp [StateDB.getLogs, Log.unstamped]

lemma unstamped_newReceipt (digests : Digests) (crypto : Crypto) (origin : Address)
    (tx : Transaction) (msg : Message) (result : ExecutionResult) (cum : UInt64)
    {logs logs' : List Log} (hl : logs.map Log.unstamped = logs'.map Log.unstamped)
    (bh : Hash) (n : UInt64) (i : Nat) :
    Receipt.unstamped { newReceipt digests crypto origin tx msg result cum logs with
      blockHash := bh, blockNumber := some n, transactionIndex := i } =
    Receipt.unstamped { newReceipt digests crypto origin tx msg result cum logs' with
      transactionIndex := i } := by
  simp only [Receipt.unstamped, newReceipt, hl]

@[simp] lemma VmConfig.newZVM_txContext (e : VmConfig) (b : BlockContext) (t t' : TxContext) :
    { e.newZVM b t with txContext := t' } = e.newZVM b t' := rfl

namespace T8n

/-- Every block a message run in the prestate's context looks up has its hash in the prestate,
and it is `getHash`'s. -/
def Prestate.ProvidesHashes (pre : Prestate) (env : Env) (getHash : UInt64 → Hash) : Prop :=
  ∀ t msg gp s,
    ∀ num ∈ (env.applyMessage (env.vmConfig.newZVM pre.vmContext t) msg gp s).hashLookups,
      pre.env.getHash num = (getHash num, none)

/-- The prestate's environment describes the block `header` that `coinbase` mined: each field
`Apply` copies into its block context is the one `NewZVMBlockContext` takes from the header. -/
structure Prestate.Describes (pre : Prestate) (header : Header) (coinbase : Address) : Prop where
  coinbase : pre.env.coinbase = coinbase
  gasLimit : pre.env.gasLimit = header.gasLimit
  number : pre.env.number = header.number
  timestamp : pre.env.timestamp = header.time
  baseFee : pre.env.baseFee = header.baseFee
  random : pre.env.random.map (BitVec.ofNat 256) = some header.random

lemma Prestate.Describes.vmContext_eq {pre : Prestate} {header : Header}
    {author : Header → Address} (hd : pre.Describes header (author header))
    (getHashFn : Header → UInt64 → Hash) :
    { pre.vmContext with getHash := getHashFn header } =
      newZVMBlockContext header getHashFn author := by
  simp only [Prestate.vmContext, newZVMBlockContext, hd.coinbase, hd.gasLimit, hd.number,
    hd.timestamp, hd.baseFee, hd.random]

section Total

variable (env : Env) {pre : Prestate} {getTracerFn : Nat → Hash → Except String Unit}
  {getHash : UInt64 → Hash}

lemma applyTx_total (hh : pre.ProvidesHashes env getHash)
    (ht : ∀ i h, getTracerFn i h = .ok ()) (i : Nat) (tx : Transaction) {τ : ApplyState}
    (hτ : τ.hashError = none) :
    ∃ τ', applyTx env pre getTracerFn i tx τ = .ok τ' ∧ τ'.hashError = none ∧
      ∃ l, τ'.rejectedTxs = τ.rejectedTxs ++ l := by
  cases hm : transactionToMessage env.sender tx pre.env.baseFee with
  | error e =>
    simp only [applyTx, hm]
    exact ⟨_, rfl, hτ, _, rfl⟩
  | ok msg =>
    simp only [applyTx, hm, ht, StEnv.recordLookups_of_provided _
      fun num hn => congrArg Prod.snd (hh _ _ _ _ num hn), hτ]
    split
    · exact ⟨_, rfl, rfl, _, rfl⟩
    · exact ⟨_, rfl, rfl, [], (List.append_nil _).symm⟩

lemma applyTxs_total (hh : pre.ProvidesHashes env getHash)
    (ht : ∀ i h, getTracerFn i h = .ok ()) (txs : List Transaction) {i : Nat} {τ : ApplyState}
    (hτ : τ.hashError = none) :
    ∃ τ', applyTxs env pre getTracerFn i txs τ = .ok τ' ∧
      ∃ l, τ'.rejectedTxs = τ.rejectedTxs ++ l := by
  induction txs generalizing i τ with
  | nil => exact ⟨τ, rfl, [], (List.append_nil _).symm⟩
  | cons tx txs ih =>
    obtain ⟨τ₁, h₁, hne, l₁, hl₁⟩ := applyTx_total env hh ht i tx hτ
    obtain ⟨τ', h', l, hl⟩ := ih hne
    refine ⟨τ', by simp only [applyTxs, h₁]; exact h', l₁ ++ l, ?_⟩
    rw [hl, hl₁, List.append_assoc]

end Total

/-- A `Process` loop state and a tool loop state in lockstep after the transactions `done`:
the same StateDB, pool and gas used, the same receipts up to their stamps, every transaction
included and none rejected, the tool's count at the processor's index, and no hash error. -/
structure Lockstep (done : List Transaction) (σ : ProcessState) (τ : ApplyState) : Prop where
  statedb : τ.statedb = σ.statedb
  gaspool : τ.gaspool = σ.gp
  gasUsed : τ.gasUsed = σ.usedGas
  receipts : τ.receipts.map Receipt.unstamped = σ.receipts.map Receipt.unstamped
  includedTxs : τ.includedTxs = done
  rejectedTxs : τ.rejectedTxs = []
  txIndex : τ.txIndex = done.length
  hashError : τ.hashError = none

section Lockstep

variable {p : StateProcessor} {header : Header} {pre : Prestate}
  {getTracerFn : Nat → Hash → Except String Unit} (blockHash : Hash)
  (hd : pre.Describes header (p.author header))
  (hh : pre.ProvidesHashes p.env (p.getHashFn header))
  (hloc : ReadsLookedUpHashes p.env.applyMessage)
  (hint : p.env.vmConfig.interpreter.ReadsLookedUpHashes)
include hd hh hloc hint

lemma applyMessage_vmContext (t : TxContext) (msg : Message) (gp : UInt64) (s : StateDB) :
    p.env.applyMessage (p.env.vmConfig.newZVM pre.vmContext t) msg gp s =
      p.env.applyMessage (p.env.vmConfig.newZVM (newZVMBlockContext header p.getHashFn p.author) t)
        msg gp s := by
  rw [← hd.vmContext_eq p.getHashFn]
  exact (hloc _ msg gp s _ hint fun num hn => (congrArg Prod.fst (hh t msg gp s num hn)).symm).symm

variable (ht : ∀ i h, getTracerFn i h = .ok ())
include ht

lemma Lockstep.step {done : List Transaction} (tx : Transaction) {σ : ProcessState}
    {τ : ApplyState} (hl : Lockstep done σ τ) :
    ∃ τ', applyTx p.env pre getTracerFn done.length tx τ = .ok τ' ∧
      (∀ σ', p.processTx header blockHash
          (p.env.vmConfig.newZVM (newZVMBlockContext header p.getHashFn p.author) ⟨0, 0⟩)
          done.length tx σ = .ok σ' → Lockstep (done ++ [tx]) σ' τ') ∧
      (∀ e, p.processTx header blockHash
          (p.env.vmConfig.newZVM (newZVMBlockContext header p.getHashFn p.author) ⟨0, 0⟩)
          done.length tx σ = .error e →
        e.index = done.length ∧ τ'.rejectedTxs = [⟨done.length, e.err⟩] ∧ τ'.hashError = none) := by
  obtain ⟨sdb, gp, rej, inc, gu, rc, k, he⟩ := τ
  obtain ⟨hs, hg, hu, hr, hinc, hrej, hi, hhe⟩ := hl
  dsimp only at hs hg hu hr hinc hrej hi hhe
  subst hs hg hu hrej hi hhe
  cases hm : transactionToMessage p.env.sender tx header.baseFee with
  | error e =>
    simp only [StateProcessor.processTx, applyTx, hd.baseFee, hm]
    exact ⟨_, rfl, (fun _ h => by cases h), fun _ h => by cases h; exact ⟨rfl, rfl, rfl⟩⟩
  | ok msg =>
    have hrec := StEnv.recordLookups_of_provided none fun num hn =>
      congrArg Prod.snd (hh (newZVMTxContext msg) msg σ.gp
        (σ.statedb.setTxContext (p.env.digests.txHash tx) done.length) num hn)
    rw [applyMessage_vmContext hd hh hloc hint] at hrec
    simp only [StateProcessor.processTx, applyTransaction, applyTx, hd.baseFee, hm, ht,
      applyMessage_vmContext hd hh hloc hint, hrec, VmConfig.newZVM_txContext]
    cases hres : (p.env.applyMessage
      (p.env.vmConfig.newZVM (newZVMBlockContext header p.getHashFn p.author) (newZVMTxContext msg))
      msg σ.gp (σ.statedb.setTxContext (p.env.digests.txHash tx) done.length)).result with
    | error e =>
      simp only
      exact ⟨_, rfl, (fun _ h => by cases h), fun _ h => by cases h; exact ⟨rfl, rfl, rfl⟩⟩
    | ok res =>
      simp only
      refine ⟨_, rfl, fun σ' h => ?_, (fun _ h => by cases h)⟩
      cases h
      refine ⟨rfl, rfl, rfl, ?_, by rw [hinc], rfl, by simp, rfl⟩
      simp only [List.map_append, hr, List.map_singleton, MsgOutcome.txIndex_state,
        StateDB.txIndex_finalise, StateDB.txIndex_setTxContext]
      rw [unstamped_newReceipt _ _ _ _ _ _ _ (unstamped_getLogs _ _ _ _ _ _)]
      rfl

lemma Lockstep.run (txs : List Transaction) (done : List Transaction) {σ : ProcessState}
    {τ : ApplyState} (hl : Lockstep done σ τ) :
    ∃ τ', applyTxs p.env pre getTracerFn done.length txs τ = .ok τ' ∧
      (∀ σ', p.processTxs header blockHash
          (p.env.vmConfig.newZVM (newZVMBlockContext header p.getHashFn p.author) ⟨0, 0⟩)
          done.length txs σ = .ok σ' → Lockstep (done ++ txs) σ' τ') ∧
      (∀ e, p.processTxs header blockHash
          (p.env.vmConfig.newZVM (newZVMBlockContext header p.getHashFn p.author) ⟨0, 0⟩)
          done.length txs σ = .error e → τ'.rejectedTxs.head? = some ⟨e.index, e.err⟩) := by
  induction txs generalizing done σ τ with
  | nil => exact ⟨τ, rfl, fun σ' h => by cases h; simpa using hl, fun _ h => by cases h⟩
  | cons tx txs ih =>
    have hlen : done.length + 1 = (done ++ [tx]).length := by simp
    obtain ⟨τ₁, hτ₁, hok, herr⟩ := Lockstep.step blockHash hd hh hloc hint ht tx hl
    simp only [applyTxs, StateProcessor.processTxs, hτ₁, hlen]
    cases hp : p.processTx header blockHash
      (p.env.vmConfig.newZVM (newZVMBlockContext header p.getHashFn p.author) ⟨0, 0⟩)
      done.length tx σ with
    | ok σ₁ =>
      obtain ⟨τ', hrun, hok', herr'⟩ := ih _ (hok σ₁ hp)
      exact ⟨τ', hrun, fun σ' h => by simpa using hok' σ' h, herr'⟩
    | error e =>
      obtain ⟨hidx, hrej, hne⟩ := herr e hp
      obtain ⟨τ', hrun, l, hl'⟩ := applyTxs_total p.env hh ht txs (i := (done ++ [tx]).length) hne
      refine ⟨τ', hrun, (fun _ h => by cases h), fun e' h => ?_⟩
      cases h
      rw [hl', hrej, hidx]
      rfl

end Lockstep

/-- **The transition tool agrees with the block processor.** Let the prestate describe the
block: the coinbase, gas limit, number, time, base fee and random it puts in its context are
the ones the processor takes from the header, and it gives the chain's hash of every block a
message run looks up. Let `ApplyMessage` and the
interpreter read block hashes only where they look them up, and let every tracer be made. Then
the loop of `Apply` over the block's transactions returns, from the StateDB and the gas pool
`Process` starts from; where the loop of `Process` returns, the tool rejects no transaction,
includes them all, and ends with the same StateDB, pool and gas used and the same receipts up
to their block stamps; where `Process` fails, the tool's first rejection is the transaction
`Process` names, with the same error. -/
theorem apply_agrees_with_process (p : StateProcessor) (block : Block) (pre : Prestate)
    (getTracerFn : Nat → Hash → Except String Unit) (statedb : StateDB)
    (hd : pre.Describes block.header (p.author block.header))
    (hh : pre.ProvidesHashes p.env (p.getHashFn block.header))
    (hloc : ReadsLookedUpHashes p.env.applyMessage)
    (hint : p.env.vmConfig.interpreter.ReadsLookedUpHashes) (ht : ∀ i h, getTracerFn i h = .ok ()) :
    ∃ τ, applyTxs p.env pre getTracerFn 0 block.transactions
        ⟨statedb, block.header.gasLimit, [], [], 0, [], 0, none⟩ = .ok τ ∧
      (∀ σ, p.processTxs block.header (p.env.digests.headerHash block.header)
          (p.env.vmConfig.newZVM (newZVMBlockContext block.header p.getHashFn p.author) ⟨0, 0⟩) 0
          block.transactions ⟨statedb, block.header.gasLimit, 0, [], []⟩ = .ok σ →
        τ.rejectedTxs = [] ∧ τ.includedTxs = block.transactions ∧ τ.statedb = σ.statedb ∧
        τ.gaspool = σ.gp ∧ τ.gasUsed = σ.usedGas ∧
        τ.receipts.map Receipt.unstamped = σ.receipts.map Receipt.unstamped) ∧
      (∀ e, p.processTxs block.header (p.env.digests.headerHash block.header)
          (p.env.vmConfig.newZVM (newZVMBlockContext block.header p.getHashFn p.author) ⟨0, 0⟩) 0
          block.transactions ⟨statedb, block.header.gasLimit, 0, [], []⟩ = .error e →
        τ.rejectedTxs.head? = some ⟨e.index, e.err⟩) := by
  obtain ⟨τ, hrun, hok, herr⟩ := Lockstep.run (p.env.digests.headerHash block.header)
    hd hh hloc hint ht block.transactions [] (σ := ⟨statedb, block.header.gasLimit, 0, [], []⟩)
    (τ := ⟨statedb, block.header.gasLimit, [], [], 0, [], 0, none⟩)
    ⟨rfl, rfl, rfl, rfl, rfl, rfl, rfl, rfl⟩
  refine ⟨τ, hrun, fun σ h => ?_, herr⟩
  obtain ⟨hs, hg, hu, hr, hinc, hrej, -, -⟩ := hok σ h
  exact ⟨hrej, hinc, hs, hg, hu, hr⟩

/-- An interpreter that stores the hash of the block before the current one, the `BLOCKHASH` of
`NUMBER - 1`, in slot 0 of the frame's account, and stops. -/
def blockhashInterpreter : Interpreter := fun ctx _ _ c _ _ _ =>
  ⟨[], c.gas, UInt64.le_refl _, .success,
    .mutate (.setState c.address 0 (ctx.getHash (ctx.blockNumber - 1))) .done,
    [ctx.blockNumber - 1]⟩

lemma blockhashInterpreter_readsLookedUpHashes : blockhashInterpreter.ReadsLookedUpHashes :=
  fun _ _ _ _ _ _ _ _ hg => by simp only [blockhashInterpreter, hg _ (List.mem_singleton_self _)]

/-- The state transition at an intrinsic gas of 21000 with `blockhashInterpreter`, on a chain
whose block `n` has the hash `n + 7`. -/
def blockhashProcessor : StateProcessor :=
  { sampleProcessor with
    env := { transitionEnv with
      vmConfig := { transitionEnv.vmConfig with interpreter := blockhashInterpreter } }
    getHashFn := fun _ n => BitVec.ofNat 256 (n.toNat + 7) }

/-- A prestate for block 1 under a gas limit of 60000, with the hash of block 0 alone. -/
def blockhashPre : Prestate :=
  ⟨⟨0, some 0, 60000, 1, 0, some [(0, BitVec.ofNat 256 7)], none, none⟩, []⟩

/-- Block 1: two transfers to the code at `0x02`, then one asking for 30000 gas when 18000 are
left. -/
def sampleBlock : Block :=
  ⟨⟨60000, none, 1, 0, 0⟩, [sampleTx 0 21000, sampleTx 1 21000, sampleTx 2 30000]⟩

lemma blockhashPre_describes :
    blockhashPre.Describes sampleBlock.header (blockhashProcessor.author sampleBlock.header) :=
  ⟨rfl, rfl, rfl, rfl, rfl, rfl⟩

lemma blockhashPre_providesHashes :
    blockhashPre.ProvidesHashes blockhashProcessor.env
      (blockhashProcessor.getHashFn sampleBlock.header) := fun t _ _ _ num hn => by
  have hP :
      (blockhashProcessor.env.vmConfig.newZVM blockhashPre.vmContext t).LooksUpOnly (· = 1 - 1) :=
    fun _ _ _ _ _ hn => List.mem_singleton.1 hn
  obtain rfl : num = 1 - 1 := stateTransition_looksUpOnly hP num hn
  rfl

/-- The tool and the processor on `sampleBlock`, whose code reads the hash of block 0: `Process`
fails at the third transfer, which the tool rejects. -/
theorem apply_agrees_with_process_sampleBlock :
    blockhashPre.Describes sampleBlock.header (blockhashProcessor.author sampleBlock.header) ∧
      blockhashPre.ProvidesHashes blockhashProcessor.env
        (blockhashProcessor.getHashFn sampleBlock.header) ∧
      ReadsLookedUpHashes blockhashProcessor.env.applyMessage ∧
      blockhashProcessor.env.vmConfig.interpreter.ReadsLookedUpHashes ∧
      ∃ τ, applyTxs blockhashProcessor.env blockhashPre (fun _ _ => .ok ()) 0
          sampleBlock.transactions
          ⟨sampleState, sampleBlock.header.gasLimit, [], [], 0, [], 0, none⟩ = .ok τ ∧
        (∀ σ, blockhashProcessor.processTxs sampleBlock.header
            (blockhashProcessor.env.digests.headerHash sampleBlock.header)
            (blockhashProcessor.env.vmConfig.newZVM (newZVMBlockContext sampleBlock.header
              blockhashProcessor.getHashFn blockhashProcessor.author) ⟨0, 0⟩) 0
            sampleBlock.transactions ⟨sampleState, sampleBlock.header.gasLimit, 0, [], []⟩ =
              .ok σ →
          τ.rejectedTxs = [] ∧ τ.includedTxs = sampleBlock.transactions ∧
          τ.statedb = σ.statedb ∧ τ.gaspool = σ.gp ∧ τ.gasUsed = σ.usedGas ∧
          τ.receipts.map Receipt.unstamped = σ.receipts.map Receipt.unstamped) ∧
        (∀ e, blockhashProcessor.processTxs sampleBlock.header
            (blockhashProcessor.env.digests.headerHash sampleBlock.header)
            (blockhashProcessor.env.vmConfig.newZVM (newZVMBlockContext sampleBlock.header
              blockhashProcessor.getHashFn blockhashProcessor.author) ⟨0, 0⟩) 0
            sampleBlock.transactions ⟨sampleState, sampleBlock.header.gasLimit, 0, [], []⟩ =
              .error e →
          τ.rejectedTxs.head? = some ⟨e.index, e.err⟩) :=
  ⟨blockhashPre_describes, blockhashPre_providesHashes, applyMessage_readsLookedUpHashes _,
    blockhashInterpreter_readsLookedUpHashes,
    apply_agrees_with_process blockhashProcessor sampleBlock blockhashPre (fun _ _ => .ok ())
      sampleState blockhashPre_describes blockhashPre_providesHashes
      (applyMessage_readsLookedUpHashes _) blockhashInterpreter_readsLookedUpHashes fun _ _ => rfl⟩

/-- The tool rejects the third transfer and stores the hash of block 0, `7`, at `0x02`. -/
example : ∃ τ, applyTxs blockhashProcessor.env blockhashPre (fun _ _ => .ok ()) 0
    sampleBlock.transactions ⟨sampleState, 60000, [], [], 0, [], 0, none⟩ = .ok τ ∧
      τ.rejectedTxs.map RejectedTx.index = [2] ∧ τ.statedb.world.getState 2 0 = 7 :=
  ⟨_, rfl, rfl, rfl⟩

/-- Without the hash of block 0 the tool stops at the first transfer with
`ErrorMissingBlockhash`. -/
example : ∃ e, applyTxs blockhashProcessor.env
    ⟨⟨0, some 0, 60000, 1, 0, some [], none, none⟩, []⟩ (fun _ _ => .ok ()) 0
    sampleBlock.transactions ⟨sampleState, 60000, [], [], 0, [], 0, none⟩ =
      .error (.missingBlockhash e) :=
  ⟨_, rfl⟩

/-- **The block the tool assembles passes the processor.** In the same setting, when the loop of
`Apply` over some transactions returns, the loop of `Process` over the transactions the tool
included, and those alone, from the same StateDB and pool, returns too, and ends with the world
and journal, the pool, the gas used and the receipts (up to their block stamps) the tool ended
with. -/
theorem included_txs_process (p : StateProcessor) (header : Header) (pre : Prestate)
    (getTracerFn : Nat → Hash → Except String Unit) (statedb : StateDB) (txs : List Transaction)
    (hd : pre.Describes header (p.author header))
    (hh : pre.ProvidesHashes p.env (p.getHashFn header))
    (hloc : ReadsLookedUpHashes p.env.applyMessage)
    (hint : p.env.vmConfig.interpreter.ReadsLookedUpHashes) (ht : ∀ i h, getTracerFn i h = .ok ())
    (τ : ApplyState)
    (h : applyTxs p.env pre getTracerFn 0 txs ⟨statedb, header.gasLimit, [], [], 0, [], 0, none⟩ =
      .ok τ) :
    ∃ σ, p.processTxs header (p.env.digests.headerHash header)
        (p.env.vmConfig.newZVM (newZVMBlockContext header p.getHashFn p.author) ⟨0, 0⟩) 0
        τ.includedTxs ⟨statedb, header.gasLimit, 0, [], []⟩ = .ok σ ∧
      σ.statedb.world = τ.statedb.world ∧ σ.statedb.journal = τ.statedb.journal ∧
      σ.gp = τ.gaspool ∧ σ.usedGas = τ.gasUsed ∧
      σ.receipts.map Receipt.unstamped = τ.receipts.map Receipt.unstamped := by
  obtain ⟨inc, τ', hinc, hrun, hag, hrej⟩ := Agree.run txs (j := 0) (Agree.refl _) rfl h
  obtain ⟨τ'', hrun', hok, herr⟩ := Lockstep.run (p.env.digests.headerHash header) hd hh hloc
    hint ht inc [] (σ := ⟨statedb, header.gasLimit, 0, [], []⟩)
    (τ := ⟨statedb, header.gasLimit, [], [], 0, [], 0, none⟩)
    ⟨rfl, rfl, rfl, rfl, rfl, rfl, rfl, rfl⟩
  obtain rfl : τ'' = τ' := Except.ok.inj (hrun'.symm.trans hrun)
  rw [hinc, List.nil_append]
  cases hp : p.processTxs header (p.env.digests.headerHash header)
      (p.env.vmConfig.newZVM (newZVMBlockContext header p.getHashFn p.author) ⟨0, 0⟩) 0
      inc ⟨statedb, header.gasLimit, 0, [], []⟩ with
  | error e => cases hrej ▸ herr e hp
  | ok σ =>
    obtain ⟨hs, hg, hu, hr, -, -, -, -⟩ := hok σ hp
    exact ⟨σ, rfl, hs ▸ hag.world.symm, hs ▸ hag.journal.symm, hg ▸ hag.gaspool.symm,
      hu ▸ hag.gasUsed.symm, hr ▸ congrArg _ hag.receipts.symm⟩

/-- The block the tool assembles from `sampleBlock`, the first two transfers, passes the
processor. -/
theorem included_txs_process_sampleBlock :
    blockhashPre.Describes sampleBlock.header (blockhashProcessor.author sampleBlock.header) ∧
      blockhashPre.ProvidesHashes blockhashProcessor.env
        (blockhashProcessor.getHashFn sampleBlock.header) ∧
      ReadsLookedUpHashes blockhashProcessor.env.applyMessage ∧
      blockhashProcessor.env.vmConfig.interpreter.ReadsLookedUpHashes ∧
      ∃ τ, applyTxs blockhashProcessor.env blockhashPre (fun _ _ => .ok ()) 0
          sampleBlock.transactions
          ⟨sampleState, sampleBlock.header.gasLimit, [], [], 0, [], 0, none⟩ = .ok τ ∧
        ∃ σ, blockhashProcessor.processTxs sampleBlock.header
            (blockhashProcessor.env.digests.headerHash sampleBlock.header)
            (blockhashProcessor.env.vmConfig.newZVM (newZVMBlockContext sampleBlock.header
              blockhashProcessor.getHashFn blockhashProcessor.author) ⟨0, 0⟩) 0
            τ.includedTxs ⟨sampleState, sampleBlock.header.gasLimit, 0, [], []⟩ = .ok σ ∧
          σ.statedb.world = τ.statedb.world ∧ σ.statedb.journal = τ.statedb.journal ∧
          σ.gp = τ.gaspool ∧ σ.usedGas = τ.gasUsed ∧
          σ.receipts.map Receipt.unstamped = τ.receipts.map Receipt.unstamped :=
  ⟨blockhashPre_describes, blockhashPre_providesHashes, applyMessage_readsLookedUpHashes _,
    blockhashInterpreter_readsLookedUpHashes, _, rfl,
    included_txs_process blockhashProcessor sampleBlock.header blockhashPre (fun _ _ => .ok ())
      sampleState sampleBlock.transactions blockhashPre_describes blockhashPre_providesHashes
      (applyMessage_readsLookedUpHashes _) blockhashInterpreter_readsLookedUpHashes
      (fun _ _ => rfl) _ rfl⟩

end T8n

end GoZond
