import GoZond.Core.Supply

/-!
Whose logs a receipt holds.

`AddLog` stamps its log with the transaction context the StateDB carries; no other write adds a
log, and a revert only drops the newest. The entry points and the state transition reach their
state by `StateDB` calls alone, a run of some `Eff` (`reaches_stateTransition`), so every log they
leave that was not there before carries the context they were called in, whatever the code does.

`Process` runs transaction `i` in the context `(hash, i)` and hands its receipt the logs
`GetLogs` picks by that hash. So every log of a receipt carries the receipt's transaction hash,
the block's hash and number, and the index of a transaction of the block with that hash at or
before the receipt's own; when the block's transactions have distinct hashes, the receipt's own
index (`process_logs_attributed`).
-/

namespace GoZond

/-! ### Logs under `StateDB` calls -/

lemma World.logs_apply {t : Hash} {i : Nat} {w : World} {m : Mutation} {l : Log}
    (hl : l ∈ (w.apply t i m).logs) : l ∈ w.logs ∨ l.txHash = t ∧ l.txIndex = i := by
  cases m with
  | addLog l₀ =>
    simp only [World.apply, List.mem_append, List.mem_singleton] at hl
    rcases hl with hl | rfl
    exacts [.inl hl, .inr ⟨rfl, rfl⟩]
  | selfDestruct a =>
    simp only [World.apply] at hl
    split at hl <;> exact .inl hl
  | _ => exact .inl hl

lemma JournalEntry.logs_foldl_undo {l : Log} (es : List JournalEntry) (w : World)
    (hl : l ∈ (es.foldl undo w).logs) : l ∈ w.logs := by
  induction es generalizing w with
  | nil => exact hl
  | cons e es ih =>
    have he := ih _ hl
    cases e with
    | log => exact List.dropLast_subset _ he
    | _ => exact he

namespace StateDB

lemma logs_revertToSnapshot {s : StateDB} {n : Nat} {l : Log}
    (hl : l ∈ (s.revertToSnapshot n).world.logs) : l ∈ s.world.logs :=
  JournalEntry.logs_foldl_undo _ _ hl

/-- `s'` is reached from `s` by a run of `StateDB` calls. -/
def Reaches (s s' : StateDB) : Prop := ∃ e : Eff, s' = e.run s

namespace Reaches

variable {s s' s'' : StateDB}

lemma refl (s : StateDB) : s.Reaches s := ⟨.done, rfl⟩

lemma run (e : Eff) (s : StateDB) : s.Reaches (e.run s) := ⟨e, rfl⟩

lemma apply (s : StateDB) (m : Mutation) : s.Reaches (s.apply m) := ⟨.mutate m .done, rfl⟩

lemma trans (h : s.Reaches s') (h' : s'.Reaches s'') : s.Reaches s'' := by
  obtain ⟨e, rfl⟩ := h
  obtain ⟨e', rfl⟩ := h'
  exact ⟨e.seq e', (Eff.run_seq e e' s).symm⟩

lemma revert (h : s.Reaches s') : s.Reaches (s'.revertToSnapshot s.snapshot) := by
  obtain ⟨e, rfl⟩ := h
  exact ⟨.frame e true .done, rfl⟩

end Reaches

end StateDB

lemma Eff.context_run (e : Eff) (s : StateDB) :
    (e.run s).thash = s.thash ∧ (e.run s).txIndex = s.txIndex := by
  induction e generalizing s with
  | done => exact ⟨rfl, rfl⟩
  | mutate m k ih => exact ih _
  | frame body revert k ihb ihk =>
    cases revert <;> exact ⟨(ihk _).1.trans (ihb s).1, (ihk _).2.trans (ihb s).2⟩

lemma Eff.logs_run (e : Eff) (s : StateDB) {l : Log} (hl : l ∈ (e.run s).world.logs) :
    l ∈ s.world.logs ∨ l.txHash = s.thash ∧ l.txIndex = s.txIndex := by
  induction e generalizing s with
  | done => exact .inl hl
  | mutate m k ih => exact (ih _ hl).elim World.logs_apply .inr
  | frame body revert k ihb ihk =>
    have hc := Eff.context_run body s
    cases revert <;> rcases ihk _ hl with h | h
    · exact ihb s h
    · exact .inr ⟨h.1.trans hc.1, h.2.trans hc.2⟩
    · exact ihb s (StateDB.logs_revertToSnapshot h)
    · exact .inr ⟨h.1.trans hc.1, h.2.trans hc.2⟩

lemma StateDB.Reaches.logs {s s' : StateDB} (h : s.Reaches s') {l : Log}
    (hl : l ∈ s'.world.logs) : l ∈ s.world.logs ∨ l.txHash = s.thash ∧ l.txIndex = s.txIndex := by
  obtain ⟨e, rfl⟩ := h
  exact Eff.logs_run e s hl

/-! ### The entry points and the transition are runs of calls -/

lemma reaches_settle {s : StateDB} {r : CallResult} (h : s.Reaches r.state) :
    s.Reaches (settle s.snapshot r).state := by
  unfold settle
  split
  exacts [h, h.revert]

lemma reaches_settleCreate {s : StateDB} {r : CreateResult} (h : s.Reaches r.state) :
    s.Reaches (settleCreate s.snapshot r).state := by
  unfold settleCreate
  split
  · exact h
  · split
    exacts [h, h.revert]

namespace ZVM

variable (zvm : ZVM)

lemma reaches_deploy (address : Address) (ret : Bytes) (g : UInt64) (err : Option ZvmError)
    (l : List UInt64) (s : StateDB) : s.Reaches (zvm.deploy address ret g err l s).state := by
  unfold deploy
  split
  · exact .refl s
  · dsimp only
    split
    exacts [.refl s, .apply _ _]

lemma reaches_call (s : StateDB) (caller addr : Address) (input : Bytes) (gas : UInt64)
    (value : Int) : s.Reaches (zvm.call s caller addr input gas value).state := by
  unfold call
  split
  · rw [zvm.callPrelude_inl_state ‹_›]
    exact .refl s
  · rename_i s' hp
    have hs' : s.Reaches s' := by
      rcases (zvm.callPrelude_inr_eq hp).2 with rfl | rfl
      exacts [.apply _ _, .refl _]
    have ht := hs'.trans (.run (zvm.context.transfer s'.world caller addr value) s')
    unfold callRun
    refine reaches_settle ?_
    split
    · simpa using ht
    · dsimp only
      split
      exacts [ht, ht.trans (.run _ _)]

lemma reaches_create (s : StateDB) (caller : Address) (ch : CodeAndHash) (gas : UInt64)
    (value : Int) (address : Address) :
    s.Reaches (zvm.create s caller ch gas value address).state := by
  have hbase : s.Reaches (createBase s caller address) :=
    (StateDB.Reaches.apply _ _).trans (.apply _ _)
  unfold create
  split
  · rcases zvm.createPrelude_inl_eq ‹_› with ⟨e, -, rfl⟩ | rfl
    exacts [.refl s, hbase]
  · rename_i n s' hp
    obtain ⟨-, rfl, rfl⟩ := zvm.createPrelude_inr_eq hp
    refine hbase.trans (reaches_settleCreate ?_)
    exact ((((StateDB.Reaches.apply _ _).trans (.apply _ _)).trans (.run _ _)).trans
      (.run _ _)).trans (zvm.reaches_deploy _ _ _ _ _ _)

lemma reaches_execute (msg : Message) (gas : UInt64) (s : StateDB) :
    s.Reaches (zvm.execute msg gas s).state := by
  unfold execute
  split
  · exact zvm.reaches_create _ _ _ _ _ _
  · exact (StateDB.Reaches.apply _ _).trans (zvm.reaches_call _ _ _ _ _ _)

end ZVM

lemma reaches_stateTransition (intrinsicGas : Message → UInt64) (zvm : ZVM) (msg : Message)
    (gp : UInt64) (s : StateDB) : s.Reaches (stateTransition intrinsicGas zvm msg gp s).state := by
  by_cases h : Valid intrinsicGas msg gp s.world
  · rw [stateTransition_of_valid h]
    exact (((StateDB.Reaches.apply _ _).trans (zvm.reaches_execute _ _ _)).trans (.apply _ _)).trans
      (.apply _ _)
  · rcases stateTransition_of_not_valid zvm h with ⟨e, -, he⟩ | he <;> rw [he]
    exacts [.refl s, .apply _ _]

@[simp] lemma StateDB.logs_finalise (s : StateDB) (d : Bool) :
    (s.finalise d).world.logs = s.world.logs := rfl

/-! ### The receipts of `Process` -/

lemma lt_length_of_map_getElem?_eq_some {α β : Type} {f : α → β} {l : List α} {k : Nat} {x : β}
    (h : l[k]?.map f = some x) : k < l.length := by
  by_contra hk
  rw [List.getElem?_eq_none (Nat.le_of_not_lt hk)] at h
  cases h

lemma map_getElem?_append_of_eq_some {α β : Type} {f : α → β} {l : List α} {k : Nat} {x : β}
    (h : l[k]?.map f = some x) (l' : List α) : (l ++ l')[k]?.map f = some x := by
  rwa [List.getElem?_append_left (lt_length_of_map_getElem?_eq_some h)]

/-- What `Process` keeps of logs once it has run the transactions `done` of the block with number
`blockNumber` and hash `blockHash`. Every log of the StateDB carries the hash and index of a
transaction among `done`; every log of a receipt carries the receipt's hash, the block, and the
index of a transaction among `done` with that hash, at or before the receipt's own. -/
structure LogBook (txHash : Transaction → Hash) (blockNumber : UInt64) (blockHash : Hash)
    (done : List Transaction) (σ : ProcessState) : Prop where
  world : ∀ l ∈ σ.statedb.world.logs, done[l.txIndex]?.map txHash = some l.txHash
  receipts : ∀ r ∈ σ.receipts, ∀ l ∈ r.logs, l.txHash = r.txHash ∧ l.blockHash = blockHash ∧
    l.blockNumber = blockNumber ∧ l.txIndex ≤ r.transactionIndex ∧
    done[l.txIndex]?.map txHash = some r.txHash

lemma logBook_init (txHash : Transaction → Hash) (blockNumber : UInt64) (blockHash : Hash)
    (gasLimit : UInt64) {statedb : StateDB} (hs : statedb.world.logs = []) :
    LogBook txHash blockNumber blockHash [] ⟨statedb, gasLimit, 0, [], []⟩ :=
  ⟨fun l hl => by simp [hs] at hl, fun _ hr => by cases hr⟩

namespace StateProcessor

variable {p : StateProcessor} {header : Header} {blockHash : Hash} {zvm : ZVM}
  {intrinsicGas : Message → UInt64}

lemma logBook_step (happ : p.env.applyMessage = applyMessage intrinsicGas)
    {done : List Transaction} {tx : Transaction} {σ σ' : ProcessState}
    (hb : LogBook p.env.digests.txHash header.number blockHash done σ)
    (h : p.processTx header blockHash zvm done.length tx σ = .ok σ') :
    LogBook p.env.digests.txHash header.number blockHash (done ++ [tx]) σ' := by
  obtain ⟨r, hrs, -, hh, hidx, -⟩ := processTx_spec h
  obtain ⟨msg, res, r', -, -, hst, hrs', -, hlogs⟩ := processTx_state h
  obtain rfl : r' = r := by simpa using hrs'.symm.trans hrs
  have hworld : ∀ l ∈ σ'.statedb.world.logs,
      (done ++ [tx])[l.txIndex]?.map p.env.digests.txHash = some l.txHash := by
    intro l hl
    rw [hst, happ, state_applyMessage, StateDB.logs_finalise] at hl
    rcases (reaches_stateTransition _ _ _ _ _).logs hl with hl | ⟨hth, hti⟩
    · exact map_getElem?_append_of_eq_some (hb.world l hl) _
    · rw [hti, hth]
      simp [StateDB.setTxContext]
  refine ⟨hworld, fun r₀ hr₀ l hl => ?_⟩
  rw [hrs, List.mem_append, List.mem_singleton] at hr₀
  rcases hr₀ with hr₀ | rfl
  · obtain ⟨h₁, h₂, h₃, h₄, h₅⟩ := hb.receipts r₀ hr₀ l hl
    exact ⟨h₁, h₂, h₃, h₄, map_getElem?_append_of_eq_some h₅ _⟩
  · rw [hlogs, StateDB.getLogs, List.mem_map] at hl
    obtain ⟨l₀, hl₀, rfl⟩ := hl
    rw [List.mem_filter, decide_eq_true_iff] at hl₀
    have hw := hworld l₀ hl₀.1
    have hlt := lt_length_of_map_getElem?_eq_some hw
    rw [List.length_append, List.length_singleton] at hlt
    refine ⟨hl₀.2.trans hh.symm, rfl, rfl, hidx ▸ Nat.le_of_lt_succ hlt, ?_⟩
    exact hw.trans (congrArg some (hl₀.2.trans hh.symm))

lemma logBook_run (happ : p.env.applyMessage = applyMessage intrinsicGas) (txs : List Transaction)
    {σ σ' : ProcessState} (hb : LogBook p.env.digests.txHash header.number blockHash [] σ)
    (h : p.processTxs header blockHash zvm 0 txs σ = .ok σ') :
    LogBook p.env.digests.txHash header.number blockHash txs σ' :=
  processTxs_induction _ (logBook_step happ) txs [] hb h

end StateProcessor

/-- **Whose logs a receipt holds.** Under the state transition, from a StateDB with no logs, every
log of a receipt `Process` returns carries the receipt's transaction hash and the block's hash
and number, and the index of a transaction of the block with that hash at or before the receipt's
own; when the block's transactions have distinct hashes, that is the receipt's own index, so no
receipt holds another transaction's logs. -/
theorem process_logs_attributed (intrinsicGas : Message → UInt64) (p : StateProcessor)
    (block : Block) (happ : p.env.applyMessage = applyMessage intrinsicGas) (statedb : StateDB)
    (hs : statedb.world.logs = []) (receipts : List Receipt) (logs : List Log) (usedGas : UInt64)
    (statedb' : StateDB) (h : p.process block statedb = .ok (receipts, logs, usedGas, statedb')) :
    ∀ r ∈ receipts, ∀ l ∈ r.logs, l.txHash = r.txHash ∧
      l.blockHash = p.env.digests.headerHash block.header ∧ l.blockNumber = block.header.number ∧
      l.txIndex ≤ r.transactionIndex ∧
      block.transactions[l.txIndex]?.map p.env.digests.txHash = some r.txHash ∧
      ((block.transactions.map p.env.digests.txHash).Nodup → l.txIndex = r.transactionIndex) := by
  simp only [StateProcessor.process] at h
  split at h
  · cases h
  rename_i σ hσ
  cases h
  have hb := StateProcessor.logBook_run happ block.transactions (logBook_init _ _ _ _ hs) hσ
  have hm := ((StateProcessor.inv_init p.env.digests.txHash block.header.gasLimit statedb).run
    block.transactions hσ).receipts
  intro r hr l hl
  obtain ⟨h₁, h₂, h₃, h₄, h₅⟩ := hb.receipts r hr l hl
  refine ⟨h₁, h₂, h₃, h₄, h₅, fun hnd => ?_⟩
  obtain ⟨k, hk, rfl⟩ := List.getElem_of_mem hr
  obtain ⟨hhash, hidx⟩ := hm.2 k hk
  rw [hidx]
  refine List.getElem?_inj (by simpa using lt_length_of_map_getElem?_eq_some h₅) hnd ?_
  rw [List.getElem?_map, List.getElem?_map, h₅]
  exact hhash

/-- `ledgerProcessor` with an interpreter that logs once from the called contract and stops. -/
def loggingProcessor : StateProcessor :=
  { ledgerProcessor with
    env := { ledgerProcessor.env with
      vmConfig := { ledgerProcessor.env.vmConfig with
        interpreter := fun _ _ _ c _ _ _ => ⟨[], c.gas, UInt64.le_refl _, .success,
          .mutate (.addLog ⟨c.address, [], [], 0, 0, 0, 0, 0⟩) .done, []⟩ } } }

/-- The legacy transfer to `0x02`, whose code logs, in a block under a base fee of 2. -/
theorem process_logs_attributed_legacyTransfer :
    loggingProcessor.env.applyMessage = applyMessage (fun _ => 21000) ∧
      sampleState.world.logs = [] ∧
      ∃ receipts logs usedGas statedb', loggingProcessor.process ⟨⟨60000, some 2, 1, 0, 0⟩,
          [legacyTransfer]⟩ sampleState = .ok (receipts, logs, usedGas, statedb') ∧
        ∀ r ∈ receipts, ∀ l ∈ r.logs, l.txHash = r.txHash ∧
          l.blockHash = loggingProcessor.env.digests.headerHash ⟨60000, some 2, 1, 0, 0⟩ ∧
          l.blockNumber = 1 ∧ l.txIndex ≤ r.transactionIndex ∧
          [legacyTransfer][l.txIndex]?.map loggingProcessor.env.digests.txHash = some r.txHash ∧
          (([legacyTransfer].map loggingProcessor.env.digests.txHash).Nodup →
            l.txIndex = r.transactionIndex) :=
  ⟨rfl, rfl, _, _, _, _, rfl, process_logs_attributed (fun _ => 21000) loggingProcessor
    ⟨⟨60000, some 2, 1, 0, 0⟩, [legacyTransfer]⟩ rfl sampleState rfl _ _ _ _ rfl⟩

/-- Two transfers to `0x02` with no base fee: each receipt holds the one log of its own
transaction, stamped with its index and the block's number. -/
example : (loggingProcessor.process ⟨⟨60000, none, 1, 0, 0⟩, [sampleTx 0 21000, sampleTx 1 21000]⟩
    sampleState).map (fun o => o.1.map fun r => r.logs.map fun l => (l.txIndex, l.blockNumber)) =
      .ok [[(0, 1)], [(1, 1)]] :=
  rfl

end GoZond
