import GoZond.Core.Supply

/-!
The account invariant of the block processors (§3): a nonce only increases, and no balance is
negative.

A message runs only when its nonce is its sender's (the transition's nonce check, §4.5 (b)), and
once it has run the sender's nonce is past it: a call increments it before calling, and `create`
increments it before anything can fail, since the transition's funds check covers the value.
Nothing else the entry points do lowers a nonce: a call creates only a missing account, a
creation only where no account has a nonce, and a revert returns to a state reached before.
So, on code that never lowers a nonce and leaves no account self-destructed, `Process` runs each
sender's transactions in strictly increasing nonce order, each below the sender's nonce once the
loop is done, and lowers no nonce: no transaction runs twice in a block, nor again in a later one
(`process_nonces_increase`).

The funds check makes the sender cover the gas at the fee cap and the value, so paying for the
gas at a price within the fee cap leaves it the value, which the ZVM's transfers never overdraw.
The refund and the tip credit what the fee market makes non-negative, and `Finalise` drops
accounts with their balances. So, on code that makes no balance negative, `Process` keeps every
balance non-negative (`process_balances_nonneg`).
-/
namespace GoZond

namespace World

/-- No address has a higher nonce in `w` than in `w'`. -/
def NoncesBelow (w w' : World) : Prop := ∀ a, w.getNonce a ≤ w'.getNonce a

lemma NoncesBelow.refl (w : World) : w.NoncesBelow w := fun _ => UInt64.le_refl _

lemma NoncesBelow.trans {w w' w'' : World} (h : w.NoncesBelow w') (h' : w'.NoncesBelow w'') :
    w.NoncesBelow w'' :=
  fun a => Nat.le_trans (h a) (h' a)

lemma noncesBelow_setNonce (t : Hash) (i : Nat) {w : World} {a : Address}
    (h : ¬ w.getNonce a + 1 < w.getNonce a) :
    w.NoncesBelow (w.apply t i (.setNonce a (w.getNonce a + 1))) := by
  intro b
  rw [getNonce_setNonce]
  split
  · subst b
    exact Nat.le_of_lt (u64_lt_add_one h)
  · exact UInt64.le_refl _

end World

namespace ZVM

variable (zvm : ZVM) {s s' : StateDB} {caller addr : Address} {gas : UInt64} {value : Int}

lemma callPrelude_nonces (h : zvm.callPrelude s caller addr gas value = .inr s') :
    s.world.NoncesBelow s'.world := by
  unfold callPrelude at h
  split_ifs at h with _ _ hx <;> cases h
  · intro b
    rw [StateDB.world_apply, World.getNonce_createAccount]
    split
    · subst b
      rw [World.getNonce_of_not_exist (by simpa using hx)]
      exact UInt64.le_refl _
    · exact UInt64.le_refl _
  · exact .refl _

lemma createPrelude_nonces {n : Nat}
    (h : zvm.createPrelude s caller gas value addr = .inr (n, s')) :
    (createBase s caller addr).world.NoncesBelow s'.world := by
  simp only [createPrelude] at h
  split_ifs at h with _ _ _ hc
  cases h
  intro b
  simp only [StateDB.world_apply, World.getNonce_setNonce, World.getNonce_createAccount]
  split_ifs with hb
  · subst b
    rw [not_or, not_not] at hc
    exact hc.1 ▸ Nat.zero_le _
  · exact UInt64.le_refl _

lemma transfer_nonces (ht : zvm.context.transfer = transfer) (s : StateDB) (caller addr : Address)
    (value : Int) :
    s.world.NoncesBelow ((zvm.context.transfer s.world caller addr value).run s).world := by
  rw [ht]
  intro b
  simp [transfer]

variable (hn : ∀ w : World, zvm.Keeps w.NoncesBelow) (ht : zvm.context.transfer = transfer)
include hn ht

lemma call_nonces (input : Bytes) :
    s.world.NoncesBelow (zvm.call s caller addr input gas value).state.world :=
  zvm.call_keeps _ (hn _) (.refl _)
    (fun _ hp => (zvm.callPrelude_nonces hp).trans (zvm.transfer_nonces ht _ _ _ _)) input

lemma create_nonces (hd : ¬ callCreateDepth < zvm.depth)
    (hb : zvm.context.canTransfer s.world caller value = true)
    (ho : ¬ s.world.getNonce caller + 1 < s.world.getNonce caller) (ch : CodeAndHash) :
    (createBase s caller addr).world.NoncesBelow
      (zvm.create s caller ch gas value addr).state.world := by
  unfold create
  cases hp : zvm.createPrelude s caller gas value addr with
  | inl r =>
    simp only [createPrelude, hd, hb, ho, Bool.not_true, Bool.false_eq_true, ↓reduceIte] at hp
    split_ifs at hp
    cases hp
    exact .refl _
  | inr p =>
    obtain ⟨n, s'⟩ := p
    exact zvm.createRun_keeps _ (hn _) hp (.refl _) (fun t _ _ h b => by simpa using h b)
      ((zvm.createPrelude_nonces hp).trans (zvm.transfer_nonces ht _ _ _ _)) ch

lemma execute_nonces (hc : zvm.context.canTransfer = canTransfer)
    (hd : ¬ callCreateDepth < zvm.depth) {msg : Message} (gas : UInt64)
    (ho : ¬ s.world.getNonce msg.sender + 1 < s.world.getNonce msg.sender)
    (hv : msg.value ≤ s.world.getBalance msg.sender) :
    (s.apply (.setNonce msg.sender (s.world.getNonce msg.sender + 1))).world.NoncesBelow
      (zvm.execute msg gas s).state.world := by
  unfold execute
  split
  · have h : (createBase s msg.sender (zvm.crypto.createAddress msg.sender
        (s.world.getNonce msg.sender))).world.NoncesBelow
        (zvm.Create s msg.sender msg.data gas msg.value).state.world :=
      zvm.create_nonces hn ht hd (by simpa [hc, canTransfer] using hv) ho _
    intro b
    simpa [createBase] using h b
  · exact zvm.call_nonces hn ht _

end ZVM

lemma value_le_after_buyGas {intrinsicGas : Message → UInt64} {msg : Message} {gp : UInt64}
    {w : World} (hv : Valid intrinsicGas msg gp w) (hprice : msg.gasPrice ≤ msg.gasFeeCap)
    (t : Hash) (i : Nat) :
    msg.value ≤
      (w.apply t i (.subBalance msg.sender (msg.gasLimit.toNat * msg.gasPrice))).getBalance
        msg.sender := by
  have hle : (msg.gasLimit.toNat : Int) * msg.gasPrice ≤ msg.gasLimit.toNat * msg.gasFeeCap :=
    mul_le_mul_of_nonneg_left hprice (Int.natCast_nonneg _)
  have := hv.funds
  rw [World.getBalance_subBalance, if_pos rfl]
  omega

lemma stateTransition_nonces {intrinsicGas : Message → UInt64} {zvm : ZVM} {msg : Message}
    {gp : UInt64} {s : StateDB} {res : ExecutionResult}
    (hn : ∀ w : World, zvm.Keeps w.NoncesBelow) (hc : zvm.context.canTransfer = canTransfer)
    (ht : zvm.context.transfer = transfer) (hd : ¬ callCreateDepth < zvm.depth)
    (hskip : msg.skipAccountChecks = false) (hprice : msg.gasPrice ≤ msg.gasFeeCap)
    (hr : (stateTransition intrinsicGas zvm msg gp s).result = .ok res) :
    s.world.getNonce msg.sender = msg.nonce ∧
      s.world.NoncesBelow (stateTransition intrinsicGas zvm msg gp s).state.world ∧
      msg.nonce < (stateTransition intrinsicGas zvm msg gp s).state.world.getNonce msg.sender := by
  have hv := valid_of_result_ok hr
  obtain ⟨hnonce, ho⟩ := hv.nonce.resolve_left (by simp [hskip])
  rw [stateTransition_of_valid hv]
  set s₁ := s.apply (.subBalance msg.sender (msg.gasLimit.toNat * msg.gasPrice)) with hs₁
  have ho₁ : ¬ s₁.world.getNonce msg.sender + 1 < s₁.world.getNonce msg.sender := by
    simpa [hs₁, hnonce] using ho
  have hv₁ : msg.value ≤ s₁.world.getBalance msg.sender :=
    value_le_after_buyGas hv hprice s.thash s.txIndex
  have hinc : s₁.world.NoncesBelow
      (s₁.apply (.setNonce msg.sender (s₁.world.getNonce msg.sender + 1))).world :=
    World.noncesBelow_setNonce s₁.thash s₁.txIndex ho₁
  have hx := zvm.execute_nonces hn ht hc hd (msg.gasLimit - intrinsicGas msg) ho₁ hv₁
  have hrun : ∀ b, (zvm.runMessage msg (msg.gasLimit - intrinsicGas msg) (gp - msg.gasLimit)
      s₁).state.world.getNonce b =
      (zvm.execute msg (msg.gasLimit - intrinsicGas msg) s₁).state.world.getNonce b := fun b => by
    simp [ZVM.runMessage]
  refine ⟨hnonce, fun b => ?_, ?_⟩
  · rw [hrun]
    exact World.NoncesBelow.trans (fun b => by simp [hs₁]) (hinc.trans hx) b
  · rw [hrun]
    have h1 : msg.nonce <
        (s₁.apply (.setNonce msg.sender (s₁.world.getNonce msg.sender + 1))).world.getNonce
          msg.sender := by
      simpa [hs₁, hnonce] using u64_lt_add_one ho
    exact Nat.lt_of_lt_of_le h1 (hx _)

/-! ### The loop of `Process` -/

/-- A sender's transactions in `txs` come in strictly increasing nonce order. -/
def NoncesIncrease (sender : Transaction → Except String Address) (txs : List Transaction) :
    Prop :=
  txs.Pairwise fun tx tx' => ∀ a, sender tx = .ok a → sender tx' = .ok a → tx.nonce < tx'.nonce

/-- What a block processor's loop keeps of nonces, from the world `s₀` it started on, once it
has run the transactions `done`: no account is marked, no nonce is below its nonce in `s₀`, each
transaction run is below its sender's nonce, and a sender's transactions increase. -/
structure NonceBook (sender : Transaction → Except String Address) (s₀ : World)
    (done : List Transaction) (w : World) : Prop where
  unmarked : w.Unmarked
  noncesBelow : s₀.NoncesBelow w
  below : ∀ tx ∈ done, ∀ a, sender tx = .ok a → tx.nonce < w.getNonce a
  increase : NoncesIncrease sender done

lemma NonceBook.init (sender : Transaction → Except String Address) {w : World}
    (hw : w.Unmarked) : NonceBook sender w [] w :=
  ⟨hw, .refl _, by simp, List.Pairwise.nil⟩

section NonceBook

variable {sender : Transaction → Except String Address} {s₀ : World} {done : List Transaction}
  {tx : Transaction}

lemma NonceBook.snoc {w w' : World} {a : Address} (hb : NonceBook sender s₀ done w)
    (hu : w'.Unmarked) (ha : sender tx = .ok a) (hnonce : w.getNonce a = tx.nonce)
    (hbelow : w.NoncesBelow w') (hlt : tx.nonce < w'.getNonce a) :
    NonceBook sender s₀ (done ++ [tx]) w' := by
  have hsame : ∀ {b}, sender tx = .ok b → b = a := fun hb' => by
    rw [ha] at hb'
    cases hb'
    rfl
  refine ⟨hu, hb.noncesBelow.trans hbelow, fun tx' htx' b hb' => ?_, ?_⟩
  · rcases List.mem_append.1 htx' with h | h
    · exact Nat.lt_of_lt_of_le (hb.below tx' h b hb') (hbelow b)
    · rw [List.mem_singleton.1 h] at hb' ⊢
      exact hsame hb' ▸ hlt
  · refine List.pairwise_append.2 ⟨hb.increase, List.pairwise_singleton _ _,
      fun x hx y hy b hxb hyb => ?_⟩
    rw [List.mem_singleton.1 hy] at hyb ⊢
    rw [← hnonce, ← hsame hyb]
    exact hb.below x hx b hxb

lemma NonceBook.finalise {intrinsicGas : Message → UInt64} {zvm : ZVM} {msg : Message}
    {gp : UInt64} {s : StateDB} {hash : Hash} {i : Nat} {res : ExecutionResult}
    {baseFee : Option Int} (hb : NonceBook sender s₀ done s.world)
    (hn : ∀ w : World, zvm.Keeps w.NoncesBelow)
    (hu : zvm.Keeps World.Unmarked) (hc : zvm.context.canTransfer = canTransfer)
    (ht : zvm.context.transfer = transfer) (hd : ¬ callCreateDepth < zvm.depth)
    (hprice : tx.gasPrice ≤ tx.gasFeeCap) (hm : transactionToMessage sender tx baseFee = .ok msg)
    (hres : (applyMessage intrinsicGas zvm msg gp (s.setTxContext hash i)).result = .ok res) :
    NonceBook sender s₀ (done ++ [tx])
      ((applyMessage intrinsicGas zvm msg gp (s.setTxContext hash i)).state.finalise
        true).world := by
  obtain ⟨ha, hnm, hskip, hp⟩ := transactionToMessage_eq_ok hm
  rw [result_applyMessage] at hres
  rw [state_applyMessage]
  obtain ⟨hnonce, hbelow, hlt⟩ := stateTransition_nonces hn hc ht hd hskip (hp hprice) hres
  have hu' :
      (stateTransition intrinsicGas zvm msg gp (s.setTxContext hash i)).state.world.Unmarked :=
    stateTransition_unmarked ht hu hb.unmarked
  refine hb.snoc ((StateDB.Extends.refl _).unmarked_finalise hu' true) ha (hnm ▸ hnonce)
    (fun b => ?_) ?_
  · rw [StateDB.getNonce_finalise _ hu']
    exact hbelow b
  · rw [StateDB.getNonce_finalise _ hu', ← hnm]
    exact hlt

end NonceBook

namespace StateProcessor

section Nonces

variable {p : StateProcessor} {block : Block} {intrinsicGas : Message → UInt64}
  (happ : p.env.applyMessage = applyMessage intrinsicGas)
  (hn : ∀ t (w : World), (p.env.vmConfig.newZVM (newZVMBlockContext block.header p.getHashFn
    p.author) t).Keeps w.NoncesBelow)
  (hu : ∀ t, (p.env.vmConfig.newZVM (newZVMBlockContext block.header p.getHashFn p.author)
    t).Keeps World.Unmarked)
include happ hn hu

lemma nonceBook_step {s₀ : World} {done : List Transaction} {tx : Transaction}
    {σ σ' : ProcessState} (hprice : tx.gasPrice ≤ tx.gasFeeCap)
    (hb : NonceBook p.env.sender s₀ done σ.statedb.world)
    (h : p.processTx block.header (p.env.digests.headerHash block.header)
      (p.env.vmConfig.newZVM (newZVMBlockContext block.header p.getHashFn p.author) ⟨0, 0⟩)
        done.length tx σ = .ok σ') :
    NonceBook p.env.sender s₀ (done ++ [tx]) σ'.statedb.world := by
  obtain ⟨msg, res, r, hm, hres, hst, -, -⟩ := processTx_state h
  rw [happ] at hres hst
  rw [hst]
  exact hb.finalise (hn _) (hu _) rfl rfl (Nat.not_lt_zero _) hprice hm hres

lemma nonceBook_run {s₀ : World} (txs : List Transaction) {σ σ' : ProcessState}
    (hprice : ∀ tx ∈ txs, tx.gasPrice ≤ tx.gasFeeCap)
    (hb : NonceBook p.env.sender s₀ [] σ.statedb.world)
    (h : p.processTxs block.header (p.env.digests.headerHash block.header)
      (p.env.vmConfig.newZVM (newZVMBlockContext block.header p.getHashFn p.author) ⟨0, 0⟩) 0 txs
        σ = .ok σ') :
    NonceBook p.env.sender s₀ txs σ'.statedb.world :=
  processTxs_induction_mem (fun done σ => NonceBook p.env.sender s₀ done σ.statedb.world) txs
    (fun hm hb h => nonceBook_step happ hn hu (hprice _ hm) hb h) hb h

end Nonces

end StateProcessor

/-- **`Process` replays no transaction.** With the state transition as `ApplyMessage`, on code
that lowers no nonce and leaves no account self-destructed, from a StateDB with no account
marked, for a block whose transactions are priced within their fee caps (as every transaction
type of src is): when `Process` returns, the transactions of each sender came in strictly
increasing nonce order, and the StateDB it returns is the engine's `Finalize` run on a state
where no nonce is lower than before and each transaction's nonce is below its sender's. -/
theorem process_nonces_increase (intrinsicGas : Message → UInt64) (p : StateProcessor)
    (block : Block) (happ : p.env.applyMessage = applyMessage intrinsicGas)
    (hn : ∀ t (w : World), (p.env.vmConfig.newZVM (newZVMBlockContext block.header p.getHashFn
      p.author) t).Keeps w.NoncesBelow)
    (hu : ∀ t, (p.env.vmConfig.newZVM (newZVMBlockContext block.header p.getHashFn p.author)
      t).Keeps World.Unmarked)
    (hprice : ∀ tx ∈ block.transactions, tx.gasPrice ≤ tx.gasFeeCap)
    (statedb : StateDB) (hs : statedb.world.Unmarked) (receipts : List Receipt) (logs : List Log)
    (usedGas : UInt64) (statedb' : StateDB)
    (h : p.process block statedb = .ok (receipts, logs, usedGas, statedb')) :
    NoncesIncrease p.env.sender block.transactions ∧
      ∃ S : StateDB, statedb' = (p.finalize block S).run S ∧ statedb.world.NoncesBelow S.world ∧
        ∀ tx ∈ block.transactions, ∀ a, p.env.sender tx = .ok a →
          tx.nonce < S.world.getNonce a := by
  simp only [StateProcessor.process] at h
  split at h
  · cases h
  rename_i σ hσ
  cases h
  have hb := StateProcessor.nonceBook_run happ hn hu block.transactions hprice
    (NonceBook.init p.env.sender hs) hσ
  exact ⟨hb.increase, σ.statedb, rfl, hb.noncesBelow, hb.below⟩

/-- The legacy transfer from `0x01` at nonce 0, in a block under a base fee of 2. -/
theorem process_nonces_increase_legacyTransfer :
    ledgerProcessor.env.applyMessage = applyMessage (fun _ => 21000) ∧
      (∀ t (w : World), (ledgerProcessor.env.vmConfig.newZVM (newZVMBlockContext
        ⟨60000, some 2, 1, 0, 0⟩ ledgerProcessor.getHashFn ledgerProcessor.author) t).Keeps
          w.NoncesBelow) ∧
      (∀ t, (ledgerProcessor.env.vmConfig.newZVM (newZVMBlockContext ⟨60000, some 2, 1, 0, 0⟩
        ledgerProcessor.getHashFn ledgerProcessor.author) t).Keeps World.Unmarked) ∧
      (∀ tx ∈ [legacyTransfer], tx.gasPrice ≤ tx.gasFeeCap) ∧ sampleState.world.Unmarked ∧
      ∃ receipts logs usedGas statedb', ledgerProcessor.process ⟨⟨60000, some 2, 1, 0, 0⟩,
          [legacyTransfer]⟩ sampleState = .ok (receipts, logs, usedGas, statedb') ∧
        NoncesIncrease ledgerProcessor.env.sender [legacyTransfer] ∧
        ∃ S : StateDB,
          statedb' =
            (ledgerProcessor.finalize ⟨⟨60000, some 2, 1, 0, 0⟩, [legacyTransfer]⟩ S).run S ∧
          sampleState.world.NoncesBelow S.world ∧
          ∀ tx ∈ [legacyTransfer], ∀ a, ledgerProcessor.env.sender tx = .ok a →
            tx.nonce < S.world.getNonce a :=
  ⟨rfl, fun _ _ _ _ _ _ h => h, fun _ _ _ _ _ h => h, by decide, sampleState_unmarked, _, _, _, _,
    rfl, process_nonces_increase (fun _ => 21000) ledgerProcessor
      ⟨⟨60000, some 2, 1, 0, 0⟩, [legacyTransfer]⟩ rfl (fun _ _ _ _ _ _ h => h)
      (fun _ _ _ _ _ h => h) (by decide) sampleState sampleState_unmarked _ _ _ _ rfl⟩

/-- The same transfer twice: the second has the nonce the first used up, and `Process` refuses
the block at it. -/
example : ∃ hash,
    ledgerProcessor.process ⟨⟨60000, some 2, 1, 0, 0⟩, [legacyTransfer, legacyTransfer]⟩
      sampleState = .error ⟨1, hash, errNonceTooLow⟩ :=
  ⟨_, rfl⟩

/-! ### No balance is negative -/

/-- The prices of a transaction as the fee market has them under `baseFee`: no negative value,
tip cap or price, a price within the fee cap, and a non-negative base fee that the fee cap covers
(`core/state_transition.go`, not in src, rejects a fee cap below the base fee). -/
structure Transaction.Priced (baseFee : Option Int) (tx : Transaction) : Prop where
  value : 0 ≤ tx.value
  gasTipCap : 0 ≤ tx.gasTipCap
  gasPrice : 0 ≤ tx.gasPrice
  gasPrice_le : tx.gasPrice ≤ tx.gasFeeCap
  baseFee : ∀ b, baseFee = some b → 0 ≤ b ∧ b ≤ tx.gasFeeCap

lemma Transaction.Priced.message {baseFee : Option Int} {tx : Transaction}
    {sender : Transaction → Except String Address} {msg : Message} (hp : tx.Priced baseFee)
    (hm : transactionToMessage sender tx baseFee = .ok msg) :
    0 ≤ msg.value ∧ 0 ≤ msg.gasPrice ∧ msg.gasPrice ≤ msg.gasFeeCap ∧
      0 ≤ effectiveTip msg baseFee := by
  simp only [transactionToMessage] at hm
  split at hm
  · cases hm
  cases hm
  have := hp.gasTipCap
  cases baseFee with
  | none => exact ⟨hp.value, hp.gasPrice, hp.gasPrice_le, hp.gasPrice⟩
  | some b =>
    obtain ⟨hb, hbf⟩ := hp.baseFee b rfl
    simp only [effectiveTip, le_min_iff, min_le_iff]
    exact ⟨hp.value, ⟨by omega, by omega⟩, .inr le_rfl, this, by omega⟩

lemma stateTransition_nonneg {intrinsicGas : Message → UInt64} {zvm : ZVM} {msg : Message}
    {gp : UInt64} {s : StateDB} {res : ExecutionResult} (hk : zvm.KeepsBalancesNonneg)
    (hc : zvm.context.canTransfer = canTransfer) (ht : zvm.context.transfer = transfer)
    (hv : 0 ≤ msg.value) (hp : 0 ≤ msg.gasPrice) (hpf : msg.gasPrice ≤ msg.gasFeeCap)
    (htip : 0 ≤ effectiveTip msg zvm.context.baseFee)
    (hr : (stateTransition intrinsicGas zvm msg gp s).result = .ok res)
    (hs : NonnegBalances s.world) :
    NonnegBalances (stateTransition intrinsicGas zvm msg gp s).state.world := by
  have hval := valid_of_result_ok hr
  rw [stateTransition_of_valid hval]
  set s₁ := s.apply (.subBalance msg.sender (msg.gasLimit.toNat * msg.gasPrice)) with hs₁
  have h₁ : NonnegBalances s₁.world := fun b => by
    by_cases hb : b = msg.sender
    · subst hb
      exact le_trans hv (value_le_after_buyGas hval hpf s.thash s.txIndex)
    · simpa [hs₁, hb] using hs b
  have hx :
      NonnegBalances (zvm.execute msg (msg.gasLimit - intrinsicGas msg) s₁).state.world := by
    unfold ZVM.execute
    split
    · exact zvm.create_nonneg hk hc ht h₁ hv _
    · exact zvm.call_nonneg hk hc ht (h₁.of_eq fun b => by simp) hv _
  exact (hx.addBalance _ (mul_nonneg (Int.natCast_nonneg _) hp)).addBalance _
    (mul_nonneg (Int.natCast_nonneg _) htip)

lemma nonneg_applyMessage_finalise {intrinsicGas : Message → UInt64} {zvm : ZVM} {msg : Message}
    {gp : UInt64} {s : StateDB} {hash : Hash} {i : Nat} {res : ExecutionResult}
    {sender : Transaction → Except String Address} {tx : Transaction}
    (hk : zvm.KeepsBalancesNonneg) (hc : zvm.context.canTransfer = canTransfer)
    (ht : zvm.context.transfer = transfer) (hp : tx.Priced zvm.context.baseFee)
    (hm : transactionToMessage sender tx zvm.context.baseFee = .ok msg)
    (hs : NonnegBalances s.world)
    (hres : (applyMessage intrinsicGas zvm msg gp (s.setTxContext hash i)).result = .ok res) :
    NonnegBalances ((applyMessage intrinsicGas zvm msg gp (s.setTxContext hash i)).state.finalise
      true).world := by
  rw [result_applyMessage] at hres
  rw [state_applyMessage]
  obtain ⟨hv, hp0, hpf, htip⟩ := hp.message hm
  exact (stateTransition_nonneg hk hc ht hv hp0 hpf htip hres hs).finalise true

namespace StateProcessor

section Balances

variable {p : StateProcessor} {block : Block} {intrinsicGas : Message → UInt64}
  (happ : p.env.applyMessage = applyMessage intrinsicGas)
  (hk : ∀ t, (p.env.vmConfig.newZVM (newZVMBlockContext block.header p.getHashFn p.author)
    t).KeepsBalancesNonneg)
include happ hk

lemma nonneg_step {i : Nat} {tx : Transaction} {σ σ' : ProcessState}
    (hp : tx.Priced block.header.baseFee) (hs : NonnegBalances σ.statedb.world)
    (h : p.processTx block.header (p.env.digests.headerHash block.header)
      (p.env.vmConfig.newZVM (newZVMBlockContext block.header p.getHashFn p.author) ⟨0, 0⟩) i tx
        σ = .ok σ') :
    NonnegBalances σ'.statedb.world := by
  obtain ⟨msg, res, -, hm, hres, hst, -, -⟩ := processTx_state h
  rw [happ] at hres hst
  rw [hst]
  exact nonneg_applyMessage_finalise (hk _) rfl rfl hp hm hs hres

lemma nonneg_run (txs : List Transaction) {σ σ' : ProcessState}
    (hp : ∀ tx ∈ txs, tx.Priced block.header.baseFee) (hs : NonnegBalances σ.statedb.world)
    (h : p.processTxs block.header (p.env.digests.headerHash block.header)
      (p.env.vmConfig.newZVM (newZVMBlockContext block.header p.getHashFn p.author) ⟨0, 0⟩) 0 txs
        σ = .ok σ') :
    NonnegBalances σ'.statedb.world :=
  processTxs_induction_mem (fun _ σ => NonnegBalances σ.statedb.world) txs
    (fun hm hs h => nonneg_step happ hk (hp _ hm) hs h) hs h

end Balances

end StateProcessor

/-- **`Process` makes no balance negative.** With the state transition as `ApplyMessage`, on code
that makes no balance negative, for a block whose transactions are priced for the fee market
under its base fee: from a StateDB with no negative balance, the StateDB `Process` returns is the
engine's `Finalize` run on a state with no negative balance. -/
theorem process_balances_nonneg (intrinsicGas : Message → UInt64) (p : StateProcessor)
    (block : Block) (happ : p.env.applyMessage = applyMessage intrinsicGas)
    (hk : ∀ t, (p.env.vmConfig.newZVM (newZVMBlockContext block.header p.getHashFn p.author)
      t).KeepsBalancesNonneg)
    (hp : ∀ tx ∈ block.transactions, tx.Priced block.header.baseFee) (statedb : StateDB)
    (hs : NonnegBalances statedb.world) (receipts : List Receipt) (logs : List Log)
    (usedGas : UInt64) (statedb' : StateDB)
    (h : p.process block statedb = .ok (receipts, logs, usedGas, statedb')) :
    ∃ S : StateDB, statedb' = (p.finalize block S).run S ∧ NonnegBalances S.world := by
  simp only [StateProcessor.process] at h
  split at h
  · cases h
  rename_i σ hσ
  cases h
  exact ⟨σ.statedb, rfl, StateProcessor.nonneg_run happ hk block.transactions hp hs hσ⟩

lemma legacyTransfer_priced : legacyTransfer.Priced (some 2) :=
  ⟨by decide, by decide, by decide, by decide, fun b hb => by cases hb; decide⟩

/-- The legacy transfer, priced at 3 with a tip cap of 3 under a base fee of 2. -/
theorem process_balances_nonneg_legacyTransfer :
    ledgerProcessor.env.applyMessage = applyMessage (fun _ => 21000) ∧
      (∀ t, (ledgerProcessor.env.vmConfig.newZVM (newZVMBlockContext ⟨60000, some 2, 1, 0, 0⟩
        ledgerProcessor.getHashFn ledgerProcessor.author) t).KeepsBalancesNonneg) ∧
      (∀ tx ∈ [legacyTransfer], tx.Priced (some 2)) ∧ NonnegBalances sampleState.world ∧
      ∃ receipts logs usedGas statedb', ledgerProcessor.process ⟨⟨60000, some 2, 1, 0, 0⟩,
          [legacyTransfer]⟩ sampleState = .ok (receipts, logs, usedGas, statedb') ∧
        ∃ S : StateDB,
          statedb' =
            (ledgerProcessor.finalize ⟨⟨60000, some 2, 1, 0, 0⟩, [legacyTransfer]⟩ S).run S ∧
          NonnegBalances S.world :=
  have hp : ∀ tx ∈ [legacyTransfer], tx.Priced (some 2) := by simpa using legacyTransfer_priced
  have hs : NonnegBalances sampleState.world := fun b => by
    simp only [sampleState, StateDB.world_apply, World.getBalance_setCode,
      World.getBalance_addBalance]
    split_ifs <;> simp [StateDB.empty, World.empty, World.getBalance, World.getOrNew, Account.fresh]
  ⟨rfl, fun _ _ _ _ _ h => h, hp, hs, _, _, _, _, rfl, process_balances_nonneg (fun _ => 21000)
    ledgerProcessor ⟨⟨60000, some 2, 1, 0, 0⟩, [legacyTransfer]⟩ rfl (fun _ _ _ _ _ h => h) hp
    sampleState hs _ _ _ _ rfl⟩

end GoZond
