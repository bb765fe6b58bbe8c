import GoZond.T8n.Ledger
import GoZond.Core.Accounts

/-!
The account invariant in the transition tool.

The loop of `Apply` keeps the same book of nonces as the loop of `Process` (`NonceBook`), over
the transactions it includes: a rejected transaction leaves the world as it was, and an included
one runs its message through the transition and `Finalise` as `Process` runs it. The payments
after the loop and the commit move no nonce. So the transactions whose receipts `Apply` returns
and whose root it reports come, for each sender, in strictly increasing nonce order, each below
its sender's nonce in the state `Apply` returns, where no nonce is lower than in the prestate.

In the same way the loop keeps every balance non-negative, and so do the payments after it,
which only credit: from an allocation with no negative balance, `Apply` returns a state with
none.
-/
namespace GoZond.T8n

section Nonces

variable {env : Env} {pre : Prestate} {getTracerFn : Nat → Hash → Except String Unit}
  {intrinsicGas : Message → UInt64} (happ : env.applyMessage = applyMessage intrinsicGas)
  (hn : ∀ t (w : World), (env.vmConfig.newZVM pre.vmContext t).Keeps w.NoncesBelow)
  (hu : ∀ t, (env.vmConfig.newZVM pre.vmContext t).Keeps World.Unmarked)
include happ hn hu

lemma nonceBook_applyTx {s₀ : World} {i : Nat} {tx : Transaction} {σ σ' : ApplyState}
    (hprice : tx.gasPrice ≤ tx.gasFeeCap)
    (hb : NonceBook env.sender s₀ σ.includedTxs σ.statedb.world)
    (h : applyTx env pre getTracerFn i tx σ = .ok σ') :
    NonceBook env.sender s₀ σ'.includedTxs σ'.statedb.world := by
  rcases applyTx_spec h with ⟨e, hr⟩ | ⟨r, hr⟩
  · rw [hr.world, hr.includedTxs]
    exact hb
  obtain ⟨msg, res, -, hm, hres, hst, -, -⟩ := applyTx_of_included h hr.includedTxs
  rw [happ] at hres hst
  rw [hst, hr.includedTxs]
  exact hb.finalise (hn _) (hu _) rfl rfl (Nat.not_lt_zero _) hprice hm hres

lemma nonceBook_applyTxs {s₀ : World} (txs : List Transaction) {σ σ' : ApplyState}
    (hprice : ∀ tx ∈ txs, tx.gasPrice ≤ tx.gasFeeCap)
    (hb : NonceBook env.sender s₀ σ.includedTxs σ.statedb.world)
    (h : applyTxs env pre getTracerFn 0 txs σ = .ok σ') :
    NonceBook env.sender s₀ σ'.includedTxs σ'.statedb.world :=
  applyTxs_induction_mem (fun _ σ => NonceBook env.sender s₀ σ.includedTxs σ.statedb.world) txs
    (fun hm hb h => nonceBook_applyTx happ hn hu (hprice _ hm) hb h) hb h

end Nonces

/-- **`Apply` includes no replayed transaction.** With the state transition as `ApplyMessage`,
on code that lowers no nonce and leaves no account self-destructed, for input transactions priced
within their fee caps: when `Apply` returns, the transactions it included, those its transaction
root is taken over and its receipts are for, come for each sender in strictly increasing nonce
order, each below its sender's nonce in the state it returns, where no nonce is lower than in the
prestate. -/
theorem apply_nonces_increase (intrinsicGas : Message → UInt64) (pre : Prestate) (env : Env)
    (happ : env.applyMessage = applyMessage intrinsicGas)
    (hn : ∀ t (w : World), (env.vmConfig.newZVM pre.vmContext t).Keeps w.NoncesBelow)
    (hu : ∀ t, (env.vmConfig.newZVM pre.vmContext t).Keeps World.Unmarked)
    (txs : List Transaction) (hprice : ∀ tx ∈ txs, tx.gasPrice ≤ tx.gasFeeCap)
    (miningReward : Int) (getTracerFn : Nat → Hash → Except String Unit)
    (commit : StateDB → Except String Hash) (statedb : StateDB) (result : ExecutionResult)
    (h : pre.apply env txs miningReward getTracerFn commit = .ok (statedb, result)) :
    ∃ included, result.txRoot = env.digests.deriveShaTxs included ∧
      MatchTxs env.digests.txHash included result.receipts ∧
      NoncesIncrease env.sender included ∧
      (makePreState env.vmConfig.crypto.keccak256Hash pre.pre).world.NoncesBelow statedb.world ∧
      ∀ tx ∈ included, ∀ a, env.sender tx = .ok a → tx.nonce < statedb.world.getNonce a := by
  simp only [Prestate.apply] at h
  split at h
  · cases h
  rename_i σ hσ
  split at h
  · cases h
  cases h
  have hb := nonceBook_applyTxs happ hn hu txs hprice
    (NonceBook.init env.sender (unmarked_makePreState _ _)) hσ
  have hi := (inv_init env.digests.txHash pre.env.gasLimit _).run txs hσ
  have hu₁ := (StateDB.Extends.refl σ.statedb).unmarked_finalise hb.unmarked true
  have hS := unmarked_withdrawals (pre.env.withdrawals.getD []) _
    (unmarked_reward _ miningReward pre.env.coinbase hu₁)
  refine ⟨σ.includedTxs, rfl, hi.receipts, hb.increase, fun b => ?_, fun tx htx a ha => ?_⟩ <;>
    rw [getNonce_commitAndReopen, StateDB.getNonce_finalise _ hS, getNonce_withdrawals,
      getNonce_reward, StateDB.getNonce_finalise _ hb.unmarked]
  exacts [hb.noncesBelow b, hb.below tx htx a ha]

/-- The legacy transfer, included from the ledger's prestate. -/
theorem apply_nonces_increase_legacyTransfer :
    transitionEnv.applyMessage = applyMessage (fun _ => 21000) ∧
      (∀ t (w : World), (transitionEnv.vmConfig.newZVM ledgerPre.vmContext t).Keeps
        w.NoncesBelow) ∧
      (∀ t, (transitionEnv.vmConfig.newZVM ledgerPre.vmContext t).Keeps World.Unmarked) ∧
      (∀ tx ∈ [legacyTransfer], tx.gasPrice ≤ tx.gasFeeCap) ∧
      ∃ statedb result, ledgerPre.apply transitionEnv [legacyTransfer] 5 (fun _ _ => .ok ())
          (fun _ => .ok 0) = .ok (statedb, result) ∧
        ∃ included, result.txRoot = transitionEnv.digests.deriveShaTxs included ∧
          MatchTxs transitionEnv.digests.txHash included result.receipts ∧
          NoncesIncrease transitionEnv.sender included ∧
          (makePreState transitionEnv.vmConfig.crypto.keccak256Hash
            ledgerPre.pre).world.NoncesBelow statedb.world ∧
          ∀ tx ∈ included, ∀ a, transitionEnv.sender tx = .ok a →
            tx.nonce < statedb.world.getNonce a :=
  ⟨rfl, fun _ _ _ _ _ _ h => h, fun _ _ _ _ _ h => h, by decide, _, _, rfl,
    apply_nonces_increase (fun _ => 21000) ledgerPre transitionEnv rfl (fun _ _ _ _ _ _ h => h)
      (fun _ _ _ _ _ h => h) [legacyTransfer] (by decide) 5 (fun _ _ => .ok ()) (fun _ => .ok 0) _ _
      rfl⟩

/-- The same transfer twice: `Apply` includes the first and rejects the second, whose nonce is
used up. -/
example : ∃ statedb result, ledgerPre.apply transitionEnv [legacyTransfer, legacyTransfer] 5
    (fun _ _ => .ok ()) (fun _ => .ok 0) = .ok (statedb, result) ∧
    result.receipts.length = 1 ∧ result.rejected = [⟨1, errNonceTooLow⟩] :=
  ⟨_, _, rfl, rfl, rfl⟩

/-! ### No balance is negative -/

lemma nonneg_allocAccount (keccak256Hash : Bytes → Hash) {s : StateDB}
    (hs : NonnegBalances s.world)
    {entry : Address × GenesisAccount} (he : 0 ≤ entry.2.balance) :
    NonnegBalances (allocAccount keccak256Hash s entry).world := by
  have hset : NonnegBalances (((s.apply (.setCode entry.1 entry.2.code
      (keccak256Hash entry.2.code))).apply (.setNonce entry.1 entry.2.nonce)).apply
        (.setBalance entry.1 entry.2.balance)).world := fun b => by
    have hb := hs b
    simp only [StateDB.world_apply, World.getBalance_setBalance, World.getBalance_setNonce,
      World.getBalance_setCode]
    split_ifs
    exacts [he, hb]
  exact List.foldlRecOn (motive := fun t : StateDB => NonnegBalances t.world) _ _ _ hset
    fun t ht _ _ => ht.of_eq fun b => by simp

lemma nonneg_makePreState (keccak256Hash : Bytes → Hash) (alloc : GenesisAlloc)
    (h : ∀ e ∈ alloc, 0 ≤ e.2.balance) :
    NonnegBalances (makePreState keccak256Hash alloc).world := by
  have hfold : NonnegBalances (alloc.foldl (allocAccount keccak256Hash) StateDB.empty).world :=
    List.foldlRecOn (motive := fun t : StateDB => NonnegBalances t.world) alloc _ _
      (fun b => by
        simp [StateDB.empty, World.empty, World.getBalance, World.getOrNew, Account.fresh])
      fun t ht e he => nonneg_allocAccount keccak256Hash ht (h e he)
  exact fun b => (getBalance_commitAndReopen false _ b).symm ▸ hfold.finalise false b

section Balances

variable {env : Env} {pre : Prestate} {getTracerFn : Nat → Hash → Except String Unit}
  {intrinsicGas : Message → UInt64} (happ : env.applyMessage = applyMessage intrinsicGas)
  (hk : ∀ t, (env.vmConfig.newZVM pre.vmContext t).KeepsBalancesNonneg)
include happ hk

lemma nonneg_applyTx {i : Nat} {tx : Transaction} {σ σ' : ApplyState}
    (hp : tx.Priced pre.env.baseFee) (hs : NonnegBalances σ.statedb.world)
    (h : applyTx env pre getTracerFn i tx σ = .ok σ') : NonnegBalances σ'.statedb.world := by
  rcases applyTx_spec h with ⟨e, hr⟩ | ⟨r, hr⟩
  · rw [hr.world]
    exact hs
  obtain ⟨msg, res, -, hm, hres, hst, -, -⟩ := applyTx_of_included h hr.includedTxs
  rw [happ] at hres hst
  rw [hst]
  exact nonneg_applyMessage_finalise (hk _) rfl rfl hp hm hs hres

lemma nonneg_applyTxs (txs : List Transaction) {σ σ' : ApplyState}
    (hp : ∀ tx ∈ txs, tx.Priced pre.env.baseFee) (hs : NonnegBalances σ.statedb.world)
    (h : applyTxs env pre getTracerFn 0 txs σ = .ok σ') : NonnegBalances σ'.statedb.world :=
  applyTxs_induction_mem (fun _ σ => NonnegBalances σ.statedb.world) txs
    (fun hm hs h => nonneg_applyTx happ hk (hp _ hm) hs h) hs h

end Balances

/-- **`Apply` makes no balance negative.** With the state transition as `ApplyMessage`, on code
that makes no balance negative, for input transactions priced for the fee market under the
prestate's base fee and an allocation with no negative balance: the state `Apply` returns has no
negative balance. -/
theorem apply_balances_nonneg (intrinsicGas : Message → UInt64) (pre : Prestate) (env : Env)
    (happ : env.applyMessage = applyMessage intrinsicGas)
    (hk : ∀ t, (env.vmConfig.newZVM pre.vmContext t).KeepsBalancesNonneg)
    (txs : List Transaction) (hp : ∀ tx ∈ txs, tx.Priced pre.env.baseFee)
    (halloc : ∀ e ∈ pre.pre, 0 ≤ e.2.balance) (miningReward : Int)
    (getTracerFn : Nat → Hash → Except String Unit) (commit : StateDB → Except String Hash)
    (statedb : StateDB) (result : ExecutionResult)
    (h : pre.apply env txs miningReward getTracerFn commit = .ok (statedb, result)) :
    NonnegBalances statedb.world := by
  simp only [Prestate.apply] at h
  split at h
  · cases h
  rename_i σ hσ
  split at h
  · cases h
  cases h
  have hl := nonneg_applyTxs happ hk txs hp (nonneg_makePreState _ _ halloc) hσ
  have hr : NonnegBalances (if 0 ≤ miningReward then (σ.statedb.finalise true).apply
      (.addBalance pre.env.coinbase miningReward) else σ.statedb.finalise true).world := by
    split
    · exact (hl.finalise true).addBalance _ ‹_›
    · exact hl.finalise true
  have hw := List.foldlRecOn (motive := fun t : StateDB => NonnegBalances t.world)
    (pre.env.withdrawals.getD [])
    (fun s w => s.apply (.addBalance w.address (w.amount.toNat * gPlanck))) _ hr
    fun t ht w _ => ht.addBalance _ (mul_nonneg (Int.natCast_nonneg _) (by decide))
  exact fun b => (getBalance_commitAndReopen true _ b).symm ▸ hw.finalise true b

/-- The legacy transfer from the ledger's prestate, with a mining reward of 5. -/
theorem apply_balances_nonneg_legacyTransfer :
    transitionEnv.applyMessage = applyMessage (fun _ => 21000) ∧
      (∀ t, (transitionEnv.vmConfig.newZVM ledgerPre.vmContext t).KeepsBalancesNonneg) ∧
      (∀ tx ∈ [legacyTransfer], tx.Priced ledgerPre.env.baseFee) ∧
      (∀ e ∈ ledgerPre.pre, 0 ≤ e.2.balance) ∧
      ∃ statedb result, ledgerPre.apply transitionEnv [legacyTransfer] 5 (fun _ _ => .ok ())
          (fun _ => .ok 0) = .ok (statedb, result) ∧ NonnegBalances statedb.world :=
  have hp : ∀ tx ∈ [legacyTransfer], tx.Priced ledgerPre.env.baseFee := by
    simpa using legacyTransfer_priced
  ⟨rfl, fun _ _ _ _ _ h => h, hp, by decide, _, _, rfl, apply_balances_nonneg (fun _ => 21000)
    ledgerPre transitionEnv rfl (fun _ _ _ _ _ h => h) [legacyTransfer] hp (by decide) 5
    (fun _ _ => .ok ()) (fun _ => .ok 0) _ _ rfl⟩

end GoZond.T8n
