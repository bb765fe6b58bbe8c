import GoZond.T8n.Rewards
import GoZond.T8n.Inclusion
import GoZond.Core.Supply

/-!
The ledger of the transition tool.

With the state transition as `ApplyMessage`, on code that keeps the supply and leaves no account
self-destructed, value enters and leaves the state `Apply` builds in three ways only: each
included transaction burns the base fee on the gas it used, the coinbase gets the mining reward,
and each withdrawal is paid in Planck. The loop keeps the supply plus the base fee on the gas of
its receipts (`Ledger`, as the loop of `Process` does): a rejected transaction changes neither,
an included one moves gas from the first to the second, and `Finalise`, with no account marked,
drops only empty accounts. The payments after the loop add their amounts, and the commit keeps
every balance.
-/

namespace GoZond.T8n

section Loop

variable {env : Env} {pre : Prestate} {getTracerFn : Nat → Hash → Except String Unit}
  {i : Nat} {tx : Transaction} {σ σ' : ApplyState}

lemma applyTx_of_included (h : applyTx env pre getTracerFn i tx σ = .ok σ')
    (hinc : σ'.includedTxs = σ.includedTxs ++ [tx]) :
    ∃ msg res r, transactionToMessage env.sender tx pre.env.baseFee = .ok msg ∧
      (env.applyMessage (env.vmConfig.newZVM pre.vmContext (newZVMTxContext msg)) msg σ.gaspool
        (σ.statedb.setTxContext (env.digests.txHash tx) σ.txIndex)).result = .ok res ∧
      σ'.statedb = (env.applyMessage (env.vmConfig.newZVM pre.vmContext (newZVMTxContext msg)) msg
        σ.gaspool (σ.statedb.setTxContext (env.digests.txHash tx) σ.txIndex)).state.finalise
          true ∧
      σ'.receipts = σ.receipts ++ [r] ∧ r.gasUsed = res.usedGas := by
  simp only [applyTx] at h
  split at h
  · cases h
    simp at hinc
  rename_i msg hm
  split at h
  · cases h
  split at h
  · cases h
    simp at hinc
  rename_i res hres
  split at h
  · cases h
  · cases h
    exact ⟨msg, res, _, hm, hres, rfl, rfl, rfl⟩

end Loop

section Ledger

variable {env : Env} {pre : Prestate} {getTracerFn : Nat → Hash → Except String Unit}
  {intrinsicGas : Message → UInt64} (happ : env.applyMessage = applyMessage intrinsicGas)
  (hk : ∀ t, (env.vmConfig.newZVM pre.vmContext t).ConservesSupply)
  (hu : ∀ t, (env.vmConfig.newZVM pre.vmContext t).Keeps World.Unmarked)
include happ hk hu

lemma ledger_step {i : Nat} {tx : Transaction} {σ σ' : ApplyState} {k : Int}
    (hl : Ledger (pre.env.baseFee.getD 0) k σ.statedb σ.receipts)
    (h : applyTx env pre getTracerFn i tx σ = .ok σ') :
    Ledger (pre.env.baseFee.getD 0) k σ'.statedb σ'.receipts := by
  rcases applyTx_spec h with ⟨e, hr⟩ | ⟨r, hr⟩
  · exact ⟨hr.world ▸ hl.unmarked, by rw [hr.world, hr.receipts]; exact hl.supply⟩
  obtain ⟨msg, res, r', hm, hres, hst, hrc, hg⟩ := applyTx_of_included h hr.includedTxs
  rw [happ] at hres hst
  rw [hst, hrc]
  exact hl.finalise rfl (hk _) (hu _) hm hres hg

lemma ledger_run (txs : List Transaction) {σ σ' : ApplyState} {k : Int}
    (hl : Ledger (pre.env.baseFee.getD 0) k σ.statedb σ.receipts)
    (h : applyTxs env pre getTracerFn 0 txs σ = .ok σ') :
    Ledger (pre.env.baseFee.getD 0) k σ'.statedb σ'.receipts :=
  applyTxs_induction (fun _ σ => Ledger _ k σ.statedb σ.receipts)
    (fun hl h => ledger_step happ hk hu hl h) txs [] hl h

end Ledger

/-! ### The payments after the loop -/

lemma supply_reward (s : StateDB) (miningReward : Int) (coinbase : Address) :
    (if 0 ≤ miningReward then s.apply (.addBalance coinbase miningReward) else s).world.supply =
      s.world.supply + if 0 ≤ miningReward then miningReward else 0 := by
  split <;> simp

lemma supply_withdrawals (ws : List Withdrawal) (s : StateDB) :
    (ws.foldl (fun s w => s.apply (.addBalance w.address (w.amount.toNat * gPlanck))) s
      ).world.supply = s.world.supply + (ws.map fun w => (w.amount.toNat * gPlanck : Int)).sum := by
  induction ws generalizing s with
  | nil => simp
  | cons w ws ih => simp [ih, add_assoc]

/-- **The ledger of `Apply`.** With the state transition as `ApplyMessage`, on code that keeps
the supply and leaves no account self-destructed, the state `Apply` returns holds the value of
the prestate, less the base fee on the gas it reports used, plus the mining reward when rewards
are on and the withdrawals in Planck: no other value is created or destroyed. -/
theorem apply_ledger (intrinsicGas : Message → UInt64) (pre : Prestate) (env : Env)
    (happ : env.applyMessage = applyMessage intrinsicGas)
    (hk : ∀ t, (env.vmConfig.newZVM pre.vmContext t).ConservesSupply)
    (hu : ∀ t, (env.vmConfig.newZVM pre.vmContext t).Keeps World.Unmarked)
    (txs : List Transaction) (miningReward : Int)
    (getTracerFn : Nat → Hash → Except String Unit) (commit : StateDB → Except String Hash)
    (statedb : StateDB) (result : ExecutionResult)
    (h : pre.apply env txs miningReward getTracerFn commit = .ok (statedb, result)) :
    statedb.world.supply =
      (makePreState env.vmConfig.crypto.keccak256Hash pre.pre).world.supply -
        result.gasUsed.toNat * pre.env.baseFee.getD 0 +
        (if 0 ≤ miningReward then miningReward else 0) +
        ((pre.env.withdrawals.getD []).map fun w => (w.amount.toNat * gPlanck : Int)).sum := by
  simp only [Prestate.apply] at h
  split at h
  · cases h
  rename_i σ hσ
  split at h
  · cases h
  cases h
  have hl := ledger_run happ hk hu txs
    (k := (makePreState env.vmConfig.crypto.keccak256Hash pre.pre).world.supply)
    ⟨unmarked_makePreState _ _, by simp [gasSum]⟩ hσ
  have hi := (inv_init env.digests.txHash pre.env.gasLimit _).run txs hσ
  have hu₁ := (StateDB.Extends.refl σ.statedb).unmarked_finalise hl.unmarked true
  have hS := unmarked_withdrawals (pre.env.withdrawals.getD []) _
    (unmarked_reward _ miningReward pre.env.coinbase hu₁)
  rw [World.supply_congr (getBalance_commitAndReopen true _), StateDB.supply_finalise hS,
    supply_withdrawals, supply_reward, StateDB.supply_finalise hl.unmarked, ← hl.supply,
    hi.gas.used_eq]
  ring

/-- A prestate where `0x01` holds 100000, with a base fee of 2 and a withdrawal of 2 GPlanck to
`0x01`. -/
def ledgerPre : Prestate :=
  ⟨⟨0, none, 60000, 1, 0, none, some [⟨1, 2⟩], some 2⟩, [(1, ⟨[], [], 100000, 0⟩)]⟩

/-- The legacy transfer is included and burns 2 per unit of its 21000 gas; the coinbase earns a
reward of 5. -/
theorem apply_ledger_legacyTransfer :
    transitionEnv.applyMessage = applyMessage (fun _ => 21000) ∧
      (∀ t, (transitionEnv.vmConfig.newZVM ledgerPre.vmContext t).ConservesSupply) ∧
      (∀ t, (transitionEnv.vmConfig.newZVM ledgerPre.vmContext t).Keeps World.Unmarked) ∧
      ∃ statedb result, ledgerPre.apply transitionEnv [legacyTransfer] 5 (fun _ _ => .ok ())
          (fun _ => .ok 0) = .ok (statedb, result) ∧
        statedb.world.supply =
          (makePreState transitionEnv.vmConfig.crypto.keccak256Hash ledgerPre.pre).world.supply -
            result.gasUsed.toNat * ledgerPre.env.baseFee.getD 0 +
            (if (0 : Int) ≤ 5 then 5 else 0) +
            ((ledgerPre.env.withdrawals.getD []).map fun w => (w.amount.toNat * gPlanck : Int)).sum
      :=
  ⟨rfl, fun _ _ _ _ _ => rfl, fun _ _ _ _ _ h => h, _, _, rfl, apply_ledger (fun _ => 21000)
    ledgerPre transitionEnv rfl (fun _ _ _ _ _ => rfl) (fun _ _ _ _ _ h => h) [legacyTransfer] 5
    (fun _ _ => .ok ()) (fun _ => .ok 0) _ _ rfl⟩

example : ∃ statedb result, ledgerPre.apply transitionEnv [legacyTransfer] 5 (fun _ _ => .ok ())
    (fun _ => .ok 0) = .ok (statedb, result) ∧ result.gasUsed = 21000 ∧ result.rejected = [] :=
  ⟨_, _, rfl, rfl, rfl⟩

end GoZond.T8n
