import GoZond.T8n.Execution

/-!
What `Apply` pays once its loop is done (`cmd/qrvm/internal/t8ntool/execution.go`, after the
loop): it finalises the state, credits the mining reward to the coinbase when rewards are on and
each withdrawal, turned from GPlanck into Planck, to its address, and commits. These payments are
not metered: they go straight to balances.

Every write of the loop is journaled and `Finalise` drops the self-destructed accounts the
journal names, so between transactions no account carries the self-destruct mark
(`World.Unmarked`). The finalisations after the loop then drop only empty accounts, and the
balances `Apply` returns are those the loop left plus the payments.
-/

namespace GoZond.T8n

/-- What the payments after the loop add to the balance of `b`: the mining reward at the coinbase
when rewards are on, and the withdrawals to `b`, in Planck. -/
def blockCredit (pre : Prestate) (miningReward : Int) (b : Address) : Int :=
  (if 0 ≤ miningReward ∧ b = pre.env.coinbase then miningReward else 0) +
    (((pre.env.withdrawals.getD []).filter fun w => w.address = b).map
      fun w => (w.amount.toNat * gPlanck : Int)).sum

/-! ### The payments, step by step -/

section Payments

variable (ws : List Withdrawal) (s : StateDB) (miningReward : Int) (coinbase b : Address)

lemma getBalance_reward :
    (if 0 ≤ miningReward then s.apply (.addBalance coinbase miningReward) else s
      ).world.getBalance b =
      s.world.getBalance b + if 0 ≤ miningReward ∧ b = coinbase then miningReward else 0 := by
  by_cases hr : 0 ≤ miningReward <;> by_cases hb : b = coinbase <;> simp [hr, hb]

lemma getNonce_reward :
    (if 0 ≤ miningReward then s.apply (.addBalance coinbase miningReward) else s).world.getNonce b =
      s.world.getNonce b := by
  split <;> simp

lemma unmarked_reward (hs : s.world.Unmarked) :
    (if 0 ≤ miningReward then s.apply (.addBalance coinbase miningReward) else s
      ).world.Unmarked := by
  split
  · exact hs.addBalance s.thash s.txIndex _ _
  · exact hs

lemma getBalance_withdrawals :
    (ws.foldl (fun s w => s.apply (.addBalance w.address (w.amount.toNat * gPlanck))) s
      ).world.getBalance b = s.world.getBalance b +
        ((ws.filter fun w => w.address = b).map fun w => (w.amount.toNat * gPlanck : Int)).sum := by
  induction ws generalizing s with
  | nil => simp
  | cons w ws ih =>
    rw [List.foldl_cons, ih, StateDB.world_apply, World.getBalance_addBalance]
    by_cases hb : w.address = b
    · subst hb
      simp [add_assoc]
    · simp [hb, Ne.symm hb]

lemma getNonce_withdrawals :
    (ws.foldl (fun s w => s.apply (.addBalance w.address (w.amount.toNat * gPlanck))) s
      ).world.getNonce b = s.world.getNonce b := by
  induction ws generalizing s with
  | nil => rfl
  | cons w ws ih => exact (ih _).trans (by simp)

lemma unmarked_withdrawals (hs : s.world.Unmarked) :
    (ws.foldl (fun s w => s.apply (.addBalance w.address (w.amount.toNat * gPlanck))) s
      ).world.Unmarked :=
  List.foldlRecOn (motive := fun s : StateDB => s.world.Unmarked) ws _ s hs
    fun t ht w _ => ht.addBalance t.thash t.txIndex w.address _

end Payments

@[simp] lemma getBalance_commitAndReopen (d : Bool) (s : StateDB) (b : Address) :
    (commitAndReopen d s).world.getBalance b = (s.finalise d).world.getBalance b := rfl

@[simp] lemma getNonce_commitAndReopen (d : Bool) (s : StateDB) (b : Address) :
    (commitAndReopen d s).world.getNonce b = (s.finalise d).world.getNonce b := rfl

/-! ### No account is marked between transactions -/

lemma extends_allocAccount (keccak256Hash : Bytes → Hash) (s : StateDB)
    (entry : Address × GenesisAccount) : s.Extends (allocAccount keccak256Hash s entry) :=
  ((StateDB.Extends.apply _ _).trans ((StateDB.Extends.apply _ _).trans (.apply _ _))).trans
    (List.foldlRecOn (motive := fun t => StateDB.Extends _ t) _ _ _ (.refl _)
      fun _ ht _ _ => ht.trans (.apply _ _))

lemma unmarked_makePreState (keccak256Hash : Bytes → Hash) (alloc : GenesisAlloc) :
    (makePreState keccak256Hash alloc).world.Unmarked :=
  (List.foldlRecOn (motive := fun t => StateDB.empty.Extends t) alloc _ _ (.refl _)
    fun _ ht e _ => ht.trans (extends_allocAccount keccak256Hash _ e)).unmarked_finalise
    (fun _ _ h => nomatch h) false

section Loop

variable {env : Env} {pre : Prestate} {getTracerFn : Nat → Hash → Except String Unit}

lemma unmarked_applyTx {i : Nat} {tx : Transaction} {σ σ' : ApplyState}
    (hσ : σ.statedb.world.Unmarked) (h : applyTx env pre getTracerFn i tx σ = .ok σ') :
    σ'.statedb.world.Unmarked := by
  rcases applyTx_spec h with ⟨e, hr⟩ | ⟨r, hr⟩
  · exact hr.world ▸ hσ
  · obtain ⟨s, hs, heq⟩ := hr.statedb
    exact heq ▸ hs.unmarked_finalise hσ true

lemma unmarked_applyTxs (txs : List Transaction) {σ σ' : ApplyState}
    (hσ : σ.statedb.world.Unmarked) (h : applyTxs env pre getTracerFn 0 txs σ = .ok σ') :
    σ'.statedb.world.Unmarked :=
  applyTxs_induction (fun _ σ => σ.statedb.world.Unmarked) (fun hi h => unmarked_applyTx hi h)
    txs [] hσ h

end Loop

/-- **`Apply` pays the block-level transfers straight into balances.** When `Apply` returns, its
loop ended in some state `σ`; the root it reports is the one the commit gave for the state it
returns, and at every address that state holds the balance the loop left plus the mining reward
(at the coinbase, when rewards are on) and the withdrawals to it in Planck, and the nonce the loop
left. -/
theorem apply_pays_block_rewards (pre : Prestate) (env : Env) (txs : List Transaction)
    (miningReward : Int) (getTracerFn : Nat → Hash → Except String Unit)
    (commit : StateDB → Except String Hash) (statedb : StateDB) (result : ExecutionResult)
    (h : pre.apply env txs miningReward getTracerFn commit = .ok (statedb, result)) :
    ∃ σ S, applyTxs env pre getTracerFn 0 txs
        ⟨makePreState env.vmConfig.crypto.keccak256Hash pre.pre, pre.env.gasLimit, [], [], 0, [], 0,
          none⟩ = .ok σ ∧
      commit S = .ok result.stateRoot ∧ statedb = commitAndReopen true S ∧
      ∀ b, statedb.world.getBalance b =
          σ.statedb.world.getBalance b + blockCredit pre miningReward b ∧
        statedb.world.getNonce b = σ.statedb.world.getNonce b := by
  simp only [Prestate.apply] at h
  split at h
  · cases h
  rename_i σ hσ
  split at h
  · cases h
  rename_i root hroot
  cases h
  have hu := unmarked_applyTxs txs (unmarked_makePreState _ _) hσ
  have hS := unmarked_withdrawals (pre.env.withdrawals.getD []) _
    (unmarked_reward _ miningReward pre.env.coinbase
      ((StateDB.Extends.refl σ.statedb).unmarked_finalise hu true))
  refine ⟨σ, _, hσ, hroot, rfl, fun b => ⟨?_, ?_⟩⟩
  · rw [getBalance_commitAndReopen, StateDB.getBalance_finalise _ hS, getBalance_withdrawals,
      getBalance_reward, StateDB.getBalance_finalise _ hu, blockCredit, add_assoc]
  · rw [getNonce_commitAndReopen, StateDB.getNonce_finalise _ hS, getNonce_withdrawals,
      getNonce_reward, StateDB.getNonce_finalise _ hu]

/-- A prestate with two withdrawals: 2 GPlanck to `0x01`, 3 to the coinbase `0x00`. -/
def paymentsPre : Prestate := ⟨⟨0, none, 60000, 1, 0, none, some [⟨1, 2⟩, ⟨0, 3⟩], none⟩, []⟩

/-- With a mining reward of 5 and no transactions, `Apply` pays as the theorem says. -/
theorem apply_pays_paymentsPre :
    ∃ statedb result, paymentsPre.apply sampleEnv [] 5 (fun _ _ => .ok ()) (fun _ => .ok 0) =
        .ok (statedb, result) ∧
      ∃ σ S, applyTxs sampleEnv paymentsPre (fun _ _ => .ok ()) 0 []
          ⟨makePreState sampleEnv.vmConfig.crypto.keccak256Hash paymentsPre.pre,
            paymentsPre.env.gasLimit, [], [], 0, [], 0, none⟩ = .ok σ ∧
        (fun _ => .ok 0 : StateDB → Except String Hash) S = .ok result.stateRoot ∧
        statedb = commitAndReopen true S ∧
        ∀ b, statedb.world.getBalance b =
            σ.statedb.world.getBalance b + blockCredit paymentsPre 5 b ∧
          statedb.world.getNonce b = σ.statedb.world.getNonce b :=
  ⟨_, _, rfl, apply_pays_block_rewards paymentsPre sampleEnv [] 5 (fun _ _ => .ok ())
    (fun _ => .ok 0) _ _ rfl⟩

example : blockCredit paymentsPre 5 0 = 3000000005 ∧ blockCredit paymentsPre 5 1 = 2000000000 := by
  decide

end GoZond.T8n
