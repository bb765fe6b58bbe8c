import GoZond.T8n.Execution
import GoZond.Core.StateTransition

/-!
`Apply` over the state transition of the spec.

The loop of `Apply` works with any `ApplyMessage`; here it is the state transition of
`Core/StateTransition.lean`. Then a transaction is included exactly when its message passes the
checks of the transition (nonce, funds, pool and intrinsic gas) against the StateDB and the pool
the loop has reached, and an included transaction is charged at least its intrinsic gas, even
when its execution fails; a transaction that fails the checks is rejected and leaves no trace.
This is the distinction the spec draws between a rejection and an in-execution revert (§4.5).
-/

namespace GoZond.T8n

lemma stateTransition_error_of_not_valid {intrinsicGas : Message → UInt64} (zvm : ZVM)
    {msg : Message} {gp : UInt64} {s : StateDB} (h : ¬ Valid intrinsicGas msg gp s.world) :
    ∃ e, (stateTransition intrinsicGas zvm msg gp s).result = .error e := by
  rcases stateTransition_of_not_valid zvm h with ⟨e, -, he⟩ | he <;> exact ⟨_, by rw [he]⟩

/-- **`Apply` includes exactly the transactions whose messages pass the checks.** With the
state transition as `ApplyMessage`, an input transaction that converts to a message and gets a
tracer, from a loop state with no hash error, where the prestate provides every block hash the
message's run looks up: if the message passes the checks against the StateDB and the pool the
loop reached, the transaction is included, under a receipt charging at least its intrinsic gas
and at most its gas limit; if not, it is rejected, the StateDB, the pool and the bookkeeping
left as they were. -/
theorem apply_includes_valid (intrinsicGas : Message → UInt64) (env : Env) (pre : Prestate)
    (getTracerFn : Nat → Hash → Except String Unit) (i : Nat) (tx : Transaction) (σ : ApplyState)
    (msg : Message) (happ : env.applyMessage = applyMessage intrinsicGas)
    (hm : transactionToMessage env.sender tx pre.env.baseFee = .ok msg)
    (ht : getTracerFn σ.txIndex (env.digests.txHash tx) = .ok ()) (hσ : σ.hashError = none)
    (hh : ∀ num ∈ (env.applyMessage (env.vmConfig.newZVM pre.vmContext (newZVMTxContext msg)) msg
      σ.gaspool (σ.statedb.setTxContext (env.digests.txHash tx) σ.txIndex)).hashLookups,
        (pre.env.getHash num).2 = none) :
    ∃ σ', applyTx env pre getTracerFn i tx σ = .ok σ' ∧
      (Valid intrinsicGas msg σ.gaspool σ.statedb.world →
        ∃ r, Included env.digests.txHash tx σ σ' r ∧
          intrinsicGas msg ≤ r.gasUsed ∧ r.gasUsed ≤ msg.gasLimit) ∧
      (¬ Valid intrinsicGas msg σ.gaspool σ.statedb.world → ∃ e, Rejected i e σ σ') := by
  by_cases hv : Valid intrinsicGas msg σ.gaspool σ.statedb.world
  · obtain ⟨res, hres, hlo, hhi⟩ := stateTransition_usedGas
      (s := σ.statedb.setTxContext (env.digests.txHash tx) σ.txIndex)
      (env.vmConfig.newZVM pre.vmContext (newZVMTxContext msg)) hv
    obtain ⟨σ', r, h, hinc, hg⟩ := applyTx_of_result_ok (i := i) hm ht
      (by rw [happ, result_applyMessage]; exact hres)
      (by rw [StEnv.recordLookups_of_provided _ hh, hσ])
    exact ⟨σ', h, fun _ => ⟨r, hinc, hg ▸ hlo, hg ▸ hhi⟩, absurd hv⟩
  · obtain ⟨e, he⟩ := stateTransition_error_of_not_valid
      (s := σ.statedb.setTxContext (env.digests.txHash tx) σ.txIndex)
      (env.vmConfig.newZVM pre.vmContext (newZVMTxContext msg)) hv
    obtain ⟨σ', h, hrej⟩ := applyTx_of_result_error (i := i) hm ht
      (by rw [happ, result_applyMessage]; exact he)
    exact ⟨σ', h, fun h' => absurd h' hv, fun _ => ⟨e, hrej⟩⟩

/-- A loop state over `sampleState`, where `0x01` holds 100000, with 60000 gas in the pool. -/
def sampleLoopState : ApplyState := ⟨sampleState, 60000, [], [], 0, [], 0, none⟩

/-- A transfer from `0x01` with 21000 gas at a price of 1, at the start of the loop. -/
theorem apply_includes_sampleTx :
    ∃ msg, transactionToMessage transitionEnv.sender (sampleTx 0 21000) samplePre.env.baseFee =
        .ok msg ∧
      ∃ σ', applyTx transitionEnv samplePre (fun _ _ => .ok ()) 0 (sampleTx 0 21000)
          sampleLoopState = .ok σ' ∧
        (Valid (fun _ => 21000) msg sampleLoopState.gaspool sampleLoopState.statedb.world →
          ∃ r, Included transitionEnv.digests.txHash (sampleTx 0 21000) sampleLoopState σ' r ∧
            21000 ≤ r.gasUsed ∧ r.gasUsed ≤ msg.gasLimit) ∧
        (¬ Valid (fun _ => 21000) msg sampleLoopState.gaspool sampleLoopState.statedb.world →
          ∃ e, Rejected 0 e sampleLoopState σ') :=
  ⟨_, rfl, apply_includes_valid (fun _ => 21000) transitionEnv samplePre (fun _ _ => .ok ()) 0
    (sampleTx 0 21000) sampleLoopState _ rfl rfl rfl rfl nofun⟩

example : ∃ σ', applyTx transitionEnv samplePre (fun _ _ => .ok ()) 0 (sampleTx 0 21000)
    sampleLoopState = .ok σ' ∧ σ'.includedTxs = [sampleTx 0 21000] ∧ σ'.gasUsed = 21000 :=
  ⟨_, rfl, rfl, rfl⟩

end GoZond.T8n
