import GoZond.T8n.Agreement

/-!
Which block hashes the transition tool reads.

The prestate lists block hashes by number, and `Apply` reads the list only through its `getHash`
closure, at the numbers a message run looks up. When `ApplyMessage` and the interpreter read
`GetHash` only there, the whole of `Apply` (the StateDB, the result, and the errors it records
or returns) is the same under any list that answers the same at those numbers: a prestate may
carry more hashes, or other ones, without changing what the tool computes.
-/

namespace GoZond.T8n

/-- The prestate with the block hashes `hashes` in its environment. -/
def Prestate.withBlockHashes (pre : Prestate) (hashes : Option (List (UInt64 × Hash))) :
    Prestate :=
  ⟨{ pre.env with blockHashes := hashes }, pre.pre⟩

@[simp] lemma Prestate.baseFee_withBlockHashes (pre : Prestate) (hashes) :
    (pre.withBlockHashes hashes).env.baseFee = pre.env.baseFee := rfl

lemma StEnv.recordLookups_congr {env env' : StEnv} (hashError : Option String)
    {nums : List UInt64} (h : ∀ num ∈ nums, env'.getHash num = env.getHash num) :
    env'.recordLookups hashError nums = env.recordLookups hashError nums := by
  induction nums generalizing hashError with
  | nil => rfl
  | cons num nums ih =>
    simp only [StEnv.recordLookups, h num (List.mem_cons_self _ _)]
    exact ih _ fun n hn => h n (List.mem_cons_of_mem _ hn)

section Hashes

variable {env : Env} {pre : Prestate} {hashes : Option (List (UInt64 × Hash))}
  (hloc : ReadsLookedUpHashes env.applyMessage)
  (hint : env.vmConfig.interpreter.ReadsLookedUpHashes)
  (hagree : ∀ t msg gp s,
    ∀ num ∈ (env.applyMessage (env.vmConfig.newZVM pre.vmContext t) msg gp s).hashLookups,
      (pre.withBlockHashes hashes).env.getHash num = pre.env.getHash num)
include hloc hint hagree

lemma applyMessage_withBlockHashes (t : TxContext) (msg : Message) (gp : UInt64) (s : StateDB) :
    env.applyMessage (env.vmConfig.newZVM (pre.withBlockHashes hashes).vmContext t) msg gp s =
      env.applyMessage (env.vmConfig.newZVM pre.vmContext t) msg gp s :=
  hloc _ msg gp s _ hint fun num hn => congrArg Prod.fst (hagree t msg gp s num hn)

lemma applyTx_withBlockHashes (getTracerFn : Nat → Hash → Except String Unit) (i : Nat)
    (tx : Transaction) (σ : ApplyState) :
    applyTx env (pre.withBlockHashes hashes) getTracerFn i tx σ =
      applyTx env pre getTracerFn i tx σ := by
  simp only [applyTx, Prestate.baseFee_withBlockHashes,
    applyMessage_withBlockHashes hloc hint hagree, StEnv.recordLookups_congr _ (hagree _ _ _ _)]
  rfl

lemma applyTxs_withBlockHashes (getTracerFn : Nat → Hash → Except String Unit) (i : Nat)
    (txs : List Transaction) (σ : ApplyState) :
    applyTxs env (pre.withBlockHashes hashes) getTracerFn i txs σ =
      applyTxs env pre getTracerFn i txs σ := by
  induction txs generalizing i σ with
  | nil => rfl
  | cons tx txs ih => simp only [applyTxs, applyTx_withBlockHashes hloc hint hagree, ih]

end Hashes

/-- `blockhashPre` with the accounts of `sampleState`: `0x01` holds 100000 and `0x02` has code. -/
def fundedBlockhashPre : Prestate :=
  { blockhashPre with pre := [(1, ⟨[], [], 100000, 0⟩), (2, ⟨[0], [], 0, 0⟩)] }

lemma fundedBlockhashPre_agrees (t : TxContext) (msg : Message) (gp : UInt64) (s : StateDB) :
    ∀ num ∈ (blockhashProcessor.env.applyMessage
        (blockhashProcessor.env.vmConfig.newZVM fundedBlockhashPre.vmContext t) msg gp
          s).hashLookups,
      (fundedBlockhashPre.withBlockHashes (some [(0, 7), (5, 12)])).env.getHash num =
        fundedBlockhashPre.env.getHash num := fun num hn => by
  have hP : (blockhashProcessor.env.vmConfig.newZVM fundedBlockhashPre.vmContext t).LooksUpOnly
      (· = 1 - 1) := fun _ _ _ _ _ hn => List.mem_singleton.1 hn
  obtain rfl : num = 1 - 1 := stateTransition_looksUpOnly hP num hn
  rfl

/-- The tool includes two transfers, and the code stores the hash of block 0, `7`, at `0x02`. -/
example : ∃ r, fundedBlockhashPre.apply blockhashProcessor.env sampleBlock.transactions 5
    (fun _ _ => .ok ()) (fun _ => .ok 0) = .ok r ∧
      r.2.rejected.map RejectedTx.index = [2] ∧ r.1.world.getState 2 0 = 7 :=
  ⟨_, rfl, rfl, rfl⟩

/-- Without the hash of block 0 the same block fails with `ErrorMissingBlockhash`. -/
example : ∃ e, (fundedBlockhashPre.withBlockHashes (some [(5, 12)])).apply blockhashProcessor.env
    sampleBlock.transactions 5 (fun _ _ => .ok ()) (fun _ => .ok 0) =
      .error (.missingBlockhash e) :=
  ⟨_, rfl⟩

end GoZond.T8n
