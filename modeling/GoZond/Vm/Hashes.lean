import GoZond.Vm.Create

/-!
Which block hashes the entry points read.

Of the block context, the code queries `GetHash` one number at a time (`BLOCKHASH`) and the
interpreter reports the numbers it asked for. An interpreter that reads `GetHash` only at those
numbers runs a frame the same way under any `GetHash` that agrees with the context's there. The
entry points run at most one frame each and hand its lookups back, so they inherit this:
`Call` and `create` give the same result under any `GetHash` that agrees at the numbers they
report, and look up only what their code does (`LooksUpOnly`).
-/

namespace GoZond

@[simp] lemma hashLookups_runPrecompiledContract (p : PrecompiledContract) (input : Bytes)
    (g : UInt64) (s : StateDB) : (runPrecompiledContract p input g s).hashLookups = [] := by
  simp only [runPrecompiledContract]
  split
  · rfl
  · split <;> rfl

@[simp] lemma hashLookups_settle (snapshot : Nat) (r : CallResult) :
    (settle snapshot r).hashLookups = r.hashLookups := by
  unfold settle
  split <;> rfl

@[simp] lemma hashLookups_settleCreate (snapshot : Nat) (r : CreateResult) :
    (settleCreate snapshot r).hashLookups = r.hashLookups := by
  unfold settleCreate
  split
  · rfl
  · split <;> rfl

namespace ZVM

variable (zvm : ZVM) {getHash : UInt64 → Hash}

@[simp] lemma hashLookups_deploy (address : Address) (ret : Bytes) (g : UInt64)
    (err : Option ZvmError) (l : List UInt64) (s : StateDB) :
    (zvm.deploy address ret g err l s).hashLookups = l := by
  unfold deploy
  split
  · rfl
  · dsimp only
    split <;> rfl

@[simp] lemma callPrelude_withGetHash (s : StateDB) (caller addr : Address) (gas : UInt64)
    (value : Int) :
    (zvm.withGetHash getHash).callPrelude s caller addr gas value =
      zvm.callPrelude s caller addr gas value := rfl

@[simp] lemma createPrelude_withGetHash (s : StateDB) (caller : Address) (gas : UInt64)
    (value : Int) (address : Address) :
    (zvm.withGetHash getHash).createPrelude s caller gas value address =
      zvm.createPrelude s caller gas value address := rfl

@[simp] lemma context_withGetHash :
    (zvm.withGetHash getHash).context = { zvm.context with getHash := getHash } := rfl

@[simp] lemma precompile_withGetHash : (zvm.withGetHash getHash).precompile = zvm.precompile := rfl

@[simp] lemma crypto_withGetHash : (zvm.withGetHash getHash).crypto = zvm.crypto := rfl

section GetHash

variable {zvm} (hr : zvm.interpreter.ReadsLookedUpHashes)
include hr

lemma interpret_withGetHash {c : Contract} {input : Bytes} {ro : Bool} {s : StateDB}
    (hg : ∀ num ∈ (zvm.interpret c input ro s).hashLookups, getHash num = zvm.context.getHash num) :
    (zvm.withGetHash getHash).interpret c input ro s = zvm.interpret c input ro s :=
  hr _ _ _ _ _ _ _ _ hg

lemma runFrame_withGetHash {c : Contract} {input : Bytes} {ro : Bool} {s : StateDB}
    (hg : ∀ num ∈ (zvm.runFrame c input ro s).hashLookups, getHash num = zvm.context.getHash num) :
    (zvm.withGetHash getHash).runFrame c input ro s = zvm.runFrame c input ro s := by
  simp only [runFrame, interpret_withGetHash hr hg]

lemma call_withGetHash (s : StateDB) (caller addr : Address) (input : Bytes) (gas : UInt64)
    (value : Int)
    (hg : ∀ num ∈ (zvm.call s caller addr input gas value).hashLookups,
      getHash num = zvm.context.getHash num) :
    (zvm.withGetHash getHash).call s caller addr input gas value =
      zvm.call s caller addr input gas value := by
  unfold call callRun at hg ⊢
  rw [callPrelude_withGetHash]
  split at hg
  · rfl
  · simp only [context_withGetHash, precompile_withGetHash, hashLookups_settle] at hg ⊢
    split at hg
    · rfl
    · split_ifs at hg ⊢
      · rfl
      · rw [runFrame_withGetHash hr hg]

lemma create_withGetHash (s : StateDB) (caller : Address) (ch : CodeAndHash) (gas : UInt64)
    (value : Int) (address : Address)
    (hg : ∀ num ∈ (zvm.create s caller ch gas value address).hashLookups,
      getHash num = zvm.context.getHash num) :
    (zvm.withGetHash getHash).create s caller ch gas value address =
      zvm.create s caller ch gas value address := by
  unfold create createRun at hg ⊢
  rw [createPrelude_withGetHash]
  split at hg
  · rfl
  · simp only [context_withGetHash, crypto_withGetHash, hashLookups_settleCreate,
      hashLookups_deploy] at hg ⊢
    rw [interpret_withGetHash hr hg]
    rfl

end GetHash

/-- The code the ZVM runs looks up only numbers with `P`. -/
def LooksUpOnly (P : UInt64 → Prop) : Prop :=
  ∀ c input ro s, ∀ num ∈ (zvm.interpret c input ro s).hashLookups, P num

section LooksUp

variable {zvm} {P : UInt64 → Prop} (hP : zvm.LooksUpOnly P)
include hP

lemma call_looksUpOnly (s : StateDB) (caller addr : Address) (input : Bytes) (gas : UInt64)
    (value : Int) : ∀ num ∈ (zvm.call s caller addr input gas value).hashLookups, P num := by
  unfold call
  split
  · obtain ⟨e, -, rfl⟩ := zvm.callPrelude_inl_eq ‹_›
    exact nofun
  · unfold callRun
    simp only [hashLookups_settle]
    split
    · simp
    · split_ifs
      · exact nofun
      · exact hP _ _ _ _

lemma create_looksUpOnly (s : StateDB) (caller : Address) (ch : CodeAndHash) (gas : UInt64)
    (value : Int) (address : Address) :
    ∀ num ∈ (zvm.create s caller ch gas value address).hashLookups, P num := by
  unfold create
  split
  · rcases zvm.createPrelude_inl_eq ‹_› with ⟨e, -, rfl⟩ | rfl <;> exact nofun
  · simp only [createRun, hashLookups_settleCreate, hashLookups_deploy]
    exact hP _ _ _ _

end LooksUp

end ZVM

end GoZond
