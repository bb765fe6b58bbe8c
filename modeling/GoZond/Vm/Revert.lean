import GoZond.Vm.Create

/-!
What the entry points leave behind when they fail.

`ZVM`'s documentation asks that any error be a revert-state-and-consume-all-gas operation. For
`Call`, `DelegateCall` and `StaticCall` this holds whatever the callee does: every path to an
error either returns before touching the state or ends in `settle`, whose revert undoes every
journaled call made since the snapshot (`Eff.run_revert`). For `create` it holds for every error
but `ErrCodeStoreOutOfGas`, which `settleCreate` lets through without reverting.
-/

namespace GoZond

/-- An entry point's result honours the error contract: on an error the state is the one it
started from, and the gas left is all of it after the entry's own checks and none after any
other error but a revert. -/
def RevertsOnError (s : StateDB) (gas : UInt64) (r : CallResult) : Prop :=
  ∀ e, r.err = some e → r.state = s ∧
    ((e = .errDepth ∨ e = .errInsufficientBalance) → r.leftOverGas = gas) ∧
    (e ≠ .errDepth → e ≠ .errInsufficientBalance → e ≠ .errExecutionReverted → r.leftOverGas = 0)

/-- What a precompile or a frame returns before `settle`: a state reached by journaled calls,
and never one of the errors the entry points raise themselves. -/
def Callee (s : StateDB) (r : CallResult) : Prop :=
  s.Extends r.state ∧ ∀ e, r.err = some e → e ≠ .errDepth ∧ e ≠ .errInsufficientBalance

lemma Halt.err_ne {h : Halt} {e : ZvmError} (he : h.err = some e) :
    e ≠ .errDepth ∧ e ≠ .errInsufficientBalance := by
  cases h <;> simp only [Halt.err, Option.some.injEq, reduceCtorEq] at he <;> subst he <;>
    exact ⟨nofun, nofun⟩

lemma callee_runPrecompiledContract (p : PrecompiledContract) (input : Bytes) (gas : UInt64)
    (s : StateDB) : Callee s (runPrecompiledContract p input gas s) := by
  simp only [runPrecompiledContract]
  split
  · exact ⟨.refl s, by rintro e ⟨⟩; exact ⟨nofun, nofun⟩⟩
  · split
    · exact ⟨.refl s, by rintro e ⟨⟩⟩
    · exact ⟨.refl s, by rintro e ⟨⟩; exact ⟨nofun, nofun⟩⟩

lemma callee_runFrame (zvm : ZVM) (c : Contract) (input : Bytes) (ro : Bool) (s : StateDB) :
    Callee s (zvm.runFrame c input ro s) :=
  ⟨Eff.extends_run _ _, fun _ he => Halt.err_ne he⟩

lemma callee_ok (ret : Bytes) (gas : UInt64) (s : StateDB) : Callee s ⟨ret, gas, none, s, []⟩ :=
  ⟨.refl s, by rintro e ⟨⟩⟩

@[simp] lemma err_settle (snapshot : Nat) (r : CallResult) : (settle snapshot r).err = r.err := by
  unfold settle; split <;> simp_all

lemma settle_state_of_none {snapshot : Nat} {r : CallResult} (h : (settle snapshot r).err = none) :
    (settle snapshot r).state = r.state := by
  rw [err_settle] at h
  simp [settle, h]

lemma settle_reverts {s s' : StateDB} {r : CallResult} (hs : s.Extends s') (hr : Callee s' r)
    (gas : UInt64) : RevertsOnError s gas (settle s.snapshot r) := by
  intro e he
  rw [err_settle] at he
  obtain ⟨hd, hb⟩ := hr.2 e he
  simp only [settle, he]
  exact ⟨(hs.trans hr.1), fun h => (h.elim hd hb).elim, fun _ _ h3 => if_neg h3⟩

lemma reverts_early {s : StateDB} {gas : UInt64} {e : Option ZvmError}
    (he : e = some .errDepth ∨ e = some .errInsufficientBalance ∨ e = none) :
    RevertsOnError s gas ⟨[], gas, e, s, []⟩ := by
  intro e' h
  simp only at h
  subst h
  exact ⟨rfl, fun _ => rfl, fun h1 h2 _ => by rcases he with h | h | h <;> simp_all⟩

namespace ZVM

variable (zvm : ZVM)

lemma callPrelude_inl {s : StateDB} {caller addr : Address} {gas : UInt64} {value : Int}
    {r : CallResult} (h : zvm.callPrelude s caller addr gas value = .inl r) :
    RevertsOnError s gas r := by
  obtain ⟨e, he, rfl⟩ := zvm.callPrelude_inl_eq h
  exact reverts_early he

lemma callPrelude_inr {s s' : StateDB} {caller addr : Address} {gas : UInt64} {value : Int}
    (h : zvm.callPrelude s caller addr gas value = .inr s') : s.Extends s' := by
  rcases (zvm.callPrelude_inr_eq h).2 with rfl | rfl
  exacts [.apply _ _, .refl _]

lemma callRun_reverts {s s' : StateDB} (h : s.Extends s') (caller addr : Address) (input : Bytes)
    (gas : UInt64) (value : Int) :
    RevertsOnError s gas (zvm.callRun s.snapshot caller addr input gas value s') := by
  have h₂ := h.trans (Eff.extends_run (zvm.context.transfer s'.world caller addr value) s')
  unfold callRun
  refine settle_reverts h₂ ?_ gas
  split
  · exact callee_runPrecompiledContract _ _ _ _
  · dsimp only
    split
    · exact callee_ok _ _ _
    · exact callee_runFrame _ _ _ _ _

lemma call_reverts (s : StateDB) (caller addr : Address) (input : Bytes) (gas : UInt64)
    (value : Int) : RevertsOnError s gas (zvm.call s caller addr input gas value) := by
  unfold call
  split
  · exact zvm.callPrelude_inl ‹_›
  · exact zvm.callRun_reverts (zvm.callPrelude_inr ‹_›) _ _ _ _ _

lemma delegateCall_reverts (s : StateDB) (caller : Contract) (addr : Address) (input : Bytes)
    (gas : UInt64) : RevertsOnError s gas (zvm.delegateCall s caller addr input gas) := by
  unfold delegateCall
  split
  · exact reverts_early (by simp)
  · refine settle_reverts (.refl s) ?_ gas
    split
    · exact callee_runPrecompiledContract _ _ _ _
    · exact callee_runFrame _ _ _ _ _

lemma staticCall_reverts (s : StateDB) (caller addr : Address) (input : Bytes) (gas : UInt64) :
    RevertsOnError s gas (zvm.staticCall s caller addr input gas) := by
  unfold staticCall
  split
  · exact reverts_early (by simp)
  · dsimp only
    refine settle_reverts (StateDB.Extends.apply s (.addBalance addr 0)) ?_ gas
    split
    · exact callee_runPrecompiledContract _ _ _ _
    · exact callee_runFrame _ _ _ _ _

end ZVM

/-- **Failed calls revert.** Whatever the callee, precompile, input, gas, value and prior state,
when `Call`, `DelegateCall` or `StaticCall` returns an error, the StateDB is exactly the one it
was called on, and the gas left is all of it after the depth and balance checks and none after
any other error but a revert. -/
theorem calls_revert_on_error (zvm : ZVM) (s : StateDB) (caller : Address) (parent : Contract)
    (addr : Address) (input : Bytes) (gas : UInt64) (value : Int) :
    RevertsOnError s gas (zvm.call s caller addr input gas value) ∧
    RevertsOnError s gas (zvm.delegateCall s parent addr input gas) ∧
    RevertsOnError s gas (zvm.staticCall s caller addr input gas) :=
  ⟨zvm.call_reverts s caller addr input gas value, zvm.delegateCall_reverts s parent addr input gas,
    zvm.staticCall_reverts s caller addr input gas⟩

/-! ### `create` -/

@[simp] lemma err_settleCreate (snapshot : Nat) (r : CreateResult) :
    (settleCreate snapshot r).err = r.err := by
  unfold settleCreate
  split
  · rfl
  · split <;> rfl

lemma settleCreate_eq_self {snapshot : Nat} {r : CreateResult}
    (h : ∀ e, r.err = some e → e = .errCodeStoreOutOfGas) : settleCreate snapshot r = r := by
  unfold settleCreate
  split
  · rfl
  · rw [if_pos (h _ ‹_›)]

lemma settleCreate_of_err {snapshot : Nat} {r : CreateResult} {e : ZvmError} (he : r.err = some e)
    (hc : e ≠ .errCodeStoreOutOfGas) :
    (settleCreate snapshot r).state = r.state.revertToSnapshot snapshot ∧
    (settleCreate snapshot r).leftOverGas =
      if e = .errExecutionReverted then r.leftOverGas else 0 := by
  simp [settleCreate, he, hc]

lemma ZVM.deploy_extends (zvm : ZVM) (address : Address) (ret : Bytes) (g : UInt64)
    (err : Option ZvmError) (l : List UInt64) (s : StateDB) :
    s.Extends (zvm.deploy address ret g err l s).state := by
  unfold ZVM.deploy
  split
  · exact .refl s
  · dsimp only
    split
    · exact .refl s
    · exact .apply s _

namespace ZVM

variable (zvm : ZVM) {s : StateDB} {caller address : Address} {gas : UInt64} {value : Int}

lemma createPrelude_inl (hd : ¬ callCreateDepth < zvm.depth)
    (hb : zvm.context.canTransfer s.world caller value = true)
    (hn : ¬ s.world.getNonce caller + 1 < s.world.getNonce caller) {r : CreateResult}
    (h : zvm.createPrelude s caller gas value address = .inl r) :
    r = ⟨[], 0, 0, some .errContractAddressCollision, createBase s caller address, []⟩ := by
  simp only [createPrelude, hd, hb, hn, Bool.not_true, Bool.false_eq_true, ↓reduceIte] at h
  split at h
  · cases h; rfl
  · cases h

lemma createPrelude_inr {snapshot : Nat} {s' : StateDB}
    (h : zvm.createPrelude s caller gas value address = .inr (snapshot, s')) :
    snapshot = (createBase s caller address).snapshot ∧
      (createBase s caller address).Extends s' := by
  obtain ⟨-, rfl, rfl⟩ := zvm.createPrelude_inr_eq h
  exact ⟨rfl, (StateDB.Extends.apply _ _).trans (.apply _ _)⟩

end ZVM

lemma ZVM.createRun_reverts (zvm : ZVM) {s s' : StateDB} {caller address : Address} {gas : UInt64}
    {value : Int} {snapshot : Nat}
    (hp : zvm.createPrelude s caller gas value address = .inr (snapshot, s')) (ch : CodeAndHash)
    {e : ZvmError} (he : (zvm.createRun snapshot caller ch gas value address s').err = some e)
    (hc : e ≠ .errCodeStoreOutOfGas) :
    (zvm.createRun snapshot caller ch gas value address s').state = createBase s caller address ∧
    (e ≠ .errExecutionReverted →
      (zvm.createRun snapshot caller ch gas value address s').leftOverGas = 0) := by
  obtain ⟨rfl, hs'⟩ := zvm.createPrelude_inr hp
  simp only [ZVM.createRun, err_settleCreate] at he ⊢
  obtain ⟨hstate, hgas⟩ := settleCreate_of_err he hc
  refine ⟨?_, fun hr => by rw [hgas, if_neg hr]⟩
  rw [hstate]
  exact hs'.trans ((Eff.extends_run _ _).trans ((Eff.extends_run _ _).trans
    (zvm.deploy_extends _ _ _ _ _ _)))

lemma codeCheck_eq_some {ret : Bytes} {err : Option ZvmError} {e : ZvmError}
    (h : codeCheck ret err = some e) :
    e = .errMaxCodeSizeExceeded ∨ e = .errInvalidCode ∨ err = some e := by
  simp only [codeCheck] at h
  split_ifs at h <;> cases h <;> simp_all

lemma ZVM.deploy_err (zvm : ZVM) {address : Address} {ret : Bytes} {g : UInt64}
    {err : Option ZvmError} {l : List UInt64} {s : StateDB} {e : ZvmError}
    (h : (zvm.deploy address ret g err l s).err = some e) :
    e = .errMaxCodeSizeExceeded ∨ e = .errInvalidCode ∨ e = .errCodeStoreOutOfGas ∨
      err = some e := by
  unfold ZVM.deploy at h
  split at h
  · cases h
    rcases codeCheck_eq_some ‹_› with h | h | h
    exacts [.inl h, .inr (.inl h), .inr (.inr (.inr h))]
  · dsimp only at h
    split at h <;> cases h
    exact .inr (.inr (.inl rfl))

lemma ZVM.createRun_err_ne (zvm : ZVM) {snapshot : Nat} {caller address : Address}
    {ch : CodeAndHash} {gas : UInt64} {value : Int} {s' : StateDB} {e : ZvmError}
    (he : (zvm.createRun snapshot caller ch gas value address s').err = some e) :
    ¬ (e = .errDepth ∨ e = .errInsufficientBalance ∨ e = .errNonceUintOverflow) := by
  simp only [ZVM.createRun, err_settleCreate] at he
  rcases zvm.deploy_err he with rfl | rfl | rfl | h
  · decide
  · decide
  · decide
  · revert h
    cases (zvm.interpret _ _ _ _).halt <;> rintro ⟨⟩ <;> simp

lemma ZVM.create_err_cases (zvm : ZVM) (s : StateDB) (caller : Address) (ch : CodeAndHash)
    (gas : UInt64) (value : Int) (address : Address) {e : ZvmError}
    (he : (zvm.create s caller ch gas value address).err = some e)
    (hc : e ≠ .errCodeStoreOutOfGas) :
    ((e = .errDepth ∨ e = .errInsufficientBalance ∨ e = .errNonceUintOverflow) ∧
        (zvm.create s caller ch gas value address).state = s ∧
        (zvm.create s caller ch gas value address).leftOverGas = gas) ∨
      (¬ (e = .errDepth ∨ e = .errInsufficientBalance ∨ e = .errNonceUintOverflow) ∧
        (zvm.create s caller ch gas value address).state = createBase s caller address ∧
        (e ≠ .errExecutionReverted →
          (zvm.create s caller ch gas value address).leftOverGas = 0)) := by
  unfold ZVM.create at he ⊢
  cases hr : zvm.createPrelude s caller gas value address with
  | inl r =>
    simp only [hr] at he ⊢
    rcases zvm.createPrelude_inl_eq hr with ⟨e', he', rfl⟩ | rfl <;> cases he
    · exact .inl ⟨he', rfl, rfl⟩
    · exact .inr ⟨by decide, rfl, fun _ => rfl⟩
  | inr p =>
    obtain ⟨snapshot, s'⟩ := p
    simp only [hr] at he ⊢
    exact .inr ⟨zvm.createRun_err_ne he, zvm.createRun_reverts hr ch he hc⟩

/-- **Failed creations revert, all but one.** Past its depth, balance and nonce checks, when
`create` fails with an error other than `ErrCodeStoreOutOfGas`, the state is the one it was called
on with the caller's nonce incremented and the new address in the access list, and no gas is left
unless the init code reverted. -/
theorem create_error_reverts (zvm : ZVM) (s : StateDB) (caller : Address) (ch : CodeAndHash)
    (gas : UInt64) (value : Int) (address : Address) (hd : ¬ callCreateDepth < zvm.depth)
    (hb : zvm.context.canTransfer s.world caller value = true)
    (hn : ¬ s.world.getNonce caller + 1 < s.world.getNonce caller) (e : ZvmError)
    (he : (zvm.create s caller ch gas value address).err = some e)
    (hc : e ≠ .errCodeStoreOutOfGas) :
    (zvm.create s caller ch gas value address).state = createBase s caller address ∧
    (e ≠ .errExecutionReverted → (zvm.create s caller ch gas value address).leftOverGas = 0) := by
  unfold ZVM.create at he ⊢
  cases hr : zvm.createPrelude s caller gas value address with
  | inl r => simp [zvm.createPrelude_inl hd hb hn hr]
  | inr p =>
    obtain ⟨snapshot, s'⟩ := p
    simp only [hr] at he ⊢
    exact zvm.createRun_reverts hr ch he hc

/-! ### A creation whose code cannot be paid for -/

/-- A ZVM with the core transfer functions whose init code writes `1` to slot `0` of the new
account and halts in `h` at once, returning the one byte `0x00` and all its gas. -/
def deployZvm (h : Halt) : ZVM where
  context := ⟨canTransfer, transfer, fun _ => 0, 0, 0, 0, 0, none, none⟩
  txContext := ⟨0, 0⟩
  depth := 0
  precompiles := fun _ => none
  interpreter := fun _ _ _ c _ _ _ =>
    ⟨[0], c.gas, UInt64.le_refl _, h, .mutate (.setState c.address 0 1) .done, []⟩
  crypto := ⟨fun _ => 1, fun _ _ => 2, fun _ _ _ => 2⟩

/-- The init code that runs out of gas is undone: only the nonce and the access list remain. -/
theorem create_outOfGas_reverts :
    ¬ callCreateDepth < (deployZvm .outOfGas).depth ∧
    (deployZvm .outOfGas).context.canTransfer StateDB.empty.world 1 0 = true ∧
    ¬ StateDB.empty.world.getNonce 1 + 1 < StateDB.empty.world.getNonce 1 ∧
    ((deployZvm .outOfGas).create StateDB.empty 1 ⟨[0x60], 0⟩ 100 0 2).err = some .errOutOfGas ∧
    ZvmError.errOutOfGas ≠ .errCodeStoreOutOfGas ∧
    (((deployZvm .outOfGas).create StateDB.empty 1 ⟨[0x60], 0⟩ 100 0 2).state =
        createBase StateDB.empty 1 2 ∧
      (ZvmError.errOutOfGas ≠ .errExecutionReverted →
        ((deployZvm .outOfGas).create StateDB.empty 1 ⟨[0x60], 0⟩ 100 0 2).leftOverGas = 0)) :=
  ⟨by decide, by decide, by decide, by decide, by decide,
    create_error_reverts (deployZvm .outOfGas) StateDB.empty 1 ⟨[0x60], 0⟩ 100 0 2 (by decide)
      (by decide) (by decide) _ (by decide) (by decide)⟩

/-- A ZVM with the core transfer functions whose init code is `PUSH1 0 PUSH1 0 MSTORE8 PUSH1 1
PUSH1 0 RETURN`: it spends 18 gas to return the one byte `0x00`, and runs out of gas with
less. -/
def returnByteZvm : ZVM where
  context := ⟨canTransfer, transfer, fun _ => 0, 0, 0, 0, 0, none, none⟩
  txContext := ⟨0, 0⟩
  depth := 0
  precompiles := fun _ => none
  interpreter := fun _ _ _ c _ _ _ =>
    if h : 18 ≤ c.gas then ⟨[0], c.gas - 18, u64_sub_le h, .success, .done, []⟩
    else ⟨[], 0, u64_zero_le _, .outOfGas, .done, []⟩
  crypto := ⟨fun _ => 1, fun _ _ => 2, fun _ _ _ => 2⟩

/-- A state for the examples: `0x01` holds 100 and `0x02`, an account with no code, holds 5. -/
def fundedState : StateDB := (StateDB.empty.apply (.addBalance 1 100)).apply (.addBalance 2 5)

/-- With 100 gas the init code leaves 82, and storing its one byte of code costs 200: `create`
fails with `ErrCodeStoreOutOfGas`, yet keeps the new account at `0x02` and the 10 moved to it,
and returns the 82 gas. -/
theorem create_codeStoreOutOfGas_keeps_writes :
    (returnByteZvm.create fundedState 1 ⟨[0x60, 0, 0x60, 0, 0x53, 0x60, 1, 0x60, 0, 0xf3], 0⟩ 100
      10 2).err = some .errCodeStoreOutOfGas ∧
    (returnByteZvm.create fundedState 1 ⟨[0x60, 0, 0x60, 0, 0x53, 0x60, 1, 0x60, 0, 0xf3], 0⟩ 100
      10 2).leftOverGas = 82 ∧
    (returnByteZvm.create fundedState 1 ⟨[0x60, 0, 0x60, 0, 0x53, 0x60, 1, 0x60, 0, 0xf3], 0⟩ 100
      10 2).state.world.getNonce 2 = 1 ∧
    (returnByteZvm.create fundedState 1 ⟨[0x60, 0, 0x60, 0, 0x53, 0x60, 1, 0x60, 0, 0xf3], 0⟩ 100
      10 2).state.world.getBalance 2 = 15 ∧
    (returnByteZvm.create fundedState 1 ⟨[0x60, 0, 0x60, 0, 0x53, 0x60, 1, 0x60, 0, 0xf3], 0⟩ 100
      10 2).state.world.getBalance 1 = 90 ∧
    (createBase fundedState 1 2).world.getNonce 2 = 0 ∧
    (createBase fundedState 1 2).world.getBalance 2 = 5 ∧
    (createBase fundedState 1 2).world.getBalance 1 = 100 := by
  decide

end GoZond
