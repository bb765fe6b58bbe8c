import GoZond.Vm.Revert

/-!
Value transfers never overdraw.

`Call` checks `CanTransfer` only for a non-zero value and `create` always does; both then make
writes before the transfer: the snapshot, the nonce increment, the collision check and the
creation of the target account. None of them moves a balance (`CreateAccount` carries the old
balance over), so with the `core.CanTransfer` and `core.Transfer` that every caller in src supplies,
the caller still covers the value when it is debited, whether or not the target is the caller.

The argument is the same for any property of the world: what the code the entry points run
keeps, and the entry points' own writes keep, `Call`, `create`, `DelegateCall` and `StaticCall`
keep (`call_keeps`, `create_keeps`, `delegateCall_keeps`, `staticCall_keeps`).
-/

namespace GoZond

/-- No balance is negative (§3). -/
def NonnegBalances (w : World) : Prop := ∀ a, 0 ≤ w.getBalance a

/-- The interpreter never makes a balance negative. -/
def ZVM.KeepsBalancesNonneg (zvm : ZVM) : Prop :=
  ∀ c input ro s, NonnegBalances s.world →
    NonnegBalances ((zvm.interpret c input ro s).eff.run s).world

lemma NonnegBalances.of_eq {w w' : World} (h : NonnegBalances w)
    (he : ∀ a, w'.getBalance a = w.getBalance a) : NonnegBalances w' :=
  fun a => he a ▸ h a

lemma NonnegBalances.addBalance {s : StateDB} (h : NonnegBalances s.world) (a : Address) {v : Int}
    (hv : 0 ≤ v) : NonnegBalances (s.apply (.addBalance a v)).world := fun b => by
  have ha := h a
  have hb := h b
  simp only [StateDB.world_apply, World.getBalance_addBalance]
  split <;> omega

lemma NonnegBalances.finalise {s : StateDB} (h : NonnegBalances s.world) (d : Bool) :
    NonnegBalances (s.finalise d).world := fun b => by
  rcases s.accounts_finalise d b with hb | ⟨o, -, -, hb⟩
  · simp only [World.getBalance, World.getOrNew, hb]
    exact h b
  · simp [World.getBalance, World.getOrNew, hb, Account.fresh]

lemma transfer_nonneg {s : StateDB} (hs : NonnegBalances s.world) {caller addr : Address}
    {v : Int} (hv : 0 ≤ v) (hc : v ≤ s.world.getBalance caller) :
    NonnegBalances ((transfer s.world caller addr v).run s).world := by
  intro b
  have h1 := hs b
  have h2 := hs addr
  simp only [transfer, Eff.ofList_cons, Eff.ofList_nil, Eff.run_mutate, Eff.run_done,
    StateDB.world_apply, World.getBalance_subBalance, World.getBalance_addBalance]
  split <;> split <;> subst_vars <;> omega

namespace ZVM

variable (zvm : ZVM) {s s' : StateDB} {caller addr : Address} {gas : UInt64} {value : Int}

lemma callPrelude_balances (h : zvm.callPrelude s caller addr gas value = .inr s') (b : Address) :
    s'.world.getBalance b = s.world.getBalance b := by
  rcases (zvm.callPrelude_inr_eq h).2 with rfl | rfl <;> simp

lemma callPrelude_covers (hc : zvm.context.canTransfer = canTransfer)
    (hs : NonnegBalances s.world) (h : zvm.callPrelude s caller addr gas value = .inr s') :
    value ≤ s.world.getBalance caller := by
  by_cases hv : value = 0
  · exact hv ▸ hs caller
  · simpa [hc, canTransfer] using (zvm.callPrelude_inr_eq h).1 hv

lemma callPrelude_inl_state {r : CallResult}
    (h : zvm.callPrelude s caller addr gas value = .inl r) :
    r.state = s := by
  obtain ⟨e, -, rfl⟩ := zvm.callPrelude_inl_eq h
  rfl

lemma createPrelude_balances {n : Nat}
    (h : zvm.createPrelude s caller gas value addr = .inr (n, s')) (b : Address) :
    s'.world.getBalance b = s.world.getBalance b := by
  obtain ⟨-, -, rfl⟩ := zvm.createPrelude_inr_eq h
  simp [createBase]

lemma createPrelude_covers (hc : zvm.context.canTransfer = canTransfer) {n : Nat}
    (h : zvm.createPrelude s caller gas value addr = .inr (n, s')) :
    value ≤ s.world.getBalance caller := by
  simpa [hc, canTransfer] using (zvm.createPrelude_inr_eq h).1

lemma deploy_keeps {P : World → Prop} {address : Address} {ret : Bytes} {g : UInt64}
    {err : Option ZvmError} {l : List UInt64}
    (hcode : ∀ (t : StateDB) (code : Bytes) (hash : Hash), P t.world →
      P (t.apply (.setCode address code hash)).world) (h : P s.world) :
    P (zvm.deploy address ret g err l s).state.world := by
  unfold deploy
  split
  · exact h
  · dsimp only
    split
    · exact h
    · exact hcode _ _ _ h

lemma transfer_run_nonneg (target : Address) (ht : zvm.context.transfer = transfer)
    (hs : NonnegBalances s.world) (hv : 0 ≤ value)
    (hbal : ∀ b, s'.world.getBalance b = s.world.getBalance b)
    (hcov : value ≤ s.world.getBalance caller) :
    NonnegBalances ((zvm.context.transfer s'.world caller target value).run s').world := by
  rw [ht]
  exact transfer_nonneg (hs.of_eq hbal) hv (by rw [hbal]; exact hcov)

/-- The code the entry points run keeps `P`: run from a world with `P`, its calls leave one. -/
def Keeps (P : World → Prop) : Prop :=
  ∀ c input ro s, P s.world → P ((zvm.interpret c input ro s).eff.run s).world

lemma createRun_keeps (P : World → Prop) (hk : zvm.Keeps P) {n : Nat}
    (hp : zvm.createPrelude s caller gas value addr = .inr (n, s'))
    (hbase : P (createBase s caller addr).world)
    (hcode : ∀ (t : StateDB) (code : Bytes) (hash : Hash), P t.world →
      P (t.apply (.setCode addr code hash)).world)
    (htr : P ((zvm.context.transfer s'.world caller addr value).run s').world) (ch : CodeAndHash) :
    P (zvm.createRun n caller ch gas value addr s').state.world := by
  by_cases herr : ∃ e, (zvm.createRun n caller ch gas value addr s').err = some e ∧
      e ≠ .errCodeStoreOutOfGas
  · obtain ⟨e, he, hce⟩ := herr
    rw [(zvm.createRun_reverts hp ch he hce).1]
    exact hbase
  · simp only [createRun, err_settleCreate] at herr ⊢
    rw [settleCreate_eq_self fun e he => by_contra fun h => herr ⟨e, he, h⟩]
    exact zvm.deploy_keeps hcode (hk _ _ _ _ htr)

section Keeps

variable (P : World → Prop) (hk : zvm.Keeps P) (hs : P s.world)
include hk hs

lemma call_keeps (htr : ∀ s', zvm.callPrelude s caller addr gas value = .inr s' →
      P ((zvm.context.transfer s'.world caller addr value).run s').world) (input : Bytes) :
    P (zvm.call s caller addr input gas value).state.world := by
  cases he : (zvm.call s caller addr input gas value).err with
  | some e =>
    rw [(zvm.call_reverts s caller addr input gas value e he).1]
    exact hs
  | none =>
    unfold call at he ⊢
    cases hp : zvm.callPrelude s caller addr gas value with
    | inl r => simpa [hp, zvm.callPrelude_inl_state hp] using hs
    | inr s' =>
      simp only [hp, callRun] at he ⊢
      rw [settle_state_of_none he]
      split
      · simpa using htr s' hp
      · split
        · exact htr s' hp
        · exact hk _ _ _ _ (htr s' hp)

lemma delegateCall_keeps (caller : Contract) (input : Bytes) :
    P (zvm.delegateCall s caller addr input gas).state.world := by
  cases he : (zvm.delegateCall s caller addr input gas).err with
  | some e =>
    rw [(zvm.delegateCall_reverts s caller addr input gas e he).1]
    exact hs
  | none =>
    unfold delegateCall at he ⊢
    split_ifs at he ⊢
    rw [settle_state_of_none he]
    split
    · simpa using hs
    · exact hk _ _ _ _ hs

lemma create_keeps (hbase : P (createBase s caller addr).world)
    (hcode : ∀ (t : StateDB) (code : Bytes) (hash : Hash), P t.world →
      P (t.apply (.setCode addr code hash)).world)
    (htr : ∀ n s', zvm.createPrelude s caller gas value addr = .inr (n, s') →
      P ((zvm.context.transfer s'.world caller addr value).run s').world) (ch : CodeAndHash) :
    P (zvm.create s caller ch gas value addr).state.world := by
  unfold create
  cases hp : zvm.createPrelude s caller gas value addr with
  | inl r =>
    rcases zvm.createPrelude_inl_eq hp with ⟨e, -, rfl⟩ | rfl
    exacts [hs, hbase]
  | inr p =>
    obtain ⟨n, s'⟩ := p
    exact zvm.createRun_keeps P hk hp hbase hcode (htr n s' hp) ch

lemma staticCall_keeps (hs0 : P (s.apply (.addBalance addr 0)).world) (input : Bytes) :
    P (zvm.staticCall s caller addr input gas).state.world := by
  cases he : (zvm.staticCall s caller addr input gas).err with
  | some e =>
    rw [(zvm.staticCall_reverts s caller addr input gas e he).1]
    exact hs
  | none =>
    unfold staticCall at he ⊢
    split_ifs at he ⊢
    dsimp only at he ⊢
    rw [settle_state_of_none he]
    split
    · simpa using hs0
    · exact hk _ _ _ _ hs0

end Keeps

variable (hk : zvm.KeepsBalancesNonneg) (hc : zvm.context.canTransfer = canTransfer)
  (ht : zvm.context.transfer = transfer) (hs : NonnegBalances s.world) (hv : 0 ≤ value)
include hk hc ht hs hv

lemma call_nonneg (input : Bytes) :
    NonnegBalances (zvm.call s caller addr input gas value).state.world :=
  zvm.call_keeps NonnegBalances hk hs (fun _ hp => zvm.transfer_run_nonneg addr ht hs hv
    (zvm.callPrelude_balances hp) (zvm.callPrelude_covers hc hs hp)) input

lemma create_nonneg (ch : CodeAndHash) :
    NonnegBalances (zvm.create s caller ch gas value addr).state.world :=
  zvm.create_keeps NonnegBalances hk hs (hs.of_eq fun b => by simp [createBase])
    (fun _ _ _ h => h.of_eq fun b => by simp) (fun _ _ hp => zvm.transfer_run_nonneg addr ht hs hv
      (zvm.createPrelude_balances hp) (zvm.createPrelude_covers hc hp)) ch

end ZVM

/-- **Transfers never overdraw.** With `core.CanTransfer` and `core.Transfer`, from a state with
no negative balance and for a non-negative value, `Call` and `create` debit the caller only when,
in the state the transfer is made in, its balance covers the value, and the transfer leaves no
balance negative; so unless the callee makes a balance negative, neither entry leaves one. -/
theorem transfers_within_balance (zvm : ZVM) (hc : zvm.context.canTransfer = canTransfer)
    (ht : zvm.context.transfer = transfer) (s : StateDB) (hs : NonnegBalances s.world)
    (caller addr : Address) (input : Bytes) (ch : CodeAndHash) (gas : UInt64) (value : Int)
    (hv : 0 ≤ value) :
    (∀ s', zvm.callPrelude s caller addr gas value = .inr s' →
      value ≤ s'.world.getBalance caller ∧
      NonnegBalances ((zvm.context.transfer s'.world caller addr value).run s').world) ∧
    (∀ n s', zvm.createPrelude s caller gas value addr = .inr (n, s') →
      value ≤ s'.world.getBalance caller ∧
      NonnegBalances ((zvm.context.transfer s'.world caller addr value).run s').world) ∧
    (zvm.KeepsBalancesNonneg →
      NonnegBalances (zvm.call s caller addr input gas value).state.world ∧
      NonnegBalances (zvm.create s caller ch gas value addr).state.world) := by
  refine ⟨fun s' hp => ?_, fun n s' hp => ?_, fun hk => ⟨zvm.call_nonneg hk hc ht hs hv input,
    zvm.create_nonneg hk hc ht hs hv ch⟩⟩
  · have hbal := zvm.callPrelude_balances hp
    exact ⟨hbal caller ▸ zvm.callPrelude_covers hc hs hp,
      zvm.transfer_run_nonneg addr ht hs hv hbal (zvm.callPrelude_covers hc hs hp)⟩
  · have hbal := zvm.createPrelude_balances hp
    exact ⟨hbal caller ▸ zvm.createPrelude_covers hc hp,
      zvm.transfer_run_nonneg addr ht hs hv hbal (zvm.createPrelude_covers hc hp)⟩

lemma fundedState_nonneg : NonnegBalances fundedState.world := fun b => by
  simp only [fundedState, StateDB.world_apply, World.getBalance_addBalance]
  split_ifs <;> simp [StateDB.empty, World.empty, World.getBalance, World.getOrNew, Account.fresh]

lemma deployZvm_keepsBalancesNonneg (h : Halt) : (deployZvm h).KeepsBalancesNonneg :=
  fun _ _ _ _ hs => hs.of_eq fun b => by simp [deployZvm, ZVM.interpret]

/-- `0x01`, holding 100, sends 50 to `0x02`, an account with no code, and then creates a contract
there endowed with 50: both preludes go through to the debit. -/
theorem transfers_within_balance_funded :
    (deployZvm .success).context.canTransfer = canTransfer ∧
    (deployZvm .success).context.transfer = transfer ∧ NonnegBalances fundedState.world ∧
    (0 : Int) ≤ 50 ∧ (deployZvm .success).KeepsBalancesNonneg ∧
    (∃ s', (deployZvm .success).callPrelude fundedState 1 2 100 50 = .inr s') ∧
    (∃ n s', (deployZvm .success).createPrelude fundedState 1 100 50 2 = .inr (n, s')) ∧
    ((∀ s', (deployZvm .success).callPrelude fundedState 1 2 100 50 = .inr s' →
      50 ≤ s'.world.getBalance 1 ∧
      NonnegBalances (((deployZvm .success).context.transfer s'.world 1 2 50).run s').world) ∧
    (∀ n s', (deployZvm .success).createPrelude fundedState 1 100 50 2 = .inr (n, s') →
      50 ≤ s'.world.getBalance 1 ∧
      NonnegBalances (((deployZvm .success).context.transfer s'.world 1 2 50).run s').world) ∧
    ((deployZvm .success).KeepsBalancesNonneg →
      NonnegBalances ((deployZvm .success).call fundedState 1 2 [] 100 50).state.world ∧
      NonnegBalances
        ((deployZvm .success).create fundedState 1 ⟨[0x60], 0⟩ 100 50 2).state.world)) :=
  ⟨rfl, rfl, fundedState_nonneg, by decide,
    deployZvm_keepsBalancesNonneg .success, ⟨_, rfl⟩, ⟨_, _, rfl⟩,
    transfers_within_balance (deployZvm .success) rfl rfl fundedState fundedState_nonneg 1 2 []
      ⟨[0x60], 0⟩ 100 50 (by decide)⟩

end GoZond
