import GoZond.Core.StateTransition
import GoZond.Vm.Balance

/-!
Where value goes.

The supply of a world is the sum of the balances of all addresses. The entry points of the ZVM
move value only through `core.Transfer`, which credits what it debits; their other writes (the
nonce increments, account creation, the zero-value touch of `StaticCall`, code storage) leave
every balance as it was, and a revert restores the state the entry was called on. So they keep
the supply whenever the code they run does (`entry_points_conserve_supply`).

On top of them, the state transition takes the gas limit at the message's price from the sender,
gives the gas left back at the same price and pays the block producer the tip on the gas used.
What leaves the supply is the gas used at the price less the tip; for a message made from a
transaction under the block's base fee that is exactly the base fee on the gas used
(`transition_burns_base_fee`).

`Finalise` then drops the self-destructed accounts with their balances; when the code leaves no
account marked it drops only empty ones. So the loop of `Process` keeps the supply together with
the base fee on the gas of its receipts (`Ledger`), and the transactions of a block take out of
the supply exactly the base fee on the gas `Process` reports used (`process_ledger`).
-/

namespace GoZond

/-- `BitVec n` as `Fin (2 ^ n)`, so that a sum can range over every address. -/
instance BitVec.fintype (n : Nat) : Fintype (BitVec n) :=
  Fintype.ofEquiv (Fin (2 ^ n)) ⟨BitVec.ofFin, BitVec.toFin, fun _ => rfl, fun _ => rfl⟩

namespace World

/-- The supply: the balances of all addresses together. -/
def supply (w : World) : Int := ∑ a, w.getBalance a

lemma supply_congr {w w' : World} (h : ∀ b, w'.getBalance b = w.getBalance b) :
    w'.supply = w.supply :=
  Finset.sum_congr rfl fun b _ => h b

lemma supply_of_getBalance {w w' : World} {a : Address} {v : Int}
    (h : ∀ b, w'.getBalance b = if b = a then w.getBalance a + v else w.getBalance b) :
    w'.supply = w.supply + v := by
  have hb : ∀ b, w'.getBalance b = w.getBalance b + if b = a then v else 0 := fun b => by
    by_cases hba : b = a <;> simp [h, hba]
  simp only [supply, hb, Finset.sum_add_distrib, Finset.sum_ite_eq', Finset.mem_univ, if_true]

@[simp] lemma supply_addBalance (t : Hash) (i : Nat) (w : World) (a : Address) (v : Int) :
    (w.apply t i (.addBalance a v)).supply = w.supply + v :=
  supply_of_getBalance fun b => getBalance_addBalance t i w a b v

@[simp] lemma supply_subBalance (t : Hash) (i : Nat) (w : World) (a : Address) (v : Int) :
    (w.apply t i (.subBalance a v)).supply = w.supply - v := by
  rw [sub_eq_add_neg]
  exact supply_of_getBalance fun b => by rw [getBalance_subBalance, sub_eq_add_neg]

end World

@[simp] lemma supply_transfer (s : StateDB) (sender recipient : Address) (v : Int) :
    ((transfer s.world sender recipient v).run s).world.supply = s.world.supply := by
  simp [transfer]

namespace ZVM

/-- The code the entry points run keeps the supply. -/
def ConservesSupply (zvm : ZVM) : Prop :=
  ∀ c input ro s, ((zvm.interpret c input ro s).eff.run s).world.supply = s.world.supply

variable {zvm : ZVM}

lemma keeps_supply (hk : zvm.ConservesSupply) (s : StateDB) :
    zvm.Keeps fun w => w.supply = s.world.supply :=
  fun c input ro s' h => (hk c input ro s').trans h

lemma supply_eq_of_balances {k : Int} {w w' : World}
    (h : ∀ b, w'.getBalance b = w.getBalance b) (hw : w.supply = k) : w'.supply = k :=
  (World.supply_congr h).trans hw

variable (ht : zvm.context.transfer = transfer) (hk : zvm.ConservesSupply) (s : StateDB)
include ht hk

lemma call_supply (caller addr : Address) (input : Bytes) (gas : UInt64) (value : Int) :
    (zvm.call s caller addr input gas value).state.world.supply = s.world.supply :=
  zvm.call_keeps _ (keeps_supply hk s) rfl (fun s' hp => by
    rw [ht, supply_transfer]
    exact World.supply_congr (zvm.callPrelude_balances hp)) input

lemma create_supply (caller : Address) (ch : CodeAndHash) (gas : UInt64) (value : Int)
    (addr : Address) :
    (zvm.create s caller ch gas value addr).state.world.supply = s.world.supply :=
  zvm.create_keeps _ (keeps_supply hk s) rfl
    (supply_eq_of_balances (fun b => by simp [createBase]) rfl)
    (fun _ _ _ h => supply_eq_of_balances (fun b => by simp) h) (fun _ s' hp => by
      rw [ht, supply_transfer]
      exact World.supply_congr (zvm.createPrelude_balances hp)) ch

lemma execute_supply (msg : Message) (gas : UInt64) :
    (zvm.execute msg gas s).state.world.supply = s.world.supply := by
  unfold execute
  split
  · exact create_supply ht hk s _ _ _ _ _
  · rw [call_supply ht hk]
    exact World.supply_congr fun b => by simp

end ZVM

/-- **The entry points neither create nor destroy value.** With `core.Transfer`, whatever the
code they run does not change the supply, `Call`, `DelegateCall`, `StaticCall`, `create`,
`Create` and `Create2` leave it as it was: on success, after a revert, and after an early
return alike. -/
theorem entry_points_conserve_supply (zvm : ZVM) (ht : zvm.context.transfer = transfer)
    (hk : zvm.ConservesSupply) (s : StateDB) (caller addr : Address) (parent : Contract)
    (input code : Bytes) (ch : CodeAndHash) (gas : UInt64) (value : Int) (salt : Hash) :
    (zvm.call s caller addr input gas value).state.world.supply = s.world.supply ∧
      (zvm.delegateCall s parent addr input gas).state.world.supply = s.world.supply ∧
      (zvm.staticCall s caller addr input gas).state.world.supply = s.world.supply ∧
      (zvm.create s caller ch gas value addr).state.world.supply = s.world.supply ∧
      (zvm.Create s caller code gas value).state.world.supply = s.world.supply ∧
      (zvm.Create2 s caller code gas value salt).state.world.supply = s.world.supply :=
  ⟨ZVM.call_supply ht hk s caller addr input gas value,
    zvm.delegateCall_keeps _ (ZVM.keeps_supply hk s) rfl parent input,
    zvm.staticCall_keeps _ (ZVM.keeps_supply hk s) rfl (by simp) input,
    ZVM.create_supply ht hk s caller ch gas value addr,
    ZVM.create_supply ht hk s caller _ gas value _,
    ZVM.create_supply ht hk s caller _ gas value _⟩

/-- A call and a creation from `sampleState` under an interpreter that halts at once. -/
theorem entry_points_conserve_supply_sampleState :
    (haltingZvm .success).context.transfer = transfer ∧ (haltingZvm .success).ConservesSupply ∧
      ((haltingZvm .success).call sampleState 1 2 [] 100 50).state.world.supply =
          sampleState.world.supply ∧
        ((haltingZvm .success).delegateCall sampleState (newContract 1 2 0 100) 2 []
          100).state.world.supply =
          sampleState.world.supply ∧
        ((haltingZvm .success).staticCall sampleState 1 2 [] 100).state.world.supply =
          sampleState.world.supply ∧
        ((haltingZvm .success).create sampleState 1 ⟨[1], 0⟩ 100 50 2).state.world.supply =
          sampleState.world.supply ∧
        ((haltingZvm .success).Create sampleState 1 [1] 100 50).state.world.supply =
          sampleState.world.supply ∧
        ((haltingZvm .success).Create2 sampleState 1 [1] 100 50 0).state.world.supply =
          sampleState.world.supply :=
  ⟨rfl, fun _ _ _ _ => rfl, entry_points_conserve_supply (haltingZvm .success) rfl
    (fun _ _ _ _ => rfl) sampleState 1 2 (newContract 1 2 0 100) [] [1] ⟨[1], 0⟩ 100 50 0⟩

/-! ### The fee the transition burns -/

section Transition

variable {intrinsicGas : Message → UInt64} {zvm : ZVM} {msg : Message} {gp : UInt64}
  {s : StateDB} {r : ExecutionResult}

lemma stateTransition_supply (ht : zvm.context.transfer = transfer) (hk : zvm.ConservesSupply)
    (hr : (stateTransition intrinsicGas zvm msg gp s).result = .ok r) :
    (stateTransition intrinsicGas zvm msg gp s).state.world.supply =
      s.world.supply - r.usedGas.toNat * (msg.gasPrice - effectiveTip msg zvm.context.baseFee) := by
  have hv := valid_of_result_ok hr
  rw [stateTransition_of_valid hv] at hr ⊢
  rw [ZVM.result_runMessage, Except.ok.injEq] at hr
  subst hr
  set s' := s.apply (.subBalance msg.sender (msg.gasLimit.toNat * msg.gasPrice))
  have hl := u64_le_iff.1 (zvm.bounded_execute msg (msg.gasLimit - intrinsicGas msg) s').2
  rw [UInt64.toNat_sub_of_le _ _ hv.intrinsic] at hl
  have hle : (zvm.execute msg (msg.gasLimit - intrinsicGas msg) s').leftOverGas ≤ msg.gasLimit :=
    u64_le_iff.2 (by omega)
  simp only [ZVM.runMessage, StateDB.world_apply, World.supply_addBalance,
    ZVM.execute_supply ht hk, s', World.supply_subBalance, UInt64.toNat_sub_of_le _ _ hle]
  push_cast [Nat.cast_sub (u64_le_iff.1 hle)]
  ring

lemma gasPrice_sub_effectiveTip {sender : Transaction → Except String Address} {tx : Transaction}
    {baseFee : Option Int} (hm : transactionToMessage sender tx baseFee = .ok msg) :
    msg.gasPrice - effectiveTip msg baseFee = baseFee.getD 0 := by
  simp only [transactionToMessage] at hm
  split at hm <;> cases hm
  cases baseFee with
  | none => simp [effectiveTip]
  | some b =>
    simp only [effectiveTip, Option.getD_some]
    omega

end Transition

/-- **The transition burns the base fee, and only that.** For a message made from a transaction
under the block's base fee, with `core.Transfer` and code that keeps the supply: when
`ApplyMessage` runs the message, the sender's payment for the gas limit, the refund of the gas
left, the block producer's tip and the execution, failing or not, together take exactly the base
fee on the gas used out of the supply (nothing without a base fee). -/
theorem transition_burns_base_fee (intrinsicGas : Message → UInt64) (zvm : ZVM)
    (ht : zvm.context.transfer = transfer) (hk : zvm.ConservesSupply)
    (sender : Transaction → Except String Address) (tx : Transaction) (msg : Message)
    (hm : transactionToMessage sender tx zvm.context.baseFee = .ok msg) (gp : UInt64) (s : StateDB)
    (r : ExecutionResult) (hr : (applyMessage intrinsicGas zvm msg gp s).result = .ok r) :
    (applyMessage intrinsicGas zvm msg gp s).state.world.supply =
      s.world.supply - r.usedGas.toNat * zvm.context.baseFee.getD 0 := by
  rw [result_applyMessage] at hr
  rw [state_applyMessage, stateTransition_supply ht hk hr, gasPrice_sub_effectiveTip hm]

/-! ### No account is left marked

`Finalise` drops the self-destructed accounts with whatever balance they hold, and the empty
ones, which hold none. The entry points and the transition never mark an account themselves, so
when the code they run leaves none marked, `Finalise` drops only empty accounts and keeps the
supply. -/

namespace StateDB

lemma unmarked_apply {s : StateDB} (hs : s.world.Unmarked) {m : Mutation}
    (hm : ∀ a, m ≠ .selfDestruct a) : (s.apply m).world.Unmarked := by
  rw [world_apply]
  exact hs.apply _ _ hm

lemma supply_finalise {s : StateDB} (hs : s.world.Unmarked) (d : Bool) :
    (s.finalise d).world.supply = s.world.supply :=
  World.supply_congr (s.getBalance_finalise hs d)

end StateDB

namespace ZVM

variable {zvm : ZVM} {s : StateDB}

lemma unmarked_transfer (ht : zvm.context.transfer = transfer) (hs : s.world.Unmarked)
    (caller addr : Address) (value : Int) :
    ((zvm.context.transfer s.world caller addr value).run s).world.Unmarked := by
  rw [ht]
  exact StateDB.unmarked_apply (StateDB.unmarked_apply hs (by simp)) (by simp)

variable (ht : zvm.context.transfer = transfer) (hu : zvm.Keeps World.Unmarked)
include ht hu

lemma call_unmarked (hs : s.world.Unmarked) (caller addr : Address) (input : Bytes)
    (gas : UInt64) (value : Int) : (zvm.call s caller addr input gas value).state.world.Unmarked :=
  zvm.call_keeps _ hu hs (fun _ hp => by
    rcases (zvm.callPrelude_inr_eq hp).2 with rfl | rfl
    exacts [unmarked_transfer ht (StateDB.unmarked_apply hs (by simp)) _ _ _,
      unmarked_transfer ht hs _ _ _]) input

lemma create_unmarked (hs : s.world.Unmarked) (caller : Address) (ch : CodeAndHash) (gas : UInt64)
    (value : Int) (addr : Address) :
    (zvm.create s caller ch gas value addr).state.world.Unmarked := by
  have hbase : (createBase s caller addr).world.Unmarked :=
    StateDB.unmarked_apply (StateDB.unmarked_apply hs (by simp)) (by simp)
  refine zvm.create_keeps _ hu hs hbase (fun _ _ _ h => StateDB.unmarked_apply h (by simp))
    (fun _ _ hp => ?_) ch
  obtain ⟨-, -, rfl⟩ := zvm.createPrelude_inr_eq hp
  exact unmarked_transfer ht (StateDB.unmarked_apply (StateDB.unmarked_apply hbase (by simp))
    (by simp)) _ _ _

lemma execute_unmarked (hs : s.world.Unmarked) (msg : Message) (gas : UInt64) :
    (zvm.execute msg gas s).state.world.Unmarked := by
  unfold execute
  split
  · exact create_unmarked ht hu hs _ _ _ _ _
  · exact call_unmarked ht hu (StateDB.unmarked_apply hs (by simp)) _ _ _ _ _

end ZVM

lemma stateTransition_unmarked {intrinsicGas : Message → UInt64} {zvm : ZVM} {msg : Message}
    {gp : UInt64} {s : StateDB} (ht : zvm.context.transfer = transfer)
    (hu : zvm.Keeps World.Unmarked) (hs : s.world.Unmarked) :
    (stateTransition intrinsicGas zvm msg gp s).state.world.Unmarked := by
  by_cases h : Valid intrinsicGas msg gp s.world
  · rw [stateTransition_of_valid h]
    exact StateDB.unmarked_apply (StateDB.unmarked_apply (ZVM.execute_unmarked ht hu
      (StateDB.unmarked_apply hs (by simp)) _ _) (by simp)) (by simp)
  · rcases stateTransition_of_not_valid zvm h with ⟨e, -, he⟩ | he <;> rw [he]
    · exact hs
    · exact StateDB.unmarked_apply hs (by simp)

/-! ### The ledger of a block

The loops of `Process` and of the transition tool's `Apply` keep the supply together with the base
fee on the gas of their receipts: a transaction the transition runs moves the gas it used from the
first to the second, and `Finalise`, with no account marked, keeps the supply. -/

/-- The ledger at base fee `b`: no account of `s` is marked, and its supply together with the base
fee on the gas of the receipts `rs` is `k`. -/
structure Ledger (b k : Int) (s : StateDB) (rs : List Receipt) : Prop where
  unmarked : s.world.Unmarked
  supply : s.world.supply + b * gasSum rs = k

lemma Ledger.finalise {intrinsicGas : Message → UInt64} {zvm : ZVM} {msg : Message} {gp : UInt64}
    {s : StateDB} {rs : List Receipt} {k : Int} {hash : Hash} {i : Nat} {res : ExecutionResult}
    {r : Receipt} {sender : Transaction → Except String Address} {tx : Transaction}
    (hl : Ledger (zvm.context.baseFee.getD 0) k s rs) (ht : zvm.context.transfer = transfer)
    (hk : zvm.ConservesSupply) (hu : zvm.Keeps World.Unmarked)
    (hm : transactionToMessage sender tx zvm.context.baseFee = .ok msg)
    (hres : (applyMessage intrinsicGas zvm msg gp (s.setTxContext hash i)).result = .ok res)
    (hg : r.gasUsed = res.usedGas) :
    Ledger (zvm.context.baseFee.getD 0) k
      ((applyMessage intrinsicGas zvm msg gp (s.setTxContext hash i)).state.finalise true)
      (rs ++ [r]) := by
  rw [result_applyMessage] at hres
  rw [state_applyMessage]
  have hu' :
      (stateTransition intrinsicGas zvm msg gp (s.setTxContext hash i)).state.world.Unmarked :=
    stateTransition_unmarked ht hu hl.unmarked
  refine ⟨(StateDB.Extends.refl _).unmarked_finalise hu' true, ?_⟩
  rw [gasSum_append, gasSum_singleton, hg, StateDB.supply_finalise hu' true,
    stateTransition_supply ht hk hres, gasPrice_sub_effectiveTip hm, StateDB.world_setTxContext,
    ← hl.supply]
  push_cast
  ring

lemma sampleState_unmarked : sampleState.world.Unmarked :=
  StateDB.unmarked_apply (StateDB.unmarked_apply (fun _ _ h => by cases h) (by simp)) (by simp)

/-- The interpreter of `haltingZvm`, under a base fee of 2. -/
def feeZvm : ZVM :=
  { haltingZvm .success with
    context := ⟨canTransfer, transfer, fun _ => 0, 3, 0, 0, 0, some 2, none⟩ }

/-- A legacy transfer of 50 from `0x01` to the code at `0x02`, with 21000 gas at a price of 3. -/
def legacyTransfer : Transaction := ⟨0, 0, 3, 3, 3, 21000, some 2, 50, [], []⟩

/-- The transfer uses its 21000 gas; 2 of the 3 paid per unit leave the supply. -/
theorem transition_burns_base_fee_legacyTransfer :
    feeZvm.context.transfer = transfer ∧ feeZvm.ConservesSupply ∧
      ∃ msg, transactionToMessage sampleEnv.sender legacyTransfer feeZvm.context.baseFee =
          .ok msg ∧
        ∃ r, (applyMessage (fun _ => 21000) feeZvm msg 30000 sampleState).result = .ok r ∧
          (applyMessage (fun _ => 21000) feeZvm msg 30000 sampleState).state.world.supply =
            sampleState.world.supply - r.usedGas.toNat * feeZvm.context.baseFee.getD 0 :=
  ⟨rfl, fun _ _ _ _ => rfl, _, rfl, _, rfl, transition_burns_base_fee (fun _ => 21000) feeZvm rfl
    (fun _ _ _ _ => rfl) sampleEnv.sender legacyTransfer _ rfl 30000 sampleState _ rfl⟩

example : ∃ msg, transactionToMessage sampleEnv.sender legacyTransfer (some 2) = .ok msg ∧
    (applyMessage (fun _ => 21000) feeZvm msg 30000 sampleState).result =
      .ok ⟨21000, none, []⟩ ∧
    (applyMessage (fun _ => 21000) feeZvm msg 30000 sampleState).state.world.getBalance 3 =
      21000 :=
  ⟨_, rfl, rfl, rfl⟩

/-! ### The ledger of `Process` -/

namespace StateProcessor

section Ledger

variable {p : StateProcessor} {block : Block} {intrinsicGas : Message → UInt64}
  (happ : p.env.applyMessage = applyMessage intrinsicGas)
  (hk : ∀ t, (p.env.vmConfig.newZVM (newZVMBlockContext block.header p.getHashFn p.author)
    t).ConservesSupply)
  (hu : ∀ t, (p.env.vmConfig.newZVM (newZVMBlockContext block.header p.getHashFn p.author)
    t).Keeps World.Unmarked)
include happ hk hu

lemma ledger_step {i : Nat} {tx : Transaction} {σ σ' : ProcessState} {k : Int}
    (hl : Ledger (block.header.baseFee.getD 0) k σ.statedb σ.receipts)
    (h : p.processTx block.header (p.env.digests.headerHash block.header)
      (p.env.vmConfig.newZVM (newZVMBlockContext block.header p.getHashFn p.author) ⟨0, 0⟩) i tx
        σ = .ok σ') :
    Ledger (block.header.baseFee.getD 0) k σ'.statedb σ'.receipts := by
  obtain ⟨msg, res, r, hm, hres, hst, hrc, hg, -⟩ := processTx_state h
  rw [happ] at hres hst
  rw [hst, hrc]
  exact hl.finalise rfl (hk _) (hu _) hm hres hg

lemma ledger_run (txs : List Transaction) {σ σ' : ProcessState} {k : Int}
    (hl : Ledger (block.header.baseFee.getD 0) k σ.statedb σ.receipts)
    (h : p.processTxs block.header (p.env.digests.headerHash block.header)
      (p.env.vmConfig.newZVM (newZVMBlockContext block.header p.getHashFn p.author) ⟨0, 0⟩) 0 txs
        σ = .ok σ') :
    Ledger (block.header.baseFee.getD 0) k σ'.statedb σ'.receipts :=
  processTxs_induction (fun _ σ => Ledger _ k σ.statedb σ.receipts)
    (fun hl h => ledger_step happ hk hu hl h) txs [] hl h

end Ledger

end StateProcessor

/-- **The ledger of `Process`.** With the state transition as `ApplyMessage`, on code that keeps
the supply and leaves no account self-destructed, from a StateDB with no account marked: the
StateDB `Process` returns is the engine's `Finalize` run on a state that holds the value of the
StateDB it started from less the block's base fee on the gas used it reports, so the
transactions of the block create no value and destroy no other. -/
theorem process_ledger (intrinsicGas : Message → UInt64) (p : StateProcessor) (block : Block)
    (happ : p.env.applyMessage = applyMessage intrinsicGas)
    (hk : ∀ t, (p.env.vmConfig.newZVM (newZVMBlockContext block.header p.getHashFn p.author)
      t).ConservesSupply)
    (hu : ∀ t, (p.env.vmConfig.newZVM (newZVMBlockContext block.header p.getHashFn p.author)
      t).Keeps World.Unmarked)
    (statedb : StateDB) (hs : statedb.world.Unmarked) (receipts : List Receipt) (logs : List Log)
    (usedGas : UInt64) (statedb' : StateDB)
    (h : p.process block statedb = .ok (receipts, logs, usedGas, statedb')) :
    ∃ S : StateDB, statedb' = (p.finalize block S).run S ∧
      S.world.supply = statedb.world.supply - usedGas.toNat * block.header.baseFee.getD 0 := by
  simp only [StateProcessor.process] at h
  split at h
  · cases h
  rename_i σ hσ
  cases h
  have hl := StateProcessor.ledger_run happ hk hu block.transactions
    (k := statedb.world.supply) ⟨hs, by simp⟩ hσ
  have hi := (StateProcessor.inv_init p.env.digests.txHash block.header.gasLimit statedb).run
    block.transactions hσ
  refine ⟨σ.statedb, rfl, ?_⟩
  rw [← hl.supply, hi.gas.used_eq]
  ring

/-- `sampleProcessor` with the state transition, at an intrinsic gas of 21000, as
`ApplyMessage`. -/
def ledgerProcessor : StateProcessor := { sampleProcessor with env := transitionEnv }

/-- A block with the legacy transfer under a base fee of 2, run on `sampleState`. -/
theorem process_ledger_legacyTransfer :
    ledgerProcessor.env.applyMessage = applyMessage (fun _ => 21000) ∧
      (∀ t, (ledgerProcessor.env.vmConfig.newZVM (newZVMBlockContext ⟨60000, some 2, 1, 0, 0⟩
        ledgerProcessor.getHashFn ledgerProcessor.author) t).ConservesSupply) ∧
      (∀ t, (ledgerProcessor.env.vmConfig.newZVM (newZVMBlockContext ⟨60000, some 2, 1, 0, 0⟩
        ledgerProcessor.getHashFn ledgerProcessor.author) t).Keeps World.Unmarked) ∧
      sampleState.world.Unmarked ∧
      ∃ receipts logs usedGas statedb', ledgerProcessor.process ⟨⟨60000, some 2, 1, 0, 0⟩,
          [legacyTransfer]⟩ sampleState = .ok (receipts, logs, usedGas, statedb') ∧
        ∃ S : StateDB,
          statedb' =
            (ledgerProcessor.finalize ⟨⟨60000, some 2, 1, 0, 0⟩, [legacyTransfer]⟩ S).run S ∧
          S.world.supply = sampleState.world.supply - usedGas.toNat * (some (2 : Int)).getD 0 :=
  ⟨rfl, fun _ _ _ _ _ => rfl, fun _ _ _ _ _ h => h, sampleState_unmarked, _, _, _, _, rfl,
    process_ledger (fun _ => 21000) ledgerProcessor ⟨⟨60000, some 2, 1, 0, 0⟩, [legacyTransfer]⟩ rfl
      (fun _ _ _ _ _ => rfl) (fun _ _ _ _ _ h => h) sampleState sampleState_unmarked _ _ _ _ rfl⟩

example : ∃ receipts logs statedb', ledgerProcessor.process ⟨⟨60000, some 2, 1, 0, 0⟩,
    [legacyTransfer]⟩ sampleState = .ok (receipts, logs, 21000, statedb') ∧
    statedb'.world.getBalance 1 = 100000 - 21000 * 3 - 50 :=
  ⟨_, _, _, rfl, rfl⟩

end GoZond
