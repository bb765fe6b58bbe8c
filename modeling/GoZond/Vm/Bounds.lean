import GoZond.Vm.Balance

/-!
What every entry point leaves, whether it succeeds or fails: a state reached from the one it was
called on by journaled `StateDB` calls, so that a snapshot taken before the entry undoes it, and
never more gas than it was given. The transaction layer builds on both: the first lets a
rejected transaction be reverted, the second keeps the gas used within the gas limit.
-/

namespace GoZond

/-- A result left above the state `s` with at most `gas` gas. -/
def Bounded (s : StateDB) (gas : UInt64) (state : StateDB) (leftOverGas : UInt64) : Prop :=
  s.Extends state ∧ leftOverGas ≤ gas

lemma bounded_self (s : StateDB) (gas : UInt64) : Bounded s gas s gas :=
  ⟨.refl s, UInt64.le_refl gas⟩

lemma bounded_runPrecompiledContract (p : PrecompiledContract) (input : Bytes) (gas : UInt64)
    (s : StateDB) : Bounded s gas (runPrecompiledContract p input gas s).state
      (runPrecompiledContract p input gas s).leftOverGas := by
  simp only [runPrecompiledContract]
  split
  · exact ⟨.refl s, u64_zero_le gas⟩
  · rename_i h
    split <;> exact ⟨.refl s, u64_sub_le (u64_le_of_not_lt h)⟩

lemma bounded_runFrame (zvm : ZVM) (c : Contract) (input : Bytes) (ro : Bool) (s : StateDB) :
    Bounded s c.gas (zvm.runFrame c input ro s).state (zvm.runFrame c input ro s).leftOverGas :=
  ⟨Eff.extends_run _ _, (zvm.interpret c input ro s).gasLeft_le⟩

lemma bounded_settle {s s' : StateDB} {gas : UInt64} {r : CallResult} (hs : s.Extends s')
    (hr : Bounded s' gas r.state r.leftOverGas) :
    Bounded s gas (settle s.snapshot r).state (settle s.snapshot r).leftOverGas := by
  have hsr := hs.trans hr.1
  unfold settle
  split
  · exact ⟨hsr, hr.2⟩
  · refine ⟨by rw [show r.state.revertToSnapshot s.snapshot = s from hsr]; exact .refl s, ?_⟩
    dsimp only
    split
    · exact hr.2
    · exact u64_zero_le gas

lemma bounded_settleCreate {s s' : StateDB} {gas : UInt64} {r : CreateResult} (hs : s.Extends s')
    (hr : Bounded s' gas r.state r.leftOverGas) :
    Bounded s gas (settleCreate s.snapshot r).state (settleCreate s.snapshot r).leftOverGas := by
  have hsr := hs.trans hr.1
  unfold settleCreate
  split
  · exact ⟨hsr, hr.2⟩
  · split
    · exact ⟨hsr, hr.2⟩
    · refine ⟨by rw [show r.state.revertToSnapshot s.snapshot = s from hsr]; exact .refl s, ?_⟩
      dsimp only
      split
      · exact hr.2
      · exact u64_zero_le gas

namespace ZVM

variable (zvm : ZVM)

lemma bounded_call (s : StateDB) (caller addr : Address) (input : Bytes) (gas : UInt64)
    (value : Int) : Bounded s gas (zvm.call s caller addr input gas value).state
      (zvm.call s caller addr input gas value).leftOverGas := by
  unfold call
  split
  · obtain ⟨e, -, rfl⟩ := zvm.callPrelude_inl_eq ‹_›
    exact bounded_self s gas
  · rename_i s' hp
    have hs := (zvm.callPrelude_inr hp).trans
      (Eff.extends_run (zvm.context.transfer s'.world caller addr value) s')
    unfold callRun
    refine bounded_settle hs ?_
    split
    · exact bounded_runPrecompiledContract _ _ _ _
    · dsimp only
      split
      · exact bounded_self _ gas
      · exact bounded_runFrame _ _ _ _ _

lemma bounded_delegateCall (s : StateDB) (caller : Contract) (addr : Address) (input : Bytes)
    (gas : UInt64) : Bounded s gas (zvm.delegateCall s caller addr input gas).state
      (zvm.delegateCall s caller addr input gas).leftOverGas := by
  unfold delegateCall
  split
  · exact bounded_self s gas
  · refine bounded_settle (.refl s) ?_
    split
    · exact bounded_runPrecompiledContract _ _ _ _
    · exact bounded_runFrame _ _ _ _ _

lemma bounded_staticCall (s : StateDB) (caller addr : Address) (input : Bytes) (gas : UInt64) :
    Bounded s gas (zvm.staticCall s caller addr input gas).state
      (zvm.staticCall s caller addr input gas).leftOverGas := by
  unfold staticCall
  split
  · exact bounded_self s gas
  · refine bounded_settle (StateDB.Extends.apply s (.addBalance addr 0)) ?_
    split
    · exact bounded_runPrecompiledContract _ _ _ _
    · exact bounded_runFrame _ _ _ _ _

lemma bounded_deploy (address : Address) (ret : Bytes) (g : UInt64) (err : Option ZvmError)
    (l : List UInt64) (s : StateDB) : Bounded s g (zvm.deploy address ret g err l s).state
      (zvm.deploy address ret g err l s).leftOverGas := by
  unfold deploy
  split
  · exact bounded_self s g
  · dsimp only
    split
    · exact bounded_self s g
    · rename_i h
      exact ⟨.apply s _, u64_sub_le (u64_le_of_not_lt h)⟩

lemma bounded_create (s : StateDB) (caller : Address) (ch : CodeAndHash) (gas : UInt64)
    (value : Int) (address : Address) :
    Bounded s gas (zvm.create s caller ch gas value address).state
      (zvm.create s caller ch gas value address).leftOverGas := by
  unfold create
  split
  · rcases zvm.createPrelude_inl_eq ‹_› with ⟨e, -, rfl⟩ | rfl
    · exact bounded_self s gas
    · exact ⟨(StateDB.Extends.apply _ _).trans (.apply _ _), u64_zero_le gas⟩
  · rename_i snapshot s' hp
    obtain ⟨rfl, hs'⟩ := zvm.createPrelude_inr hp
    have hbase : s.Extends (createBase s caller address) :=
      (StateDB.Extends.apply _ _).trans (.apply _ _)
    simp only [createRun]
    set s'' := (zvm.context.transfer s'.world caller address value).run s'
    set r := zvm.interpret ((newContract caller address value gas).setCodeOptionalHash address ch
      zvm.crypto) [] false s''
    have hd := zvm.bounded_deploy address r.ret r.gasLeft r.halt.err r.hashLookups (r.eff.run s'')
    have hset :=
      bounded_settleCreate (hs'.trans ((Eff.extends_run _ _).trans (Eff.extends_run _ _)))
      ⟨hd.1, u64_le_iff.2 (Nat.le_trans hd.2 r.gasLeft_le)⟩
    exact ⟨hbase.trans hset.1, hset.2⟩

end ZVM

/-- **Entry points are journaled and never mint gas.** Whatever the callee, precompile or init
code, `Call`, `DelegateCall`, `StaticCall` and `create` leave a state reached from the one they
were called on by journaled calls, so that a snapshot taken before them undoes them, and return
at most the gas they were given. -/
theorem entry_points_bounded (zvm : ZVM) (s : StateDB) (caller : Address) (parent : Contract)
    (addr : Address) (input : Bytes) (ch : CodeAndHash) (gas : UInt64) (value : Int)
    (address : Address) :
    Bounded s gas (zvm.call s caller addr input gas value).state
      (zvm.call s caller addr input gas value).leftOverGas ∧
    Bounded s gas (zvm.delegateCall s parent addr input gas).state
      (zvm.delegateCall s parent addr input gas).leftOverGas ∧
    Bounded s gas (zvm.staticCall s caller addr input gas).state
      (zvm.staticCall s caller addr input gas).leftOverGas ∧
    Bounded s gas (zvm.create s caller ch gas value address).state
      (zvm.create s caller ch gas value address).leftOverGas :=
  ⟨zvm.bounded_call s caller addr input gas value, zvm.bounded_delegateCall s parent addr input gas,
    zvm.bounded_staticCall s caller addr input gas,
    zvm.bounded_create s caller ch gas value address⟩

end GoZond
