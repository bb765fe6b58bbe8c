import GoZond.State.Effect

/-!
The ZVM's entry points (core/vm/zvm.go, which src carries after the precompile tests in
core/vm/contracts_test.go): `Call`, `DelegateCall`, `StaticCall`, and `create` with its front
ends `Create` and `Create2`.

The interpreter, the precompiled contracts and the hash functions are not in the repository's
files, so they are parameters of a `ZVM`. The interpreter is any function from the ZVM's block
and transaction context, its depth, a contract frame and the state to its return data, the gas
it leaves (never more than it was given), how it halted, the `StateDB` calls it made and the
block numbers it asked `GetHash` for; its halting states are modelled from the spec (§4.4).
The entry points hand those numbers back with their result. The tracer hooks change nothing
the entry points return and are left out.
-/

namespace GoZond

/-- Modelled from the spec: the errors the entry points return (core/vm/errors.go); `fault` stands
for every error that faulty code or a precompile raises. -/
inductive ZvmError
  | errDepth
  | errInsufficientBalance
  | errNonceUintOverflow
  | errContractAddressCollision
  | errExecutionReverted
  | errCodeStoreOutOfGas
  | errMaxCodeSizeExceeded
  | errInvalidCode
  | errOutOfGas
  | fault (msg : String)
  deriving DecidableEq

/-- Modelled from the spec: the terminal states of the interpreter (§4.4: success, revert, out of
gas, or an error of faulty code). -/
inductive Halt
  | success
  | revert
  | outOfGas
  | error (msg : String)
  deriving DecidableEq

/-- The error `Run` returns in a terminal state. -/
def Halt.err : Halt → Option ZvmError
  | .success => none
  | .revert => some .errExecutionReverted
  | .outOfGas => some .errOutOfGas
  | .error msg => some (.fault msg)

/-- Modelled from the spec: a contract frame: who calls, which account runs, the value, the gas,
and the code. -/
structure Contract where
  callerAddress : Address
  address : Address
  value : Int
  gas : UInt64
  code : Bytes
  codeHash : Hash
  codeAddr : Option Address

/-- Modelled from the spec: `NewContract`. -/
def newContract (caller object : Address) (value : Int) (gas : UInt64) : Contract :=
  ⟨caller, object, value, gas, [], 0, none⟩

namespace Contract

/-- Modelled from the spec: `Contract.SetCallCode`. -/
def setCallCode (c : Contract) (addr : Address) (hash : Hash) (code : Bytes) : Contract :=
  { c with code := code, codeHash := hash, codeAddr := some addr }

/-- Modelled from the spec: `Contract.AsDelegate`: the frame runs with its parent's caller and
value. -/
def asDelegate (c parent : Contract) : Contract :=
  { c with callerAddress := parent.callerAddress, value := parent.value }

end Contract

/-- Modelled from the spec: what `Run` hands back for a frame holding `gas`; `hashLookups` are the
block numbers its `BLOCKHASH` instructions passed to `GetHash`, in this frame and the frames it
called. -/
structure RunResult (gas : UInt64) where
  ret : Bytes
  gasLeft : UInt64
  gasLeft_le : gasLeft ≤ gas
  halt : Halt
  eff : Eff
  hashLookups : List UInt64

/-- Modelled from the spec: a precompiled contract: its price and its computation. -/
structure PrecompiledContract where
  requiredGas : Bytes → UInt64
  run : Bytes → Except String Bytes

/-- The hash functions the entry points use (package `crypto`). -/
structure Crypto where
  keccak256Hash : Bytes → Hash
  createAddress : Address → UInt64 → Address
  createAddress2 : Address → Hash → Hash → Address

/-- `BlockContext`: the transfer guard and the transfer the block supplies, `GetHash`, and the
block information: coinbase, gas limit, number, time, base fee and random (`none` when nil).
`Transfer` acts through the `StateDB` interface, so it is the calls it makes; `BlockNumber`,
a `big.Int`, is set from a `uint64` wherever src builds a context. -/
structure BlockContext where
  canTransfer : World → Address → Int → Bool
  transfer : World → Address → Address → Int → Eff
  getHash : UInt64 → Hash
  coinbase : Address
  gasLimit : UInt64
  blockNumber : UInt64
  time : UInt64
  baseFee : Option Int
  random : Option Hash

/-- Modelled from the spec: `core.CanTransfer`, the guard every caller in src supplies; the
balance covers the amount. -/
def canTransfer (w : World) (addr : Address) (amount : Int) : Bool :=
  decide (amount ≤ w.getBalance addr)

/-- Modelled from the spec: `core.Transfer`, which debits the sender and credits the recipient. -/
def transfer (_ : World) (sender recipient : Address) (amount : Int) : Eff :=
  .ofList [.subBalance sender amount, .addBalance recipient amount]

/-- `TxContext`. -/
structure TxContext where
  origin : Address
  gasPrice : Int

/-- Modelled from the spec: `interpreter.Run` as a ZVM makes it: from the block and transaction
context and the depth, the run of a frame over the state. -/
abbrev Interpreter :=
  BlockContext → TxContext → Nat → (c : Contract) → Bytes → Bool → StateDB → RunResult c.gas

/-- An interpreter that reads the block hashes only at the numbers it reports looking up: under
a `GetHash` that agrees with the context's there, it runs the frame the same way. -/
def Interpreter.ReadsLookedUpHashes (run : Interpreter) : Prop :=
  ∀ ctx t depth c input ro s (getHash : UInt64 → Hash),
    (∀ num ∈ (run ctx t depth c input ro s).hashLookups, getHash num = ctx.getHash num) →
      run { ctx with getHash := getHash } t depth c input ro s = run ctx t depth c input ro s

/-- A `ZVM` with its collaborators. -/
structure ZVM where
  context : BlockContext
  txContext : TxContext
  depth : Nat
  precompiles : Address → Option PrecompiledContract
  interpreter : Interpreter
  crypto : Crypto

/-- What `Call`, `DelegateCall` and `StaticCall` return, with the state they leave and the block
numbers the code they ran looked up. -/
structure CallResult where
  ret : Bytes
  leftOverGas : UInt64
  err : Option ZvmError
  state : StateDB
  hashLookups : List UInt64

/-- Modelled from the spec: `RunPrecompiledContract`, which does not touch the state. -/
def runPrecompiledContract (p : PrecompiledContract) (input : Bytes) (suppliedGas : UInt64)
    (s : StateDB) : CallResult :=
  let gasCost := p.requiredGas input
  if suppliedGas < gasCost then ⟨[], 0, some .errOutOfGas, s, []⟩
  else
    match p.run input with
    | .ok output => ⟨output, suppliedGas - gasCost, none, s, []⟩
    | .error msg => ⟨[], suppliedGas - gasCost, some (.fault msg), s, []⟩

@[simp] lemma state_runPrecompiledContract (p : PrecompiledContract) (input : Bytes) (g : UInt64)
    (s : StateDB) : (runPrecompiledContract p input g s).state = s := by
  simp only [runPrecompiledContract]
  split
  · rfl
  · split <;> rfl

/-- The end of `Call`, `DelegateCall` and `StaticCall`: on an error, revert to the snapshot and,
unless the callee reverted, consume the gas left. -/
def settle (snapshot : Nat) (r : CallResult) : CallResult :=
  match r.err with
  | none => r
  | some e =>
    { r with leftOverGas := if e = .errExecutionReverted then r.leftOverGas else 0,
             state := r.state.revertToSnapshot snapshot }

namespace ZVM

variable (zvm : ZVM)

/-- `ZVM.precompile`. -/
def precompile (addr : Address) : Option PrecompiledContract := zvm.precompiles addr

/-- The ZVM with `GetHash` replaced by `getHash`. -/
def withGetHash (getHash : UInt64 → Hash) : ZVM :=
  { zvm with context := { zvm.context with getHash := getHash } }

/-- Modelled from the spec: `interpreter.Run`: the interpreter on a frame, reading the ZVM's
contexts and depth. -/
def interpret (c : Contract) (input : Bytes) (readOnly : Bool) (s : StateDB) : RunResult c.gas :=
  zvm.interpreter zvm.context zvm.txContext zvm.depth c input readOnly s

/-- Modelled from the spec: `interpreter.Run` on a frame, with the calls it makes carried out. -/
def runFrame (c : Contract) (input : Bytes) (readOnly : Bool) (s : StateDB) : CallResult :=
  let r := zvm.interpret c input readOnly s
  ⟨r.ret, r.gasLeft, r.halt.err, r.eff.run s, r.hashLookups⟩

/-! ### `Call` -/

/-- The steps of `Call` before the value transfer: the depth and balance checks, and the
creation of a missing target. `.inl` is an early return; `.inr` is the state the transfer is
made in. -/
def callPrelude (s : StateDB) (caller addr : Address) (gas : UInt64) (value : Int) :
    CallResult ⊕ StateDB :=
  if callCreateDepth < zvm.depth then .inl ⟨[], gas, some .errDepth, s, []⟩
  else if value ≠ 0 ∧ !zvm.context.canTransfer s.world caller value then
    .inl ⟨[], gas, some .errInsufficientBalance, s, []⟩
  else if !s.world.exist addr then
    if (zvm.precompile addr).isNone ∧ value = 0 then .inl ⟨[], gas, none, s, []⟩
    else .inr (s.apply (.createAccount addr))
  else .inr s

lemma callPrelude_inl_eq {s : StateDB} {caller addr : Address} {gas : UInt64} {value : Int}
    {r : CallResult} (h : zvm.callPrelude s caller addr gas value = .inl r) :
    ∃ e, (e = some .errDepth ∨ e = some .errInsufficientBalance ∨ e = none) ∧
      r = ⟨[], gas, e, s, []⟩ := by
  unfold callPrelude at h
  split_ifs at h <;> cases h
  exacts [⟨_, .inl rfl, rfl⟩, ⟨_, .inr (.inl rfl), rfl⟩, ⟨_, .inr (.inr rfl), rfl⟩]

lemma callPrelude_inr_eq {s s' : StateDB} {caller addr : Address} {gas : UInt64} {value : Int}
    (h : zvm.callPrelude s caller addr gas value = .inr s') :
    (value ≠ 0 → zvm.context.canTransfer s.world caller value = true) ∧
      (s' = s.apply (.createAccount addr) ∨ s' = s) := by
  unfold callPrelude at h
  split_ifs at h with _ hb <;> cases h
  · exact ⟨fun hv => by simpa [hv] using hb, .inl rfl⟩
  · exact ⟨fun hv => by simpa [hv] using hb, .inr rfl⟩

/-- The rest of `Call`: transfer the value, run the precompile or the code, and settle. -/
def callRun (snapshot : Nat) (caller addr : Address) (input : Bytes) (gas : UInt64) (value : Int)
    (s : StateDB) : CallResult :=
  let s := (zvm.context.transfer s.world caller addr value).run s
  settle snapshot <|
    match zvm.precompile addr with
    | some p => runPrecompiledContract p input gas s
    | none =>
      let code := s.world.getCode addr
      if code = [] then ⟨[], gas, none, s, []⟩
      else
        zvm.runFrame ((newContract caller addr value gas).setCallCode addr
          (s.world.getCodeHash addr) code) input false s

/-- `ZVM.Call`. -/
def call (s : StateDB) (caller addr : Address) (input : Bytes) (gas : UInt64) (value : Int) :
    CallResult :=
  match zvm.callPrelude s caller addr gas value with
  | .inl r => r
  | .inr s' => zvm.callRun s.snapshot caller addr input gas value s'

/-! ### `DelegateCall` and `StaticCall` -/

/-- `ZVM.DelegateCall`; the caller is the frame making the call. -/
def delegateCall (s : StateDB) (caller : Contract) (addr : Address) (input : Bytes)
    (gas : UInt64) : CallResult :=
  if callCreateDepth < zvm.depth then ⟨[], gas, some .errDepth, s, []⟩
  else
    settle s.snapshot <|
      match zvm.precompile addr with
      | some p => runPrecompiledContract p input gas s
      | none =>
        zvm.runFrame
          (((newContract caller.address caller.address 0 gas).asDelegate caller).setCallCode
            addr (s.world.getCodeHash addr) (s.world.getCode addr)) input false s

/-- `ZVM.StaticCall`, whose zero-value `AddBalance` touches the target. -/
def staticCall (s : StateDB) (caller addr : Address) (input : Bytes) (gas : UInt64) :
    CallResult :=
  if callCreateDepth < zvm.depth then ⟨[], gas, some .errDepth, s, []⟩
  else
    let snapshot := s.snapshot
    let s := s.apply (.addBalance addr 0)
    settle snapshot <|
      match zvm.precompile addr with
      | some p => runPrecompiledContract p input gas s
      | none =>
        zvm.runFrame ((newContract caller addr 0 gas).setCallCode addr (s.world.getCodeHash addr)
          (s.world.getCode addr)) input true s

end ZVM

end GoZond
