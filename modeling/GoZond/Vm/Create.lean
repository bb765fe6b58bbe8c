import GoZond.Vm.Zvm

/-!
`ZVM.create` and its two front ends, which differ only in how they derive the new address:
`Create` from the caller's nonce, `Create2` from a salt and the hash of the init code.

`create` is split where the value transfer happens: `createPrelude` holds the checks and the
writes before it, `createRun` the transfer, the run of the init code, `deploy` the checks on
the returned code and its storage, and `settleCreate` the final error handling.
-/

namespace GoZond

/-- `codeAndHash`: init code and its hash, computed when first asked for. -/
structure CodeAndHash where
  code : Bytes
  hash : Hash

/-- `codeAndHash.Hash`. -/
def CodeAndHash.getHash (c : CodeAndHash) (crypto : Crypto) : Hash :=
  if c.hash = 0 then crypto.keccak256Hash c.code else c.hash

/-- Modelled from the spec: `Contract.SetCodeOptionalHash`. -/
def Contract.setCodeOptionalHash (c : Contract) (addr : Address) (ch : CodeAndHash)
    (crypto : Crypto) : Contract :=
  { c with code := ch.code, codeHash := ch.getHash crypto, codeAddr := some addr }

/-- What `create` returns, with the state it leaves and the block numbers the init code looked
up. -/
structure CreateResult where
  ret : Bytes
  contractAddr : Address
  leftOverGas : UInt64
  err : Option ZvmError
  state : StateDB
  hashLookups : List UInt64

/-- The two checks `create` makes on the code the init code returns. -/
def codeCheck (ret : Bytes) (err : Option ZvmError) : Option ZvmError :=
  let err := if err = none ∧ maxCodeSize < ret.length then some .errMaxCodeSizeExceeded else err
  if err = none ∧ ret.head? = some 0xEF then some .errInvalidCode else err

/-- The error handling at the end of `create`: on an error other than `ErrCodeStoreOutOfGas`,
revert to the snapshot and, unless the init code reverted, consume the gas left. -/
def settleCreate (snapshot : Nat) (r : CreateResult) : CreateResult :=
  match r.err with
  | none => r
  | some e =>
    if e = .errCodeStoreOutOfGas then r
    else
      { r with leftOverGas := if e = .errExecutionReverted then r.leftOverGas else 0,
               state := r.state.revertToSnapshot snapshot }

/-- The state a failed `create` is to leave: the one it was called on with the caller's nonce
incremented and the new address in the access list. -/
def createBase (s : StateDB) (caller address : Address) : StateDB :=
  (s.apply (.setNonce caller (s.world.getNonce caller + 1))).apply (.addAddressToAccessList address)

namespace ZVM

variable (zvm : ZVM)

/-- The steps of `create` before the value transfer: the depth, balance and nonce checks, the
nonce increment, the access-list entry, the collision check, the snapshot and the new account.
`.inl` is an early return; `.inr` carries the snapshot and the state the transfer is made in. -/
def createPrelude (s : StateDB) (caller : Address) (gas : UInt64) (value : Int)
    (address : Address) : CreateResult ⊕ (Nat × StateDB) :=
  if callCreateDepth < zvm.depth then .inl ⟨[], 0, gas, some .errDepth, s, []⟩
  else if !zvm.context.canTransfer s.world caller value then
    .inl ⟨[], 0, gas, some .errInsufficientBalance, s, []⟩
  else
    let nonce := s.world.getNonce caller
    if nonce + 1 < nonce then .inl ⟨[], 0, gas, some .errNonceUintOverflow, s, []⟩
    else
      let s := (s.apply (.setNonce caller (nonce + 1))).apply (.addAddressToAccessList address)
      let contractHash := s.world.getCodeHash address
      if s.world.getNonce address ≠ 0 ∨ (contractHash ≠ 0 ∧ contractHash ≠ emptyCodeHash) then
        .inl ⟨[], 0, 0, some .errContractAddressCollision, s, []⟩
      else .inr (s.snapshot, (s.apply (.createAccount address)).apply (.setNonce address 1))

lemma createPrelude_inl_eq {s : StateDB} {caller : Address} {gas : UInt64} {value : Int}
    {address : Address} {r : CreateResult}
    (h : zvm.createPrelude s caller gas value address = .inl r) :
    (∃ e, (e = .errDepth ∨ e = .errInsufficientBalance ∨ e = .errNonceUintOverflow) ∧
        r = ⟨[], 0, gas, some e, s, []⟩) ∨
      r = ⟨[], 0, 0, some .errContractAddressCollision, createBase s caller address, []⟩ := by
  simp only [createPrelude] at h
  split_ifs at h <;> cases h
  exacts [.inl ⟨_, .inl rfl, rfl⟩, .inl ⟨_, .inr (.inl rfl), rfl⟩, .inl ⟨_, .inr (.inr rfl), rfl⟩,
    .inr rfl]

lemma createPrelude_inr_eq {s s' : StateDB} {caller : Address} {gas : UInt64} {value : Int}
    {address : Address} {snapshot : Nat}
    (h : zvm.createPrelude s caller gas value address = .inr (snapshot, s')) :
    zvm.context.canTransfer s.world caller value = true ∧
      snapshot = (createBase s caller address).snapshot ∧
      s' = ((createBase s caller address).apply (.createAccount address)).apply
        (.setNonce address 1) := by
  simp only [createPrelude] at h
  split_ifs at h with _ hb
  cases h
  exact ⟨by simpa using hb, rfl, rfl⟩

/-- The code checks and the code storage after the init code has run with gas `gasLeft` left,
having looked up the block numbers `hashLookups`. -/
def deploy (address : Address) (ret : Bytes) (gasLeft : UInt64) (err : Option ZvmError)
    (hashLookups : List UInt64) (s : StateDB) : CreateResult :=
  match codeCheck ret err with
  | some e => ⟨ret, address, gasLeft, some e, s, hashLookups⟩
  | none =>
    let cost := UInt64.ofNat ret.length * createDataGas
    if gasLeft < cost then ⟨ret, address, gasLeft, some .errCodeStoreOutOfGas, s, hashLookups⟩
    else ⟨ret, address, gasLeft - cost, none,
      s.apply (.setCode address ret (zvm.crypto.keccak256Hash ret)), hashLookups⟩

/-- The rest of `create`: transfer the value, run the init code, deploy and settle. -/
def createRun (snapshot : Nat) (caller : Address) (ch : CodeAndHash) (gas : UInt64)
    (value : Int) (address : Address) (s : StateDB) : CreateResult :=
  let s := (zvm.context.transfer s.world caller address value).run s
  let contract := (newContract caller address value gas).setCodeOptionalHash address ch zvm.crypto
  let r := zvm.interpret contract [] false s
  settleCreate snapshot (zvm.deploy address r.ret r.gasLeft r.halt.err r.hashLookups (r.eff.run s))

/-- `ZVM.create`. -/
def create (s : StateDB) (caller : Address) (ch : CodeAndHash) (gas : UInt64) (value : Int)
    (address : Address) : CreateResult :=
  match zvm.createPrelude s caller gas value address with
  | .inl r => r
  | .inr (snapshot, s') => zvm.createRun snapshot caller ch gas value address s'

/-- `ZVM.Create`: the new address comes from the caller and its nonce. -/
def Create (s : StateDB) (caller : Address) (code : Bytes) (gas : UInt64) (value : Int) :
    CreateResult :=
  let contractAddr := zvm.crypto.createAddress caller (s.world.getNonce caller)
  zvm.create s caller ⟨code, 0⟩ gas value contractAddr

/-- `ZVM.Create2`: the new address comes from the caller, the salt and the init code's hash. -/
def Create2 (s : StateDB) (caller : Address) (code : Bytes) (gas : UInt64) (endowment : Int)
    (salt : Hash) : CreateResult :=
  let ch : CodeAndHash := ⟨code, 0⟩
  let contractAddr := zvm.crypto.createAddress2 caller salt (ch.getHash zvm.crypto)
  zvm.create s caller ch gas endowment contractAddr

end ZVM

end GoZond
