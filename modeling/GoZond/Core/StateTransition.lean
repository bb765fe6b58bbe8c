import GoZond.Core.StateProcessor
import GoZond.Vm.Bounds
import GoZond.Vm.Revert
import GoZond.Vm.Hashes

/-!
The state transition: what `ApplyMessage` does with one message.

`core/state_transition.go` is not among the repository's files, so the transition is modelled
from the spec (§4.3, §4.5): check the nonce, check that the sender can pay `gasLimit × feeCap +
value`, take the gas limit from the block's pool and pay for it at the message's price, charge
the intrinsic gas, run the message through the ZVM's `Create` or `Call`, give back the gas left,
and pay the block producer its tip on the gas used.

Since it runs on the entry points of src, it meets the interface the block processors are
proved against: its StateDB is reached by journaled calls, and the pool loses exactly the gas
it reports (`applyMessage`). A message is run exactly when it passes the checks, and is then
charged at least its intrinsic gas and at most its limit. A call that fails leaves only the
purchase, the nonce increment, the refund and the tip; so does a creation that fails, with the
new address in the access list, unless its code could not be stored (`ErrCodeStoreOutOfGas`
keeps the init code's writes) or `create` failed its own checks (then the nonce stays).
-/

namespace GoZond

/-! ### The checks -/

/-- Modelled from the spec: a message whose nonce is above the sender's (§4.5 (b)). -/
def errNonceTooHigh : String := "nonce too high"

/-- Modelled from the spec: a message whose nonce is below the sender's (§4.5 (b)). -/
def errNonceTooLow : String := "nonce too low"

/-- Modelled from the spec: a sender whose nonce cannot be incremented. -/
def errNonceMax : String := "nonce has max value"

/-- Modelled from the spec: a sender who cannot cover `gasLimit × feeCap + value` (§4.5 (c)). -/
def errInsufficientFunds : String := "insufficient funds for gas * price + value"

/-- Modelled from the spec: a message that would exceed the block's remaining gas (§4.3). -/
def errGasLimitReached : String := "gas limit reached"

/-- Modelled from the spec: a gas limit below the intrinsic gas (§4.5 (d)). -/
def errIntrinsicGas : String := "intrinsic gas too low"

/-- Modelled from the spec: the nonce check (§4.5 (b)), skipped for a message that skips account
checks: the message's nonce is the sender's, and the sender's can still be incremented. -/
def preCheck (msg : Message) (w : World) : Option String :=
  if msg.skipAccountChecks then none
  else
    let stNonce := w.getNonce msg.sender
    if stNonce < msg.nonce then some errNonceTooHigh
    else if msg.nonce < stNonce then some errNonceTooLow
    else if stNonce + 1 < stNonce then some errNonceMax
    else none

/-- Modelled from the spec: buying the gas (§4.5 (c), §4.3). The sender's balance covers
`gasLimit × feeCap + value` and the block's pool holds the gas limit; the pool gives it up, and
the sender pays for it at the message's gas price. -/
def buyGas (msg : Message) (gp : UInt64) (s : StateDB) : Except String (UInt64 × StateDB) :=
  if s.world.getBalance msg.sender < (msg.gasLimit.toNat : Int) * msg.gasFeeCap + msg.value then
    .error errInsufficientFunds
  else if gp < msg.gasLimit then .error errGasLimitReached
  else .ok (gp - msg.gasLimit,
    s.apply (.subBalance msg.sender (msg.gasLimit.toNat * msg.gasPrice)))

/-- Modelled from the spec: the checks a message passes to be run (§4.5 (b)–(d), §4.3). -/
structure Valid (intrinsicGas : Message → UInt64) (msg : Message) (gp : UInt64) (w : World) :
    Prop where
  nonce : msg.skipAccountChecks ∨
    (w.getNonce msg.sender = msg.nonce ∧ ¬ msg.nonce + 1 < msg.nonce)
  funds : (msg.gasLimit.toNat : Int) * msg.gasFeeCap + msg.value ≤ w.getBalance msg.sender
  pool : msg.gasLimit ≤ gp
  intrinsic : intrinsicGas msg ≤ msg.gasLimit

/-! ### Running the message -/

/-- Modelled from the spec: the tip per unit of gas the block producer earns: at most the tip
cap, and at most what the fee cap leaves above the base fee (glossary). -/
def effectiveTip (msg : Message) (baseFee : Option Int) : Int :=
  match baseFee with
  | some b => min msg.gasTipCap (msg.gasFeeCap - b)
  | none => msg.gasPrice

/-- What the transition leaves: the StateDB, the gas in the block's pool, the result, and the
block numbers the code looked up. -/
structure Transition where
  state : StateDB
  gas : UInt64
  result : Except String ExecutionResult
  hashLookups : List UInt64

namespace ZVM

variable (zvm : ZVM)

/-- Modelled from the spec: the execution of a message with `gas` gas (§4.5 (e)). A creation
runs its data as init code through `Create`, which increments the sender's nonce itself; a call
increments the sender's nonce and calls the recipient. -/
def execute (msg : Message) (gas : UInt64) (s : StateDB) : CallResult :=
  match msg.toAddr with
  | none =>
    let r := zvm.Create s msg.sender msg.data gas msg.value
    ⟨r.ret, r.leftOverGas, r.err, r.state, r.hashLookups⟩
  | some addr =>
    zvm.call (s.apply (.setNonce msg.sender (s.world.getNonce msg.sender + 1))) msg.sender addr
      msg.data gas msg.value

/-- Modelled from the spec: the transition once the gas is bought and `gas` is what the
intrinsic gas leaves: run the message, give the sender and the pool back the gas left, and pay
the block producer the tip on the gas used. -/
def runMessage (msg : Message) (gas gp : UInt64) (s : StateDB) : Transition :=
  let r := zvm.execute msg gas s
  let gasUsed := msg.gasLimit - r.leftOverGas
  let s := r.state.apply (.addBalance msg.sender (r.leftOverGas.toNat * msg.gasPrice))
  let fee := gasUsed.toNat * effectiveTip msg zvm.context.baseFee
  ⟨s.apply (.addBalance zvm.context.coinbase fee), gp + r.leftOverGas,
    .ok ⟨gasUsed, r.err, r.ret⟩, r.hashLookups⟩

end ZVM

/-- Modelled from the spec: `ApplyMessage`, computed: the checks and the gas purchase, the
intrinsic gas, and the run. `intrinsicGas` is the intrinsic gas of a message (glossary). -/
def stateTransition (intrinsicGas : Message → UInt64) (zvm : ZVM) (msg : Message) (gp : UInt64)
    (s : StateDB) : Transition :=
  match preCheck msg s.world with
  | some e => ⟨s, gp, .error e, []⟩
  | none =>
    match buyGas msg gp s with
    | .error e => ⟨s, gp, .error e, []⟩
    | .ok (gp, s') =>
      let gas := intrinsicGas msg
      if msg.gasLimit < gas then ⟨s', gp, .error errIntrinsicGas, []⟩
      else zvm.runMessage msg (msg.gasLimit - gas) gp s'

/-! ### What each phase does -/

lemma preCheck_eq_none {msg : Message} {w : World} :
    preCheck msg w = none ↔ msg.skipAccountChecks ∨
      (w.getNonce msg.sender = msg.nonce ∧ ¬ msg.nonce + 1 < msg.nonce) := by
  simp only [preCheck]
  split_ifs with h₀ h₁ h₂ h₃
  · exact iff_of_true rfl (.inl h₀)
  · exact iff_of_false not_false
      (by rintro (h | ⟨he, -⟩); exacts [h₀ h, UInt64.lt_irrefl _ (he ▸ h₁)])
  · exact iff_of_false not_false
      (by rintro (h | ⟨he, -⟩); exacts [h₀ h, UInt64.lt_irrefl _ (he ▸ h₂)])
  all_goals have he := UInt64.le_antisymm (u64_le_of_not_lt h₂) (u64_le_of_not_lt h₁)
  · exact iff_of_false not_false
      (by rintro (h | ⟨-, h⟩); exacts [h₀ h, h (he ▸ h₃)])
  · exact iff_of_true rfl (.inr ⟨he, he ▸ h₃⟩)

lemma preCheck_ne_errIntrinsicGas {msg : Message} {w : World} {e : String}
    (h : preCheck msg w = some e) : e ≠ errIntrinsicGas := by
  simp only [preCheck] at h
  split_ifs at h <;> cases h <;> decide

lemma buyGas_eq_ok {msg : Message} {gp gp' : UInt64} {s s' : StateDB}
    (h : buyGas msg gp s = .ok (gp', s')) :
    (msg.gasLimit.toNat : Int) * msg.gasFeeCap + msg.value ≤ s.world.getBalance msg.sender ∧
      msg.gasLimit ≤ gp ∧ gp' = gp - msg.gasLimit ∧
      s' = s.apply (.subBalance msg.sender (msg.gasLimit.toNat * msg.gasPrice)) := by
  simp only [buyGas] at h
  split_ifs at h with hb hp
  cases h
  exact ⟨le_of_not_lt hb, u64_le_of_not_lt hp, rfl, rfl⟩

lemma buyGas_ne_errIntrinsicGas {msg : Message} {gp : UInt64} {s : StateDB} {e : String}
    (h : buyGas msg gp s = .error e) : e ≠ errIntrinsicGas := by
  simp only [buyGas] at h
  split_ifs at h <;> cases h <;> decide

namespace ZVM

variable (zvm : ZVM)

lemma bounded_execute (msg : Message) (gas : UInt64) (s : StateDB) :
    Bounded s gas (zvm.execute msg gas s).state (zvm.execute msg gas s).leftOverGas := by
  unfold execute
  split
  · exact zvm.bounded_create _ _ _ _ _ _
  · have h := zvm.bounded_call (s.apply (.setNonce msg.sender (s.world.getNonce msg.sender + 1)))
      msg.sender ‹_› msg.data gas msg.value
    exact ⟨(StateDB.Extends.apply _ _).trans h.1, h.2⟩

lemma runMessage_journaled (msg : Message) (gas gp : UInt64) (s : StateDB) :
    s.Extends (zvm.runMessage msg gas gp s).state :=
  (zvm.bounded_execute msg gas s).1.trans ((StateDB.Extends.apply _ _).trans (.apply _ _))

lemma result_runMessage (msg : Message) (gas gp : UInt64) (s : StateDB) :
    (zvm.runMessage msg gas gp s).result =
      .ok ⟨msg.gasLimit - (zvm.execute msg gas s).leftOverGas, (zvm.execute msg gas s).err,
        (zvm.execute msg gas s).ret⟩ := rfl

lemma runMessage_gas_used {msg : Message} {gas gp gp' : UInt64} (s : StateDB)
    (hg : gas ≤ msg.gasLimit) (hp : gp'.toNat + msg.gasLimit.toNat = gp.toNat) :
    (zvm.runMessage msg gas gp' s).gas.toNat +
      (msg.gasLimit - (zvm.execute msg gas s).leftOverGas).toNat = gp.toNat := by
  have hl := u64_le_iff.1 ((zvm.bounded_execute msg gas s).2)
  have hg := u64_le_iff.1 hg
  have hlt := UInt64.toNat_lt gp
  simp only [runMessage]
  rw [u64_toNat_add (by omega), UInt64.toNat_sub_of_le _ _ (u64_le_iff.2 (by omega))]
  omega

end ZVM

/-! ### The transition, phase by phase -/

section Transition

variable {intrinsicGas : Message → UInt64} {zvm : ZVM} {msg : Message} {gp : UInt64}
  {s : StateDB}

lemma stateTransition_of_valid (h : Valid intrinsicGas msg gp s.world) :
    stateTransition intrinsicGas zvm msg gp s =
      zvm.runMessage msg (msg.gasLimit - intrinsicGas msg) (gp - msg.gasLimit)
        (s.apply (.subBalance msg.sender (msg.gasLimit.toNat * msg.gasPrice))) := by
  have hp : ¬ gp < msg.gasLimit := fun hlt => Nat.not_le.2 (u64_lt_iff.1 hlt) (u64_le_iff.1 h.pool)
  have hi : ¬ msg.gasLimit < intrinsicGas msg := fun hlt =>
    Nat.not_le.2 (u64_lt_iff.1 hlt) (u64_le_iff.1 h.intrinsic)
  simp only [stateTransition, preCheck_eq_none.2 h.nonce, buyGas, not_lt.2 h.funds, hp, hi,
    if_false]

lemma stateTransition_of_not_valid (zvm : ZVM) (h : ¬ Valid intrinsicGas msg gp s.world) :
    (∃ e, e ≠ errIntrinsicGas ∧ stateTransition intrinsicGas zvm msg gp s = ⟨s, gp, .error e, []⟩) ∨
      stateTransition intrinsicGas zvm msg gp s =
        ⟨s.apply (.subBalance msg.sender (msg.gasLimit.toNat * msg.gasPrice)), gp - msg.gasLimit,
          .error errIntrinsicGas, []⟩ := by
  unfold stateTransition
  split
  · exact .inl ⟨_, preCheck_ne_errIntrinsicGas ‹_›, rfl⟩
  · rename_i hpre
    split
    · exact .inl ⟨_, buyGas_ne_errIntrinsicGas ‹_›, rfl⟩
    · rename_i hbuy
      obtain ⟨hb, hp, rfl, rfl⟩ := buyGas_eq_ok hbuy
      dsimp only
      split
      · exact .inr rfl
      · exact absurd ⟨preCheck_eq_none.1 hpre, hb, hp, u64_le_of_not_lt ‹_›⟩ h

lemma stateTransition_journaled (intrinsicGas : Message → UInt64) (zvm : ZVM) (msg : Message)
    (gp : UInt64) (s : StateDB) : s.Extends (stateTransition intrinsicGas zvm msg gp s).state := by
  by_cases h : Valid intrinsicGas msg gp s.world
  · rw [stateTransition_of_valid h]
    exact (StateDB.Extends.apply _ _).trans (zvm.runMessage_journaled _ _ _ _)
  · rcases stateTransition_of_not_valid zvm h with ⟨e, -, he⟩ | he <;> rw [he]
    · exact .refl s
    · exact .apply _ _

lemma stateTransition_gas_used (intrinsicGas : Message → UInt64) (zvm : ZVM) (msg : Message)
    (gp : UInt64) (s : StateDB) (r : ExecutionResult)
    (hr : (stateTransition intrinsicGas zvm msg gp s).result = .ok r) :
    (stateTransition intrinsicGas zvm msg gp s).gas.toNat + r.usedGas.toNat = gp.toNat := by
  by_cases h : Valid intrinsicGas msg gp s.world
  · rw [stateTransition_of_valid h] at hr ⊢
    rw [ZVM.result_runMessage, Except.ok.injEq] at hr
    subst hr
    have hp := u64_le_iff.1 h.pool
    exact zvm.runMessage_gas_used _ (u64_sub_le h.intrinsic)
      (by rw [UInt64.toNat_sub_of_le _ _ h.pool]; omega)
  · rcases stateTransition_of_not_valid zvm h with ⟨e, -, he⟩ | he <;>
      rw [he] at hr <;> cases hr

end Transition

/-- Modelled from the spec: `core.ApplyMessage`, the transition with the bounds the block
processors rely on, reporting the block numbers the code looked up. -/
def applyMessage (intrinsicGas : Message → UInt64) : ApplyMessage := fun zvm msg gp s =>
  ⟨(stateTransition intrinsicGas zvm msg gp s).state,
    stateTransition_journaled intrinsicGas zvm msg gp s,
    (stateTransition intrinsicGas zvm msg gp s).gas,
    (stateTransition intrinsicGas zvm msg gp s).result,
    (stateTransition intrinsicGas zvm msg gp s).hashLookups,
    stateTransition_gas_used intrinsicGas zvm msg gp s⟩

section Outcome

variable (intrinsicGas : Message → UInt64) (zvm : ZVM) (msg : Message) (gp : UInt64) (s : StateDB)

@[simp] lemma state_applyMessage :
    (applyMessage intrinsicGas zvm msg gp s).state =
      (stateTransition intrinsicGas zvm msg gp s).state :=
  rfl

@[simp] lemma gas_applyMessage :
    (applyMessage intrinsicGas zvm msg gp s).gas =
      (stateTransition intrinsicGas zvm msg gp s).gas :=
  rfl

@[simp] lemma result_applyMessage :
    (applyMessage intrinsicGas zvm msg gp s).result =
      (stateTransition intrinsicGas zvm msg gp s).result := rfl

@[simp] lemma hashLookups_applyMessage :
    (applyMessage intrinsicGas zvm msg gp s).hashLookups =
      (stateTransition intrinsicGas zvm msg gp s).hashLookups := rfl

variable {intrinsicGas zvm msg gp s}

lemma valid_of_result_ok {r : ExecutionResult}
    (h : (stateTransition intrinsicGas zvm msg gp s).result = .ok r) :
    Valid intrinsicGas msg gp s.world := by
  by_contra hv
  rcases stateTransition_of_not_valid zvm hv with ⟨e, -, he⟩ | he <;> rw [he] at h <;>
    cases h

lemma stateTransition_usedGas (zvm : ZVM) (h : Valid intrinsicGas msg gp s.world) :
    ∃ r, (stateTransition intrinsicGas zvm msg gp s).result = .ok r ∧
      intrinsicGas msg ≤ r.usedGas ∧ r.usedGas ≤ msg.gasLimit := by
  rw [stateTransition_of_valid h, ZVM.result_runMessage]
  refine ⟨_, rfl, ?_⟩
  have hl := u64_le_iff.1 (zvm.bounded_execute msg (msg.gasLimit - intrinsicGas msg)
    (s.apply (.subBalance msg.sender (msg.gasLimit.toNat * msg.gasPrice)))).2
  have hi := u64_le_iff.1 h.intrinsic
  rw [UInt64.toNat_sub_of_le _ _ h.intrinsic] at hl
  simp only [u64_le_iff]
  rw [UInt64.toNat_sub_of_le _ _ (u64_le_iff.2 (by omega))]
  omega

end Outcome

/-! ### Which block hashes the transition reads -/

namespace ZVM

variable {zvm : ZVM}

section GetHash

variable {getHash : UInt64 → Hash} (hr : zvm.interpreter.ReadsLookedUpHashes)
include hr

lemma execute_withGetHash (msg : Message) (gas : UInt64) (s : StateDB)
    (hg : ∀ num ∈ (zvm.execute msg gas s).hashLookups, getHash num = zvm.context.getHash num) :
    (zvm.withGetHash getHash).execute msg gas s = zvm.execute msg gas s := by
  unfold execute at hg ⊢
  cases hto : msg.toAddr with
  | none =>
    simp only [hto, Create, crypto_withGetHash] at hg ⊢
    rw [create_withGetHash hr _ _ _ _ _ _ hg]
  | some addr =>
    simp only [hto] at hg ⊢
    exact call_withGetHash hr _ _ _ _ _ _ hg

lemma runMessage_withGetHash (msg : Message) (gas gp : UInt64) (s : StateDB)
    (hg : ∀ num ∈ (zvm.runMessage msg gas gp s).hashLookups,
      getHash num = zvm.context.getHash num) :
    (zvm.withGetHash getHash).runMessage msg gas gp s = zvm.runMessage msg gas gp s := by
  simp only [runMessage, context_withGetHash, execute_withGetHash hr msg gas s hg]

end GetHash

lemma execute_looksUpOnly {P : UInt64 → Prop} (hP : zvm.LooksUpOnly P) (msg : Message)
    (gas : UInt64) (s : StateDB) : ∀ num ∈ (zvm.execute msg gas s).hashLookups, P num := by
  unfold execute
  split
  · exact create_looksUpOnly hP _ _ _ _ _ _
  · exact call_looksUpOnly hP _ _ _ _ _ _

end ZVM

section Transition

variable {intrinsicGas : Message → UInt64} {msg : Message} {gp : UInt64} {s : StateDB}

lemma stateTransition_eq_of_not_valid (h : ¬ Valid intrinsicGas msg gp s.world) (zvm zvm' : ZVM) :
    stateTransition intrinsicGas zvm msg gp s = stateTransition intrinsicGas zvm' msg gp s := by
  unfold stateTransition
  cases hpre : preCheck msg s.world with
  | some e => rfl
  | none =>
    cases hbuy : buyGas msg gp s with
    | error e => rfl
    | ok p =>
      obtain ⟨gp', s'⟩ := p
      obtain ⟨hb, hp, rfl, rfl⟩ := buyGas_eq_ok hbuy
      have hi : msg.gasLimit < intrinsicGas msg :=
        by_contra fun hi => h ⟨preCheck_eq_none.1 hpre, hb, hp, u64_le_of_not_lt hi⟩
      simp only [hi, if_true]

lemma stateTransition_withGetHash {zvm : ZVM} {getHash : UInt64 → Hash}
    (hr : zvm.interpreter.ReadsLookedUpHashes)
    (hg : ∀ num ∈ (stateTransition intrinsicGas zvm msg gp s).hashLookups,
      getHash num = zvm.context.getHash num) :
    stateTransition intrinsicGas (zvm.withGetHash getHash) msg gp s =
      stateTransition intrinsicGas zvm msg gp s := by
  by_cases h : Valid intrinsicGas msg gp s.world
  · rw [stateTransition_of_valid h] at hg
    rw [stateTransition_of_valid h, stateTransition_of_valid h]
    exact ZVM.runMessage_withGetHash hr _ _ _ _ hg
  · exact stateTransition_eq_of_not_valid h _ _

lemma stateTransition_looksUpOnly {zvm : ZVM} {P : UInt64 → Prop} (hP : zvm.LooksUpOnly P) :
    ∀ num ∈ (stateTransition intrinsicGas zvm msg gp s).hashLookups, P num := by
  by_cases h : Valid intrinsicGas msg gp s.world
  · rw [stateTransition_of_valid h]
    exact ZVM.execute_looksUpOnly hP _ _ _
  · rcases stateTransition_of_not_valid zvm h with ⟨e, -, he⟩ | he <;> rw [he] <;> exact nofun

end Transition

lemma applyMessage_readsLookedUpHashes (intrinsicGas : Message → UInt64) :
    ReadsLookedUpHashes (applyMessage intrinsicGas) := by
  intro zvm msg gp s getHash hr hg
  have h := stateTransition_withGetHash hr hg
  ext <;> simp only [state_applyMessage, gas_applyMessage, result_applyMessage,
    hashLookups_applyMessage, h]

/-- A ZVM for the examples: the core transfer functions, coinbase `0x03` and no base fee, no
precompiles, and an interpreter that halts in `h` at once with no gas left. -/
def haltingZvm (h : Halt) : ZVM where
  context := ⟨canTransfer, transfer, fun _ => 0, 3, 0, 0, 0, none, none⟩
  txContext := ⟨1, 1⟩
  depth := 0
  precompiles := fun _ => none
  interpreter := fun _ _ _ _ _ _ _ => ⟨[], 0, u64_zero_le _, h, .done, []⟩
  crypto := ⟨fun _ => 0, fun _ _ => 4, fun _ _ _ => 4⟩

/-- A state for the examples: `0x01` holds 100000, and `0x02` holds the one-byte code `0x00`. -/
def sampleState : StateDB :=
  (StateDB.empty.apply (.addBalance 1 100000)).apply (.setCode 2 [0] 0)

/-- A message from `0x01` to `addr` carrying 50, with the given nonce and gas limit, at a gas
price of 1. -/
def sampleCall (addr : Address) (nonce gasLimit : UInt64) : Message :=
  ⟨some addr, 1, nonce, 50, gasLimit, 1, 1, 1, [], [], false⟩

/-- A creation from `0x01` endowing 50, with init code `0x01`, nonce 0 and 30000 gas at a gas
price of 1. -/
def sampleCreation : Message := ⟨none, 1, 0, 50, 30000, 1, 1, 1, [1], [], false⟩

/-- `sampleEnv` with the state transition, at an intrinsic gas of 21000, as `ApplyMessage`. -/
def transitionEnv : Env := { sampleEnv with applyMessage := applyMessage fun _ => 21000 }

/-- **A message is run exactly when it passes the checks, and is then charged between its
intrinsic gas and its limit.** The nonce, funds, pool and intrinsic gas checks (§4.5 (b)–(d),
§4.3) decide whether `ApplyMessage` has a result; whatever the execution then does, failing
included, the message has one, with at least its intrinsic gas and at most its gas limit
used. -/
theorem message_runs_iff_valid (intrinsicGas : Message → UInt64) (zvm : ZVM) (msg : Message)
    (gp : UInt64) (s : StateDB) :
    ((∃ r, (applyMessage intrinsicGas zvm msg gp s).result = .ok r) ↔
      Valid intrinsicGas msg gp s.world) ∧
    ∀ r, (applyMessage intrinsicGas zvm msg gp s).result = .ok r →
      intrinsicGas msg ≤ r.usedGas ∧ r.usedGas ≤ msg.gasLimit := by
  simp only [result_applyMessage]
  refine ⟨⟨fun ⟨_, hr⟩ => valid_of_result_ok hr, fun h => ?_⟩, fun r hr => ?_⟩
  · obtain ⟨r, hr, -⟩ := stateTransition_usedGas zvm h
    exact ⟨r, hr⟩
  · obtain ⟨r', hr', hle⟩ := stateTransition_usedGas _ (valid_of_result_ok hr)
    rw [hr', Except.ok.injEq] at hr
    exact hr ▸ hle

/-- The transfer of §8.7, with the funds to pay for its gas: the sender pays the 50 it sends and
21000 gas, the new account `0x04` receives 50, the producer earns the tip on the 21000 gas, and
the sender's nonce moves to 1. -/
example :
    (applyMessage (fun _ => 21000) (haltingZvm .success) (sampleCall 4 0 30000) 30000
        sampleState).result = .ok ⟨21000, none, []⟩ ∧
      (applyMessage (fun _ => 21000) (haltingZvm .success) (sampleCall 4 0 30000) 30000
        sampleState).state.world.getBalance 1 = 100000 - 50 - 21000 ∧
      (applyMessage (fun _ => 21000) (haltingZvm .success) (sampleCall 4 0 30000) 30000
        sampleState).state.world.getBalance 4 = 50 ∧
      (applyMessage (fun _ => 21000) (haltingZvm .success) (sampleCall 4 0 30000) 30000
        sampleState).state.world.getBalance 3 = 21000 ∧
      (applyMessage (fun _ => 21000) (haltingZvm .success) (sampleCall 4 0 30000) 30000
        sampleState).state.world.getNonce 1 = 1 :=
  ⟨rfl, rfl, rfl, rfl, rfl⟩

/-- **A call that fails leaves only its fees** (§8.2). When a call message has a result whose
execution failed, the StateDB is the one the message was applied to with exactly four journaled
writes: the sender's payment for the gas limit, the increment of the sender's nonce, the refund
of the gas left at the same price, and the block producer's tip on the gas used. Unless the
callee reverted or the call never started (depth, balance), the whole gas limit is used. -/
theorem failed_call_leaves_fees (intrinsicGas : Message → UInt64) (zvm : ZVM) (msg : Message)
    (gp : UInt64) (s : StateDB) (addr : Address) (hto : msg.toAddr = some addr)
    (r : ExecutionResult) (hr : (applyMessage intrinsicGas zvm msg gp s).result = .ok r)
    (e : ZvmError) (he : r.err = some e) :
    (applyMessage intrinsicGas zvm msg gp s).state =
      (((s.apply (.subBalance msg.sender (msg.gasLimit.toNat * msg.gasPrice))).apply
        (.setNonce msg.sender (s.world.getNonce msg.sender + 1))).apply
        (.addBalance msg.sender ((msg.gasLimit - r.usedGas).toNat * msg.gasPrice))).apply
        (.addBalance zvm.context.coinbase
          (r.usedGas.toNat * effectiveTip msg zvm.context.baseFee)) ∧
    (e ≠ .errDepth → e ≠ .errInsufficientBalance → e ≠ .errExecutionReverted →
      r.usedGas = msg.gasLimit) := by
  rw [result_applyMessage] at hr
  have hv := valid_of_result_ok hr
  rw [state_applyMessage, stateTransition_of_valid hv]
  rw [stateTransition_of_valid hv, ZVM.result_runMessage, Except.ok.injEq] at hr
  subst hr
  set s' := s.apply (.subBalance msg.sender (msg.gasLimit.toNat * msg.gasPrice))
  have hcall : zvm.execute msg (msg.gasLimit - intrinsicGas msg) s' =
      zvm.call (s'.apply (.setNonce msg.sender (s.world.getNonce msg.sender + 1))) msg.sender addr
        msg.data (msg.gasLimit - intrinsicGas msg) msg.value := by
    simp only [ZVM.execute, hto, s', StateDB.world_apply, World.getNonce_subBalance]
  rw [hcall] at he ⊢
  obtain ⟨hst, -, hgas⟩ := zvm.call_reverts _ _ _ _ _ _ e he
  refine ⟨?_, fun h₁ h₂ h₃ => by simp only [hgas h₁ h₂ h₃, sub_zero]⟩
  simp only [ZVM.runMessage, hcall, hst, sub_sub_cancel]

/-- A call to the code at `0x02` that runs out of gas: the sender pays for all 30000 gas, its
nonce moves to 1, and the producer earns the tip on 30000 gas. -/
theorem out_of_gas_call_leaves_fees :
    ∃ r, (applyMessage (fun _ => 21000) (haltingZvm .outOfGas) (sampleCall 2 0 30000) 30000
        sampleState).result = .ok r ∧ r.err = some .errOutOfGas ∧
      ((applyMessage (fun _ => 21000) (haltingZvm .outOfGas) (sampleCall 2 0 30000) 30000
          sampleState).state =
        (((sampleState.apply (.subBalance 1 ((30000 : UInt64).toNat * 1))).apply
          (.setNonce 1 (sampleState.world.getNonce 1 + 1))).apply
          (.addBalance 1 (((30000 : UInt64) - r.usedGas).toNat * 1))).apply
          (.addBalance 3 (r.usedGas.toNat * effectiveTip (sampleCall 2 0 30000) none)) ∧
      (ZvmError.errOutOfGas ≠ .errDepth → ZvmError.errOutOfGas ≠ .errInsufficientBalance →
        ZvmError.errOutOfGas ≠ .errExecutionReverted → r.usedGas = 30000)) :=
  ⟨_, rfl, rfl, failed_call_leaves_fees (fun _ => 21000) (haltingZvm .outOfGas)
    (sampleCall 2 0 30000) 30000 sampleState 2 rfl _ rfl _ rfl⟩

/-- **A creation that fails leaves only its fees, unless its code cannot be stored.** When a
creation message has a result whose execution failed with an error other than
`ErrCodeStoreOutOfGas`, the StateDB is the one the message was applied to with the sender's
payment for the gas limit, then, unless `create` failed one of its own first three checks, the
increment of the sender's nonce and the new address in the access list, then the refund of the
gas left and the block producer's tip. A creation that fails its own checks is charged its
intrinsic gas only; one that fails later, unless the init code reverted, its whole gas limit. -/
theorem failed_creation_leaves_fees (intrinsicGas : Message → UInt64) (zvm : ZVM) (msg : Message)
    (gp : UInt64) (s : StateDB) (hto : msg.toAddr = none) (r : ExecutionResult)
    (hr : (applyMessage intrinsicGas zvm msg gp s).result = .ok r) (e : ZvmError)
    (he : r.err = some e) (hc : e ≠ .errCodeStoreOutOfGas) :
    (applyMessage intrinsicGas zvm msg gp s).state =
      ((if e = .errDepth ∨ e = .errInsufficientBalance ∨ e = .errNonceUintOverflow then
          s.apply (.subBalance msg.sender (msg.gasLimit.toNat * msg.gasPrice))
        else createBase (s.apply (.subBalance msg.sender (msg.gasLimit.toNat * msg.gasPrice)))
          msg.sender (zvm.crypto.createAddress msg.sender (s.world.getNonce msg.sender))).apply
        (.addBalance msg.sender ((msg.gasLimit - r.usedGas).toNat * msg.gasPrice))).apply
        (.addBalance zvm.context.coinbase
          (r.usedGas.toNat * effectiveTip msg zvm.context.baseFee)) ∧
    ((e = .errDepth ∨ e = .errInsufficientBalance ∨ e = .errNonceUintOverflow) →
      r.usedGas = intrinsicGas msg) ∧
    (¬ (e = .errDepth ∨ e = .errInsufficientBalance ∨ e = .errNonceUintOverflow) →
      e ≠ .errExecutionReverted → r.usedGas = msg.gasLimit) := by
  rw [result_applyMessage] at hr
  have hv := valid_of_result_ok hr
  rw [state_applyMessage, stateTransition_of_valid hv]
  rw [stateTransition_of_valid hv, ZVM.result_runMessage, Except.ok.injEq] at hr
  subst hr
  set s' := s.apply (.subBalance msg.sender (msg.gasLimit.toNat * msg.gasPrice))
  set gas := msg.gasLimit - intrinsicGas msg
  set addr := zvm.crypto.createAddress msg.sender (s.world.getNonce msg.sender)
  have hexec : zvm.execute msg gas s' =
      ⟨(zvm.create s' msg.sender ⟨msg.data, 0⟩ gas msg.value addr).ret,
        (zvm.create s' msg.sender ⟨msg.data, 0⟩ gas msg.value addr).leftOverGas,
        (zvm.create s' msg.sender ⟨msg.data, 0⟩ gas msg.value addr).err,
        (zvm.create s' msg.sender ⟨msg.data, 0⟩ gas msg.value addr).state,
        (zvm.create s' msg.sender ⟨msg.data, 0⟩ gas msg.value addr).hashLookups⟩ := by
    simp only [ZVM.execute, hto, ZVM.Create, s', addr, StateDB.world_apply,
      World.getNonce_subBalance]
  rw [hexec] at he
  rcases zvm.create_err_cases s' msg.sender ⟨msg.data, 0⟩ gas msg.value addr he hc with
    ⟨hpre, hst, hgas⟩ | ⟨hpre, hst, hgas⟩
  · refine ⟨?_, fun _ => ?_, fun h => absurd hpre h⟩
    · simp only [ZVM.runMessage, hexec, hst, sub_sub_cancel, if_pos hpre]
    · simp only [hexec, hgas, gas, sub_sub_cancel]
  · refine ⟨?_, fun h => absurd h hpre, fun _ h₁ => by simp only [hexec, hgas h₁, sub_zero]⟩
    simp only [ZVM.runMessage, hexec, hst, sub_sub_cancel, if_neg hpre]

/-- A creation whose init code runs out of gas: the nonce increment and the access-list entry
stay with the fees, and the 30000 gas are all used. -/
theorem out_of_gas_creation_leaves_fees :
    ∃ r, (applyMessage (fun _ => 21000) (haltingZvm .outOfGas) sampleCreation 30000
        sampleState).result = .ok r ∧ r.err = some .errOutOfGas ∧
      ZvmError.errOutOfGas ≠ .errCodeStoreOutOfGas ∧
      ((applyMessage (fun _ => 21000) (haltingZvm .outOfGas) sampleCreation 30000
          sampleState).state =
        ((if ZvmError.errOutOfGas = .errDepth ∨ ZvmError.errOutOfGas = .errInsufficientBalance ∨
              ZvmError.errOutOfGas = .errNonceUintOverflow then
            sampleState.apply (.subBalance 1 ((30000 : UInt64).toNat * 1))
          else createBase (sampleState.apply (.subBalance 1 ((30000 : UInt64).toNat * 1))) 1
            ((haltingZvm .outOfGas).crypto.createAddress 1 (sampleState.world.getNonce 1))).apply
          (.addBalance 1 (((30000 : UInt64) - r.usedGas).toNat * 1))).apply
          (.addBalance 3 (r.usedGas.toNat * effectiveTip sampleCreation none)) ∧
      ((ZvmError.errOutOfGas = .errDepth ∨ ZvmError.errOutOfGas = .errInsufficientBalance ∨
          ZvmError.errOutOfGas = .errNonceUintOverflow) → r.usedGas = 21000) ∧
      (¬ (ZvmError.errOutOfGas = .errDepth ∨ ZvmError.errOutOfGas = .errInsufficientBalance ∨
          ZvmError.errOutOfGas = .errNonceUintOverflow) →
        ZvmError.errOutOfGas ≠ .errExecutionReverted → r.usedGas = 30000)) :=
  ⟨_, rfl, rfl, by decide, failed_creation_leaves_fees (fun _ => 21000) (haltingZvm .outOfGas)
    sampleCreation 30000 sampleState rfl _ rfl _ rfl (by decide)⟩

end GoZond
