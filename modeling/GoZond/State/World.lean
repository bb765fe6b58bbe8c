import GoZond.Common

/-!
The world state the StateDB exposes to the execution engine.

`core/state` is not among the repository's files; what is here is modelled from the spec (§3,
§4.1, §4.2): an account record per address, the logs emitted so far, the refund counter and
the access list, read through getters that answer for a missing account with zero values, and
written through the mutation methods of the `StateDB` interface. A write to a missing account
first creates it, as `GetOrNewStateObject` does.
-/

namespace GoZond

/-- Modelled from the spec: a state object: the account fields of §3 together with its code, its
storage and the self-destruct mark that `Finalise` reads. -/
structure Account where
  nonce : UInt64
  balance : Int
  codeHash : Hash
  code : Bytes
  storage : Hash → Hash
  selfDestructed : Bool

namespace Account

/-- Modelled from the spec: the object `newObject` makes for an address with no account. -/
def fresh : Account := ⟨0, 0, emptyCodeHash, [], fun _ => 0, false⟩

/-- Modelled from the spec: `stateObject.empty`: no nonce, no balance and no code. -/
def empty (a : Account) : Prop := a.nonce = 0 ∧ a.balance = 0 ∧ a.codeHash = emptyCodeHash

instance (a : Account) : Decidable a.empty := inferInstanceAs (Decidable (_ ∧ _))

end Account

/-- Modelled from the spec: `types.Log`, with the fields `AddLog` and `GetLogs` fill in. -/
structure Log where
  address : Address
  topics : List Hash
  data : Bytes
  blockNumber : UInt64
  txHash : Hash
  txIndex : Nat
  blockHash : Hash
  index : Nat

/-- Modelled from the spec: the journaled part of the StateDB. -/
structure World where
  accounts : Address → Option Account
  logs : List Log
  refund : UInt64
  accessAddrs : Address → Bool
  accessSlots : Address → Hash → Bool

namespace World

variable (w : World) (a : Address)

/-- Modelled from the spec: the account at `a`, made fresh when there is none
(`GetOrNewStateObject`). -/
def getOrNew : Account := (w.accounts a).getD Account.fresh

/-- Modelled from the spec: `StateDB.Exist`. -/
def exist : Bool := (w.accounts a).isSome

/-- Modelled from the spec: `StateDB.GetBalance`. -/
def getBalance : Int := (w.getOrNew a).balance

/-- Modelled from the spec: `StateDB.GetNonce`. -/
def getNonce : UInt64 := (w.getOrNew a).nonce

/-- Modelled from the spec: `StateDB.GetCode`. -/
def getCode : Bytes := (w.getOrNew a).code

/-- Modelled from the spec: `StateDB.GetCodeHash`: the zero hash for a missing account. -/
def getCodeHash : Hash := ((w.accounts a).map Account.codeHash).getD 0

/-- Modelled from the spec: `StateDB.GetState`. -/
def getState (k : Hash) : Hash := (w.getOrNew a).storage k

/-- Modelled from the spec: replace the account at `a`. -/
def setAccount (x : Option Account) : World := { w with accounts := Function.update w.accounts a x }

/-- Modelled from the spec: change the account at `a`, creating it first if it is missing. -/
def modify (f : Account → Account) : World := w.setAccount a (some (f (w.getOrNew a)))

end World

/-- Modelled from the spec: the writes of the `StateDB` interface. -/
inductive Mutation
  | createAccount (a : Address)
  | addBalance (a : Address) (v : Int)
  | subBalance (a : Address) (v : Int)
  | setBalance (a : Address) (v : Int)
  | setNonce (a : Address) (n : UInt64)
  | setCode (a : Address) (code : Bytes) (hash : Hash)
  | setState (a : Address) (k v : Hash)
  | selfDestruct (a : Address)
  | addRefund (g : UInt64)
  | subRefund (g : UInt64)
  | addLog (l : Log)
  | addAddressToAccessList (a : Address)
  | addSlotToAccessList (a : Address) (k : Hash)

namespace World

/-- Modelled from the spec: a write applied to the world. `thash` and `txIndex` are the transaction
context that `AddLog` stamps on the log, whose index is the number of logs before it. -/
def apply (thash : Hash) (txIndex : Nat) (w : World) : Mutation → World
  | .createAccount a => w.setAccount a (some { Account.fresh with balance := w.getBalance a })
  | .addBalance a v => w.modify a fun o => { o with balance := o.balance + v }
  | .subBalance a v => w.modify a fun o => { o with balance := o.balance - v }
  | .setBalance a v => w.modify a fun o => { o with balance := v }
  | .setNonce a n => w.modify a fun o => { o with nonce := n }
  | .setCode a code hash => w.modify a fun o => { o with code := code, codeHash := hash }
  | .setState a k v => w.modify a fun o => { o with storage := Function.update o.storage k v }
  | .selfDestruct a =>
    match w.accounts a with
    | none => w
    | some o => w.setAccount a (some { o with selfDestructed := true, balance := 0 })
  | .addRefund g => { w with refund := w.refund + g }
  | .subRefund g => { w with refund := w.refund - g }
  | .addLog l =>
    { w with logs := w.logs ++ [{ l with txHash := thash, txIndex := txIndex,
                                          index := w.logs.length }] }
  | .addAddressToAccessList a => { w with accessAddrs := Function.update w.accessAddrs a true }
  | .addSlotToAccessList a k =>
    { w with accessAddrs := Function.update w.accessAddrs a true,
             accessSlots := Function.update w.accessSlots a
               (Function.update (w.accessSlots a) k true) }

@[simp] lemma getBalance_setAccount (w : World) (a b : Address) (x : Option Account) :
    (w.setAccount a x).getBalance b =
      if b = a then (x.getD Account.fresh).balance else w.getBalance b := by
  by_cases h : b = a <;> simp [setAccount, getBalance, getOrNew, Function.update, h]

@[simp] lemma getBalance_modify (w : World) (a b : Address) (f : Account → Account) :
    (w.modify a f).getBalance b = if b = a then (f (w.getOrNew a)).balance else w.getBalance b := by
  simp [modify]

lemma getBalance_modify_of {f : Account → Account} (hf : ∀ o, (f o).balance = o.balance)
    (w : World) (a b : Address) : (w.modify a f).getBalance b = w.getBalance b := by
  rw [getBalance_modify]
  split <;> simp_all [getBalance]

/-! Which writes move balances. -/

@[simp] lemma getBalance_createAccount (t : Hash) (i : Nat) (w : World) (a b : Address) :
    (w.apply t i (.createAccount a)).getBalance b = w.getBalance b := by
  by_cases h : b = a <;> simp [apply, h, Account.fresh]

@[simp] lemma getBalance_setNonce (t : Hash) (i : Nat) (w : World) (a b : Address) (n : UInt64) :
    (w.apply t i (.setNonce a n)).getBalance b = w.getBalance b :=
  getBalance_modify_of (f := fun o => { o with nonce := n }) (fun _ => rfl) w a b

@[simp] lemma getBalance_setCode (t : Hash) (i : Nat) (w : World) (a b : Address) (code : Bytes)
    (hash : Hash) : (w.apply t i (.setCode a code hash)).getBalance b = w.getBalance b :=
  getBalance_modify_of (f := fun o => { o with code := code, codeHash := hash }) (fun _ => rfl)
    w a b

@[simp] lemma getBalance_setBalance (t : Hash) (i : Nat) (w : World) (a b : Address) (v : Int) :
    (w.apply t i (.setBalance a v)).getBalance b = if b = a then v else w.getBalance b :=
  getBalance_modify w a b fun o => { o with balance := v }

@[simp] lemma getBalance_setState (t : Hash) (i : Nat) (w : World) (a b : Address) (k v : Hash) :
    (w.apply t i (.setState a k v)).getBalance b = w.getBalance b :=
  getBalance_modify_of (f := fun o => { o with storage := Function.update o.storage k v })
    (fun _ => rfl) w a b

@[simp] lemma getBalance_addAddressToAccessList (t : Hash) (i : Nat) (w : World) (a b : Address) :
    (w.apply t i (.addAddressToAccessList a)).getBalance b = w.getBalance b := rfl

@[simp] lemma getBalance_subBalance (t : Hash) (i : Nat) (w : World) (a b : Address) (v : Int) :
    (w.apply t i (.subBalance a v)).getBalance b =
      if b = a then w.getBalance a - v else w.getBalance b :=
  getBalance_modify w a b fun o => { o with balance := o.balance - v }

@[simp] lemma getBalance_addBalance (t : Hash) (i : Nat) (w : World) (a b : Address) (v : Int) :
    (w.apply t i (.addBalance a v)).getBalance b =
      if b = a then w.getBalance a + v else w.getBalance b :=
  getBalance_modify w a b fun o => { o with balance := o.balance + v }

/-! Balance writes leave nonces alone. -/

lemma getNonce_modify_of {f : Account → Account} (hf : ∀ o, (f o).nonce = o.nonce)
    (w : World) (a b : Address) : (w.modify a f).getNonce b = w.getNonce b := by
  by_cases h : b = a
  · subst h
    simp [modify, setAccount, getNonce, getOrNew, hf]
  · simp [modify, setAccount, getNonce, getOrNew, h]

@[simp] lemma getNonce_addBalance (t : Hash) (i : Nat) (w : World) (a b : Address) (v : Int) :
    (w.apply t i (.addBalance a v)).getNonce b = w.getNonce b :=
  getNonce_modify_of (f := fun o => { o with balance := o.balance + v }) (fun _ => rfl) w a b

@[simp] lemma getNonce_subBalance (t : Hash) (i : Nat) (w : World) (a b : Address) (v : Int) :
    (w.apply t i (.subBalance a v)).getNonce b = w.getNonce b :=
  getNonce_modify_of (f := fun o => { o with balance := o.balance - v }) (fun _ => rfl) w a b

/-! Which writes move nonces. -/

@[simp] lemma getNonce_setNonce (t : Hash) (i : Nat) (w : World) (a b : Address) (n : UInt64) :
    (w.apply t i (.setNonce a n)).getNonce b = if b = a then n else w.getNonce b := by
  by_cases h : b = a <;> simp [apply, modify, setAccount, getNonce, getOrNew, h]

@[simp] lemma getNonce_setCode (t : Hash) (i : Nat) (w : World) (a b : Address) (code : Bytes)
    (hash : Hash) : (w.apply t i (.setCode a code hash)).getNonce b = w.getNonce b :=
  getNonce_modify_of (f := fun o => { o with code := code, codeHash := hash }) (fun _ => rfl) w a b

@[simp] lemma getNonce_addAddressToAccessList (t : Hash) (i : Nat) (w : World) (a b : Address) :
    (w.apply t i (.addAddressToAccessList a)).getNonce b = w.getNonce b := rfl

@[simp] lemma getNonce_createAccount (t : Hash) (i : Nat) (w : World) (a b : Address) :
    (w.apply t i (.createAccount a)).getNonce b = if b = a then 0 else w.getNonce b := by
  by_cases h : b = a <;> simp [apply, setAccount, getNonce, getOrNew, h, Account.fresh]

lemma getNonce_of_not_exist {w : World} {a : Address} (h : w.exist a = false) :
    w.getNonce a = 0 := by
  have h' : w.accounts a = none := by simpa [exist] using h
  simp [getNonce, getOrNew, h', Account.fresh]

@[simp] lemma accounts_setAccount (w : World) (a : Address) (x : Option Account) :
    (w.setAccount a x).accounts = Function.update w.accounts a x := rfl

/-- No account carries the self-destruct mark, as between transactions once `Finalise` has
dropped the marked ones. -/
def Unmarked (w : World) : Prop := ∀ a o, w.accounts a = some o → o.selfDestructed = false

lemma Unmarked.modify {w : World} (hw : w.Unmarked) (a : Address) {f : Account → Account}
    (hf : ∀ o, (f o).selfDestructed = o.selfDestructed) : (w.modify a f).Unmarked := by
  intro b o hb
  simp only [World.modify, accounts_setAccount, Function.update_apply] at hb
  split_ifs at hb with h
  · cases hb
    rw [hf, getOrNew]
    cases ha : w.accounts a with
    | none => rfl
    | some o' => exact hw a o' ha
  · exact hw b o hb

lemma Unmarked.apply {w : World} (hw : w.Unmarked) (t : Hash) (i : Nat) {m : Mutation}
    (hm : ∀ a, m ≠ .selfDestruct a) : (w.apply t i m).Unmarked := by
  cases m with
  | createAccount a =>
    intro b o hb
    simp only [World.apply, accounts_setAccount, Function.update_apply] at hb
    split_ifs at hb
    · cases hb
      rfl
    · exact hw b o hb
  | addBalance | subBalance | setBalance | setNonce | setCode | setState =>
    simp only [World.apply]
    exact hw.modify _ fun _ => rfl
  | selfDestruct a => exact absurd rfl (hm a)
  | _ => exact hw

lemma Unmarked.addBalance {w : World} (hw : w.Unmarked) (t : Hash) (i : Nat) (a : Address)
    (v : Int) : (w.apply t i (.addBalance a v)).Unmarked :=
  hw.modify a (f := fun o => { o with balance := o.balance + v }) fun _ => rfl

end World

end GoZond
