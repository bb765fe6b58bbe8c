import GoZond.State.World

/-!
The StateDB's journal, modelled from the spec (§4.2): every write records the value it
overwrites, `Snapshot` names the current length of the journal, and `RevertToSnapshot` undoes
the entries recorded since, newest first, and drops them.

The journal is a stack with the newest entry at its head. The revision id that geth keeps in
`validRevisions` is the journal length it stands for.
-/

namespace GoZond

/-- Modelled from the spec: what a write overwrote. -/
inductive JournalEntry
  | account (a : Address) (prev : Option Account)
  | log
  | refund (prev : UInt64)
  | accessAddr (a : Address) (prev : Bool)
  | accessSlot (a : Address) (prevAddr : Bool) (prevSlots : Hash → Bool)

namespace JournalEntry

/-- Modelled from the spec: put back what the entry recorded. -/
def undo (w : World) : JournalEntry → World
  | .account a prev => w.setAccount a prev
  | .log => { w with logs := w.logs.dropLast }
  | .refund prev => { w with refund := prev }
  | .accessAddr a prev => { w with accessAddrs := Function.update w.accessAddrs a prev }
  | .accessSlot a prevAddr prevSlots =>
    { w with accessAddrs := Function.update w.accessAddrs a prevAddr,
             accessSlots := Function.update w.accessSlots a prevSlots }

/-- Modelled from the spec: the address whose account the entry records, if it records one. -/
def dirty : JournalEntry → Option Address
  | .account a _ => some a
  | _ => none

lemma foldl_undo_accounts {a : Address} (l : List JournalEntry) (w : World)
    (ha : a ∉ l.filterMap dirty) : (l.foldl undo w).accounts a = w.accounts a := by
  induction l generalizing w with
  | nil => rfl
  | cons e l ih =>
    cases e with
    | account b prev =>
      simp only [List.filterMap_cons, dirty, List.mem_cons, not_or] at ha
      rw [List.foldl_cons, ih _ ha.2]
      exact Function.update_noteq ha.1 _ _
    | _ => exact ih _ ha

end JournalEntry

namespace World

/-- Modelled from the spec: the entry a write appends: the part of `w` it is about to overwrite. -/
def entry (w : World) : Mutation → JournalEntry
  | .createAccount a | .addBalance a _ | .subBalance a _ | .setBalance a _ | .setNonce a _
  | .setCode a _ _ | .setState a _ _ | .selfDestruct a => .account a (w.accounts a)
  | .addRefund _ | .subRefund _ => .refund w.refund
  | .addLog _ => .log
  | .addAddressToAccessList a => .accessAddr a (w.accessAddrs a)
  | .addSlotToAccessList a _ => .accessSlot a (w.accessAddrs a) (w.accessSlots a)

lemma setAccount_accounts (w : World) (a : Address) : w.setAccount a (w.accounts a) = w := by
  simp [setAccount, Function.update_eq_self]

lemma setAccount_self (w : World) (a : Address) (x : Option Account) :
    (w.setAccount a x).setAccount a (w.accounts a) = w := by
  simp [setAccount, Function.update_idem, Function.update_eq_self]

/-- **Undo.** The entry a write records undoes that write. -/
lemma undo_entry_apply (thash : Hash) (i : Nat) (w : World) (m : Mutation) :
    (w.entry m).undo (w.apply thash i m) = w := by
  cases m <;> simp only [entry, apply, JournalEntry.undo, modify, setAccount_self]
  case selfDestruct a =>
    cases h : w.accounts a with
    | none => simpa [h] using w.setAccount_accounts a
    | some o =>
      simpa [h] using w.setAccount_self a (some { o with selfDestructed := true, balance := 0 })
  all_goals simp [Function.update_idem, Function.update_eq_self]

end World

/-- Modelled from the spec: the world with no accounts, logs, refund or access list. -/
def World.empty : World := ⟨fun _ => none, [], 0, fun _ => false, fun _ _ => false⟩

/-- Modelled from the spec: the StateDB: the world, its journal, and the transaction context set by
`SetTxContext`. -/
structure StateDB where
  world : World
  journal : List JournalEntry
  thash : Hash
  txIndex : Nat

namespace StateDB

/-- Modelled from the spec: a StateDB over the empty world. -/
def empty : StateDB := ⟨World.empty, [], 0, 0⟩

variable (s : StateDB)

/-- Modelled from the spec: `StateDB.Snapshot`: the revision id of the current journal length. -/
def snapshot : Nat := s.journal.length

/-- Modelled from the spec: `StateDB.RevertToSnapshot`: undo, newest first, the entries recorded
after `revid`. -/
def revertToSnapshot (revid : Nat) : StateDB :=
  let k := s.journal.length - revid
  { s with world := (s.journal.take k).foldl JournalEntry.undo s.world,
           journal := s.journal.drop k }

/-- Modelled from the spec: a write through the `StateDB` interface: applied, and journaled. -/
def apply (m : Mutation) : StateDB :=
  { s with world := s.world.apply s.thash s.txIndex m, journal := s.world.entry m :: s.journal }

/-- Modelled from the spec: `StateDB.SetTxContext`. -/
def setTxContext (thash : Hash) (ti : Nat) : StateDB := { s with thash := thash, txIndex := ti }

/-- Modelled from the spec: `StateDB.GetLogs`: the logs of one transaction, stamped with the block
they belong to. -/
def getLogs (hash : Hash) (blockNumber : UInt64) (blockHash : Hash) : List Log :=
  (s.world.logs.filter fun l => l.txHash = hash).map
    fun l => { l with blockNumber := blockNumber, blockHash := blockHash }

/-- Modelled from the spec: `StateDB.Finalise`: drop the self-destructed accounts, and with
`deleteEmptyObjects` the empty ones, among those the journal touched; then clear the journal and
the refund. -/
def finalise (deleteEmptyObjects : Bool) : StateDB :=
  let dirties := s.journal.filterMap JournalEntry.dirty
  { s with
    world := { s.world with
      accounts := fun a =>
        match s.world.accounts a with
        | some o => if a ∈ dirties ∧ (o.selfDestructed ∨ (deleteEmptyObjects ∧ o.empty))
                    then none else some o
        | none => none
      refund := 0 }
    journal := [] }

lemma accounts_finalise (d : Bool) (a : Address) :
    (s.finalise d).world.accounts a = s.world.accounts a ∨
      ∃ o, s.world.accounts a = some o ∧ (o.selfDestructed ∨ o.empty) ∧
        (s.finalise d).world.accounts a = none := by
  simp only [finalise]
  split
  · rename_i o ho
    split_ifs with h
    · exact .inr ⟨o, ho, h.2.imp id And.right, rfl⟩
    · exact .inl ho.symm
  · exact .inl ‹_ = none›.symm

lemma getBalance_finalise (hw : s.world.Unmarked) (d : Bool) (b : Address) :
    (s.finalise d).world.getBalance b = s.world.getBalance b := by
  rcases s.accounts_finalise d b with h | ⟨o, ho, hm, h⟩
  · simp only [World.getBalance, World.getOrNew, h]
  · have he : o.empty := hm.resolve_left (by simp [hw b o ho])
    simp only [World.getBalance, World.getOrNew, h, ho, Option.getD_none, Option.getD_some, he.2.1]
    rfl

lemma getNonce_finalise (hw : s.world.Unmarked) (d : Bool) (b : Address) :
    (s.finalise d).world.getNonce b = s.world.getNonce b := by
  rcases s.accounts_finalise d b with h | ⟨o, ho, hm, h⟩
  · simp only [World.getNonce, World.getOrNew, h]
  · have he : o.empty := hm.resolve_left (by simp [hw b o ho])
    simp only [World.getNonce, World.getOrNew, h, ho, Option.getD_none, Option.getD_some, he.1]
    rfl

@[simp] lemma world_apply (m : Mutation) :
    (s.apply m).world = s.world.apply s.thash s.txIndex m := rfl

@[simp] lemma snapshot_apply (m : Mutation) : (s.apply m).snapshot = s.snapshot + 1 := by
  simp [apply, snapshot]

@[simp] lemma txIndex_apply (m : Mutation) : (s.apply m).txIndex = s.txIndex := rfl

@[simp] lemma world_setTxContext (h : Hash) (i : Nat) : (s.setTxContext h i).world = s.world := rfl

@[simp] lemma txIndex_setTxContext (h : Hash) (i : Nat) : (s.setTxContext h i).txIndex = i := rfl

@[simp] lemma txIndex_finalise (d : Bool) : (s.finalise d).txIndex = s.txIndex := rfl

@[simp] lemma txIndex_revertToSnapshot (n : Nat) : (s.revertToSnapshot n).txIndex = s.txIndex :=
  rfl

lemma snapshot_revertToSnapshot (n : Nat) :
    (s.revertToSnapshot n).snapshot = min n s.snapshot := by
  simp only [revertToSnapshot, snapshot, List.length_drop]
  omega

@[simp] lemma revertToSnapshot_snapshot : s.revertToSnapshot s.snapshot = s := by
  simp [revertToSnapshot, snapshot]

lemma revertToSnapshot_revertToSnapshot {n m : Nat} (h : n ≤ m) :
    (s.revertToSnapshot m).revertToSnapshot n = s.revertToSnapshot n := by
  have hk : s.journal.length - m + (s.journal.length - (s.journal.length - m) - n) =
      s.journal.length - n := by omega
  simp only [revertToSnapshot, List.length_drop, ← List.foldl_append, ← List.take_add,
    List.drop_drop, hk]

lemma revertToSnapshot_apply {n : Nat} (m : Mutation) (h : n ≤ s.snapshot) :
    (s.apply m).revertToSnapshot n = s.revertToSnapshot n := by
  have hk : (s.journal.length + 1 - n) = (s.journal.length - n) + 1 := by
    unfold snapshot at h; omega
  simp only [revertToSnapshot, apply, List.length_cons, hk, List.take_succ_cons,
    List.foldl_cons, World.undo_entry_apply, List.drop_succ_cons]

end StateDB

end GoZond
