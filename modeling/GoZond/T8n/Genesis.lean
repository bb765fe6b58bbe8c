import GoZond.T8n.Execution

/-!
What `MakePreState` builds from a genesis allocation.

The allocation is a Go map, so its addresses are distinct. Under that condition the prestate
is exactly the allocation: each allocated address holds the account its entry describes, every
other address holds nothing, and nothing transaction-scoped (logs, refund, access list,
journal) is left. Each storage slot holds the last value the entry gives for it, or zero.
-/

namespace GoZond.T8n

/-- The account a genesis entry describes: its code, hashed with `keccak256Hash`, its nonce and
balance, and its storage, where a later value for a key replaces an earlier one. -/
def GenesisAccount.toAccount (keccak256Hash : Bytes → Hash) (a : GenesisAccount) : Account :=
  { Account.fresh with
    nonce := a.nonce, balance := a.balance, code := a.code, codeHash := keccak256Hash a.code,
    storage := fun k => (a.storage.reverse.lookup k).getD 0 }

lemma foldl_update_apply (l : List (Hash × Hash)) (f : Hash → Hash) (k : Hash) :
    l.foldl (fun st kv => Function.update st kv.1 kv.2) f k = (l.reverse.lookup k).getD (f k) := by
  induction l generalizing f with
  | nil => rfl
  | cons kv l ih =>
    obtain ⟨k', v⟩ := kv
    rw [List.foldl_cons, ih, List.reverse_cons, List.lookup_append]
    cases l.reverse.lookup k with
    | some _ => rfl
    | none =>
      by_cases hk : k = k'
      · subst hk
        simp
      · simp [List.lookup_cons, beq_eq_false_iff_ne.2 hk, Function.update_noteq hk]

lemma accounts_foldl_setState (addr : Address) (l : List (Hash × Hash)) (s : StateDB)
    {acc : Account} (h : s.world.accounts addr = some acc) :
    (l.foldl (fun s kv => s.apply (.setState addr kv.1 kv.2)) s).world.accounts =
      Function.update s.world.accounts addr
        (some { acc with
          storage := l.foldl (fun st kv => Function.update st kv.1 kv.2) acc.storage }) := by
  induction l generalizing s acc with
  | nil => simp [← h]
  | cons kv l ih =>
    have h' : (s.apply (.setState addr kv.1 kv.2)).world.accounts addr =
        some { acc with storage := Function.update acc.storage kv.1 kv.2 } := by
      simp [World.apply, World.modify, World.setAccount, World.getOrNew, h]
    rw [List.foldl_cons, ih _ h']
    simp [World.apply, World.modify, World.setAccount]

lemma accounts_allocAccount (keccak256Hash : Bytes → Hash) (s : StateDB)
    (entry : Address × GenesisAccount) (h : s.world.accounts entry.1 = none) :
    (allocAccount keccak256Hash s entry).world.accounts =
      Function.update s.world.accounts entry.1 (some (entry.2.toAccount keccak256Hash)) := by
  obtain ⟨addr, a⟩ := entry
  have h₀ : (((s.apply (.setCode addr a.code (keccak256Hash a.code))).apply
      (.setNonce addr a.nonce)).apply (.setBalance addr a.balance)).world.accounts addr =
      some { Account.fresh with
        code := a.code, codeHash := keccak256Hash a.code, nonce := a.nonce,
        balance := a.balance } := by
    simp [World.apply, World.modify, World.setAccount, World.getOrNew, h]
  have hst : a.storage.foldl (fun st kv => Function.update st kv.1 kv.2) Account.fresh.storage =
      fun k => (a.storage.reverse.lookup k).getD 0 := funext fun k => foldl_update_apply _ _ _
  simp only [allocAccount]
  rw [accounts_foldl_setState _ _ _ h₀]
  simp only [StateDB.world_apply, World.apply, World.modify, World.setAccount,
    Function.update_idem, GenesisAccount.toAccount, hst]

lemma accounts_foldl_allocAccount (keccak256Hash : Bytes → Hash) (alloc : GenesisAlloc)
    (hnd : (alloc.map Prod.fst).Nodup) (s : StateDB) (hs : ∀ x ∈ alloc, s.world.accounts x.1 = none)
    (b : Address) :
    (alloc.foldl (allocAccount keccak256Hash) s).world.accounts b =
      ((alloc.lookup b).map (GenesisAccount.toAccount keccak256Hash)).or (s.world.accounts b) := by
  induction alloc generalizing s with
  | nil => simp
  | cons x l ih =>
    obtain ⟨addr, a⟩ := x
    simp only [List.map_cons, List.nodup_cons] at hnd
    have hfresh := accounts_allocAccount keccak256Hash s (addr, a) (hs _ (List.mem_cons_self _ _))
    have hne : ∀ y ∈ l, y.1 ≠ addr := fun y hy he => hnd.1 (he ▸ List.mem_map_of_mem _ hy)
    rw [List.foldl_cons, ih hnd.2 _ fun y hy => by
      rw [hfresh, Function.update_noteq (hne y hy)]
      exact hs y (List.mem_cons_of_mem _ hy)]
    rw [hfresh]
    by_cases hb : b = addr
    · subst hb
      have : l.lookup b = none :=
        List.lookup_eq_none_iff.2 fun p hp => bne_iff_ne.2 (hne p hp).symm
      simp [this]
    · simp [List.lookup_cons, beq_eq_false_iff_ne.2 hb, Function.update_noteq hb]

lemma accounts_finalise_false (s : StateDB) (b : Address)
    (h : ∀ o, s.world.accounts b = some o → o.selfDestructed = false) :
    (s.finalise false).world.accounts b = s.world.accounts b := by
  simp only [StateDB.finalise]
  split <;> simp_all

/-- **`MakePreState` builds exactly the allocation.** When the allocation's addresses are
distinct, as a Go map's are, the prestate holds at each allocated address the account its entry
describes (code and its hash, nonce, balance, and each storage slot at the last value given for
it, zero otherwise), nothing at any other address, and no logs, refund, access list or
journal. -/
theorem makePreState_eq_alloc (keccak256Hash : Bytes → Hash) (alloc : GenesisAlloc)
    (h : (alloc.map Prod.fst).Nodup) :
    makePreState keccak256Hash alloc =
      ⟨{ World.empty with
          accounts := fun b => (alloc.lookup b).map (GenesisAccount.toAccount keccak256Hash) },
        [], 0, 0⟩ := by
  have hfold := accounts_foldl_allocAccount keccak256Hash alloc h StateDB.empty (fun _ _ => rfl)
  simp only [makePreState, commitAndReopen, StateDB.mk.injEq, World.mk.injEq, and_true]
  funext b
  rw [accounts_finalise_false _ b fun o ho => ?_, hfold]
  · simp [StateDB.empty, World.empty]
  · rw [hfold] at ho
    simp only [StateDB.empty, World.empty, Option.or_none] at ho
    obtain ⟨a, -, rfl⟩ := Option.map_eq_some'.1 ho
    rfl

/-- Two accounts: `0x01` with 100 and no code, `0x02` with code `0x00`, nonce 1 and slot 5 set
to 7. -/
def sampleAlloc : GenesisAlloc :=
  [(1, ⟨[], [], 100, 0⟩), (2, ⟨[0], [(5, 7)], 0, 1⟩)]

/-- The prestate of the two accounts is the two accounts. -/
theorem makePreState_sampleAlloc :
    (sampleAlloc.map Prod.fst).Nodup ∧
      makePreState (fun _ => 0) sampleAlloc =
        ⟨{ World.empty with
            accounts := fun b => (sampleAlloc.lookup b).map (GenesisAccount.toAccount fun _ => 0) },
          [], 0, 0⟩ :=
  ⟨by decide, makePreState_eq_alloc (fun _ => 0) sampleAlloc (by decide)⟩

end GoZond.T8n
