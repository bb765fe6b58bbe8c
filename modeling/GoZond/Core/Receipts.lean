import GoZond.Core.Types

/-!
The bookkeeping both block processors share: one receipt per processed transaction, in order,
each receipt's cumulative gas the sum of the gas used by it and the receipts before it, and the
running `uint64` total kept exact by the block's gas pool.
-/

namespace GoZond

/-- The receipt both processors build once a message is applied: its type, status, cumulative
gas, hash, gas used, the address a creation made and the logs, and the bloom of those logs. The
fields the two processors fill in differently (block hash and number, index) are left unset. -/
def newReceipt (digests : Digests) (crypto : Crypto) (origin : Address) (tx : Transaction)
    (msg : Message) (result : ExecutionResult) (cumulativeGasUsed : UInt64) (logs : List Log) :
    Receipt :=
  let receipt : Receipt :=
    { type := tx.type, postState := [], status := result.status, cumulativeGasUsed,
      bloom := 0, logs, txHash := digests.txHash tx,
      contractAddress := if msg.toAddr.isNone then crypto.createAddress origin tx.nonce else 0,
      gasUsed := result.usedGas, blockHash := 0, blockNumber := none, transactionIndex := 0 }
  { receipt with bloom := digests.createBloom [receipt] }

section newReceipt

variable (digests : Digests) (crypto : Crypto) (origin : Address) (tx : Transaction)
  (msg : Message) (result : ExecutionResult) (cumulativeGasUsed : UInt64) (logs : List Log)

@[simp] lemma txHash_newReceipt :
    (newReceipt digests crypto origin tx msg result cumulativeGasUsed logs).txHash =
      digests.txHash tx := rfl

@[simp] lemma gasUsed_newReceipt :
    (newReceipt digests crypto origin tx msg result cumulativeGasUsed logs).gasUsed =
      result.usedGas := rfl

@[simp] lemma cumulativeGasUsed_newReceipt :
    (newReceipt digests crypto origin tx msg result cumulativeGasUsed logs).cumulativeGasUsed =
      cumulativeGasUsed := rfl

@[simp] lemma logs_newReceipt :
    (newReceipt digests crypto origin tx msg result cumulativeGasUsed logs).logs = logs := rfl

end newReceipt

/-- The gas the receipts used, summed without bound. -/
def gasSum (rs : List Receipt) : Nat := (rs.map fun r => r.gasUsed.toNat).sum

@[simp] lemma gasSum_nil : gasSum [] = 0 := rfl

@[simp] lemma gasSum_append (rs rs' : List Receipt) :
    gasSum (rs ++ rs') = gasSum rs + gasSum rs' := by
  simp [gasSum]

@[simp] lemma gasSum_singleton (r : Receipt) : gasSum [r] = r.gasUsed.toNat := by
  simp [gasSum]

/-- Each receipt's cumulative gas is the gas used by it and every receipt before it. -/
def Cumulative (rs : List Receipt) : Prop :=
  ∀ k (hk : k < rs.length), rs[k].cumulativeGasUsed.toNat = gasSum (rs.take (k + 1))

lemma cumulative_nil : Cumulative [] := fun _ hk => absurd hk (Nat.not_lt_zero _)

lemma Cumulative.snoc {rs : List Receipt} (h : Cumulative rs) {r : Receipt}
    (hr : r.cumulativeGasUsed.toNat = gasSum rs + r.gasUsed.toNat) : Cumulative (rs ++ [r]) := by
  intro k hk
  rw [List.length_append, List.length_singleton] at hk
  rcases Nat.lt_or_ge k rs.length with hlt | hge
  · rw [List.getElem_append_left hlt, List.take_append_of_le_length hlt, h k hlt]
  · obtain rfl : k = rs.length := by omega
    simp [hr, List.take_of_length_le]

lemma gasSum_take_le (rs : List Receipt) (n : Nat) : gasSum (rs.take n) ≤ gasSum rs := by
  conv_rhs => rw [← List.take_append_drop n rs]
  rw [gasSum_append]
  exact Nat.le_add_right _ _

lemma Cumulative.le_gasSum {rs : List Receipt} (h : Cumulative rs) {r : Receipt} (hr : r ∈ rs) :
    r.cumulativeGasUsed.toNat ≤ gasSum rs := by
  obtain ⟨k, hk, rfl⟩ := List.getElem_of_mem hr
  rw [h k hk]
  exact gasSum_take_le rs (k + 1)

/-- Receipt `k` belongs to transaction `k`: it carries its hash and the index `k`. -/
def MatchTxs (txHash : Transaction → Hash) (txs : List Transaction) (rs : List Receipt) : Prop :=
  rs.length = txs.length ∧
    ∀ k (hk : k < rs.length), some rs[k].txHash = txs[k]?.map txHash ∧ rs[k].transactionIndex = k

lemma matchTxs_nil (txHash : Transaction → Hash) : MatchTxs txHash [] [] :=
  ⟨rfl, fun _ hk => absurd hk (Nat.not_lt_zero _)⟩

lemma MatchTxs.snoc {txHash : Transaction → Hash} {txs : List Transaction} {rs : List Receipt}
    (h : MatchTxs txHash txs rs) {tx : Transaction} {r : Receipt} (hh : r.txHash = txHash tx)
    (hi : r.transactionIndex = rs.length) : MatchTxs txHash (txs ++ [tx]) (rs ++ [r]) := by
  refine ⟨by simp [h.1], fun k hk => ?_⟩
  rw [List.length_append, List.length_singleton] at hk
  rcases Nat.lt_or_ge k rs.length with hlt | hge
  · rw [List.getElem_append_left hlt, List.getElem?_append_left (h.1 ▸ hlt)]
    exact h.2 k hlt
  · obtain rfl : k = rs.length := by omega
    simp [hh, hi, h.1]

lemma usedGas_add {gl pool pool' used u : UInt64} (hpool : pool.toNat + used.toNat = gl.toNat)
    (hmsg : pool'.toNat + u.toNat = pool.toNat) :
    (used + u).toNat = used.toNat + u.toNat ∧ pool'.toNat + (used + u).toNat = gl.toNat := by
  have := UInt64.toNat_lt gl
  rw [u64_toNat_add (by omega)]
  omega

/-- The gas bookkeeping of a processor whose pool started at `gasLimit`: the receipts are
cumulative, the running total `used` is their sum, and the pool has lost exactly the total. -/
structure GasBook (gasLimit : UInt64) (rs : List Receipt) (used pool : UInt64) : Prop where
  cumulative : Cumulative rs
  used_eq : used.toNat = gasSum rs
  pool_eq : pool.toNat + used.toNat = gasLimit.toNat

namespace GasBook

variable {gasLimit : UInt64} {rs : List Receipt} {used pool : UInt64}

lemma init (gasLimit : UInt64) : GasBook gasLimit [] 0 gasLimit :=
  ⟨cumulative_nil, rfl, by simp⟩

lemma snoc (h : GasBook gasLimit rs used pool) {r : Receipt} {used' pool' : UInt64}
    (hc : r.cumulativeGasUsed = used') (hu : used' = used + r.gasUsed)
    (hp : pool'.toNat + r.gasUsed.toNat = pool.toNat) :
    GasBook gasLimit (rs ++ [r]) used' pool' := by
  obtain ⟨hadd, hpool⟩ := usedGas_add h.pool_eq hp
  have hsum : used'.toNat = gasSum rs + r.gasUsed.toNat := by rw [hu, hadd, h.used_eq]
  exact ⟨h.cumulative.snoc (by rw [hc, hsum]), by rw [gasSum_append, gasSum_singleton, hsum],
    hu ▸ hpool⟩

lemma le (h : GasBook gasLimit rs used pool) : used.toNat ≤ gasLimit.toNat := by
  have := h.pool_eq
  omega

lemma cumulative_le (h : GasBook gasLimit rs used pool) {r : Receipt} (hr : r ∈ rs) :
    r.cumulativeGasUsed.toNat ≤ gasLimit.toNat :=
  (h.cumulative.le_gasSum hr).trans (h.used_eq ▸ h.le)

end GasBook

end GoZond
