import GoZond.Core.Types

/-!
The fee and set functions of `types.Transaction` (`core/types/transaction.go`).

`EffectiveGasTip` is what a miner earns per unit of gas under a base fee: the tip cap, cut down
to what the fee cap leaves above the base fee. `TxDifference` and `HashDifference` are one loop
over two key types: collect the keys of `b` in a set, then keep the elements of `a` whose key is
not in it; they compute the order-preserving difference.
-/

namespace GoZond

/-- `ErrGasFeeCapTooLow`. -/
def errGasFeeCapTooLow : String := "fee cap less than base fee"

/-- `big.Int.Cmp`: `-1`, `0` or `1`. -/
def bigCmp (x y : Int) : Int := if x < y then -1 else if x = y then 0 else 1

/-- `Transaction.EffectiveGasTip`: without a base fee the tip cap; with one, the tip cap or what
the fee cap leaves above the base fee, whichever is less, and `ErrGasFeeCapTooLow` when the fee
cap is below the base fee (the value is returned then too). -/
def Transaction.effectiveGasTip (tx : Transaction) (baseFee : Option Int) : Int × Option String :=
  match baseFee with
  | none => (tx.gasTipCap, none)
  | some b =>
    (min tx.gasTipCap (tx.gasFeeCap - b),
      if bigCmp tx.gasFeeCap b = -1 then some errGasFeeCapTooLow else none)

/-- `Transaction.EffectiveGasTipValue`: the tip, the error dropped. -/
def Transaction.effectiveGasTipValue (tx : Transaction) (baseFee : Option Int) : Int :=
  (tx.effectiveGasTip baseFee).1

/-- `Transaction.EffectiveGasTipCmp`. -/
def Transaction.effectiveGasTipCmp (tx other : Transaction) (baseFee : Option Int) : Int :=
  match baseFee with
  | none => bigCmp tx.gasTipCap other.gasTipCap
  | some _ => bigCmp (tx.effectiveGasTipValue baseFee) (other.effectiveGasTipValue baseFee)

/-! ### Set difference -/

/-- The loop `TxDifference` and `HashDifference` share: put the keys of `b` in a set (a
`map[common.Hash]struct{}`), then keep, in order, the elements of `a` whose key is not in it. -/
def difference {α : Type} (key : α → Hash) (a b : List α) : List α :=
  let remove := b.foldl (fun remove x => Function.update remove (key x) true) fun _ => false
  a.foldl (fun keep x => if remove (key x) then keep else keep ++ [x]) []

/-- `TxDifference`: the transactions of `a` whose hash no transaction of `b` has. -/
def txDifference (txHash : Transaction → Hash) (a b : List Transaction) : List Transaction :=
  difference txHash a b

/-- `HashDifference`: the hashes of `a` not in `b`. -/
def hashDifference (a b : List Hash) : List Hash := difference id a b

section difference

variable {α : Type} (key : α → Hash)

lemma foldl_remove (b : List α) (remove : Hash → Bool) (k : Hash) :
    b.foldl (fun remove x => Function.update remove (key x) true) remove k =
      (remove k || decide (k ∈ b.map key)) := by
  induction b generalizing remove with
  | nil => simp
  | cons x b ih =>
    rw [List.foldl_cons, ih]
    by_cases hk : k = key x <;> simp [Function.update, hk]

lemma foldl_keep (p : α → Bool) (a keep : List α) :
    a.foldl (fun keep x => if p x then keep else keep ++ [x]) keep =
      keep ++ a.filter fun x => !p x := by
  induction a generalizing keep with
  | nil => simp
  | cons x a ih =>
    rw [List.foldl_cons, ih]
    cases h : p x <;> simp [h]

lemma difference_eq_filter (a b : List α) :
    difference key a b = a.filter fun x => decide (key x ∉ b.map key) := by
  simp only [difference, foldl_remove, foldl_keep, List.nil_append, Bool.false_or, decide_not]

end difference

/-- **`TxDifference` and `HashDifference` are set differences.** `TxDifference a b` keeps, in
their order in `a`, exactly the transactions whose hash is not the hash of a transaction of `b`,
and `HashDifference a b` the hashes of `a` not in `b`. -/
theorem differences_eq_filter (txHash : Transaction → Hash) (a b : List Transaction)
    (ha hb : List Hash) :
    txDifference txHash a b = a.filter (fun tx => decide (txHash tx ∉ b.map txHash)) ∧
    hashDifference ha hb = ha.filter (fun h => decide (h ∉ hb)) :=
  ⟨difference_eq_filter txHash a b, by simpa using difference_eq_filter id ha hb⟩

example : hashDifference [1, 2, 3, 2] [2, 5] = [1, 3] := by decide

end GoZond
