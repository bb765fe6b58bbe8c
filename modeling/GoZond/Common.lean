import Mathlib

/-!
The vocabulary the execution engine is written in: addresses, hashes and byte strings as the Go
code has them, the constants of `params` that the modelled functions read, and the arithmetic of
`uint64` that the gas accounting relies on.

Go's `uint64` is Lean's `UInt64`, so a sum that the code computes with `+=` wraps at `2 ^ 64`
exactly as in Go; the lemmas at the end say when it does not.
-/

namespace GoZond

/-- Modelled from the spec: `common.Address`: twenty bytes. -/
abbrev Address := BitVec 160

/-- Modelled from the spec: `common.Hash`: thirty-two bytes. -/
abbrev Hash := BitVec 256

/-- A Go `[]byte`. -/
abbrev Bytes := List UInt8

/-- Modelled from the spec: `params.CallCreateDepth`, the fixed maximum nesting of calls and
creations (§4.4). `params/protocol_params.go` is not in src; the value is go-ethereum's. -/
def callCreateDepth : Nat := 1024

/-- Modelled from the spec: `params.MaxCodeSize`, the largest code a creation may deploy, at
go-ethereum's value. -/
def maxCodeSize : Nat := 24576

/-- Modelled from the spec: `params.CreateDataGas`, the gas charged per byte of deployed code, at
go-ethereum's value. -/
def createDataGas : UInt64 := 200

/-- `params.GPlanck` (src/params/denomination.go). -/
def gPlanck : Int := 1000000000

/-- Modelled from the spec: `types.EmptyCodeHash`: the Keccak-256 hash of empty code. -/
def emptyCodeHash : Hash :=
  BitVec.ofNat 256 0xc5d2460186f7233c927e7db2dcc703c0e500b653ca82273b7bfad8045d85a470

/-! ### `uint64` arithmetic -/

lemma u64_le_iff {a b : UInt64} : a ≤ b ↔ a.toNat ≤ b.toNat := Iff.rfl

lemma u64_lt_iff {a b : UInt64} : a < b ↔ a.toNat < b.toNat := Iff.rfl

lemma u64_toNat_add {a b : UInt64} (h : a.toNat + b.toNat < 2 ^ 64) :
    (a + b).toNat = a.toNat + b.toNat :=
  Nat.mod_eq_of_lt h

lemma u64_zero_le (a : UInt64) : 0 ≤ a := Nat.zero_le _

lemma u64_le_of_not_lt {a b : UInt64} (h : ¬ a < b) : b ≤ a := u64_le_iff.2 (Nat.le_of_not_lt h)

lemma u64_sub_le {a b : UInt64} (h : b ≤ a) : a - b ≤ a := by
  rw [u64_le_iff, UInt64.toNat_sub_of_le _ _ h]
  exact Nat.sub_le _ _

lemma u64_toNat_succ {n : UInt64} (h : ¬ n + 1 < n) : (n + 1).toNat = n.toNat + 1 := by
  have hn := UInt64.toNat_lt n
  have h1 : (n + 1).toNat = (n.toNat + 1) % 2 ^ 64 := rfl
  rw [u64_lt_iff, h1] at h
  rw [h1]
  rcases Nat.lt_or_ge (n.toNat + 1) (2 ^ 64) with hlt | hge
  · exact Nat.mod_eq_of_lt hlt
  · have : n.toNat + 1 = 2 ^ 64 := by omega
    rw [this, Nat.mod_self] at h
    omega

lemma u64_lt_add_one {n : UInt64} (h : ¬ n + 1 < n) : n < n + 1 :=
  u64_lt_iff.2 (by rw [u64_toNat_succ h]; omega)

end GoZond
