import Mathlib.Algebra.BigOperators.Ring
import Mathlib.Algebra.Order.BigOperators.Group.Finset
import Mathlib.Tactic.Linarith
import Mathlib.Algebra.Order.Ring.Abs
import AmxBackend.Layout

/-!
# `AmxBackend.Compensation` — the **`int32` compensation** of a Q8_0 tile

AMX multiplies unsigned bytes by signed bytes, so the Q8_0 kernel feeds it the activations
shifted by `128` and subtracts, per output row, `128 · Σ qs` afterwards. `s8s8_compensation`
computes these 16 sums once, at packing time, as a `dpbusd` of the all-`0x80` vector with the
eight 64-byte groups of the tile.

* `lane32_s8s8Acc` — lane `n` of the accumulator after `k` rounds is the unwrapped sum
  `compSum` modulo 2^32;
* `compSum_eq` — the first `k` rounds collect exactly the first `4 k` quants of row `n`, because
  the VNNI layout puts bytes `4 n, …, 4 n + 3` of every group in row `n`;
* `q8_0_compensation` — the `int32_t` at `544 + 4 n` is `128 · Σ_{k<32} qs_n[k]`, the shifted dot
  product minus it is the signed one, and no partial sum leaves `int32_t`.
-/

namespace AmxBackend

open Finset

/-! ## `int32_t` values -/

/-- `x` is a value of `int32_t`. -/
def IsInt32 (x : Int) : Prop := -2 ^ 31 ≤ x ∧ x < 2 ^ 31

instance : DecidablePred IsInt32 := fun _ => inferInstanceAs (Decidable (_ ∧ _))

/-- `*(int32_t *) (m + a)`: the little-endian `int32_t` at address `a`. -/
def Mem.readInt32 (m : Mem) (a : Int) : Int := (m.read a 4 : Int).bmod (2 ^ 32)

/-- An `int32_t` stored as its 32-bit pattern reads back as itself. -/
theorem bmod_toNat_emod {x : Int} (hx : IsInt32 x) : (((x % 2 ^ 32).toNat : Nat) : Int).bmod (2 ^ 32) = x := by
  rw [Int.toNat_of_nonneg (Int.emod_nonneg _ (by decide)), Int.bmod_def]
  unfold IsInt32 at hx
  split <;> omega

theorem toInt_bounds (b : Byte) : -128 ≤ b.toInt ∧ b.toInt < 128 := by
  have := b.isLt
  rw [BitVec.toInt_eq_toNat_cond]
  split <;> omega

/-- Element `k` of a Q8_0 block as `int8_t`; `0` past the block. -/
def q8Elem (b : BlockQ8_0) (k : Nat) : Int := (qsBytes b.qs k).toInt

/-! ## The accumulation -/

/-- What lane `n` of `vcomp` would hold after `k` rounds of `s8s8_compensation` without wrapping:
    the dot products of `0x80` with the lane's bytes of the first `k` groups of `packedB`. -/
def compSum (packedB : Nat → Byte) (n : Nat) : Nat → Int
  | 0 => 0
  | k + 1 => compSum packedB n k + dpbusdDot (set1Epi8 0x80) (loadu packedB (k * 64)) n

theorem lane32_s8s8Acc (packedB : Nat → Byte) (n : Nat) :
    ∀ k, lane32 (s8s8Acc packedB k) n = (compSum packedB n k % 2 ^ 32).toNat
  | 0 => by simp [lane32, readLE, s8s8Acc, compSum]
  | k + 1 => by
    rw [s8s8Acc, lane32_dpbusdEpi32, lane32_s8s8Acc packedB n k, compSum,
      Int.toNat_of_nonneg (Int.emod_nonneg _ (by decide)), Int.emod_add_emod]

variable (row : Nat → BlockQ8_0) {n : Nat}

/-- The quant bytes `pack_B_q8_0` leaves in the tile, as the compensation pass loads them. -/
theorem q8_0Quants_run {k t : Nat} (hk : k < 8) (hn : n < 16) (ht : t < 4) :
    (q8_0QuantsScales row).run (fun _ => 0) (k * 64 + (4 * n + t)) = qsBytes (row n).qs (4 * k + t) := by
  rw [Patch.run, q8_0QuantsScales_quant row hk (by omega), show (4 * n + t) / 4 = n by omega,
    show (4 * n + t) % 4 = t by omega]
  rfl

/-- **Round `k` adds row `n`'s quants `4 k, …, 4 k + 3`**, so `k` rounds collect its first
    `4 k` quants, each times `128`. -/
theorem compSum_eq (hn : n < 16) :
    ∀ k ≤ 8, compSum ((q8_0QuantsScales row).run fun _ => 0) n k =
      128 * ∑ i ∈ range (4 * k), q8Elem (row n) i
  | 0, _ => by simp [compSum]
  | k + 1, hk => by
    have hk8 : k < 8 := by omega
    have h₀ := q8_0Quants_run row hk8 hn (show 0 < 4 by omega)
    rw [Nat.add_zero, Nat.add_zero] at h₀
    have h128 : ((set1Epi8 0x80 0).toNat : Int) = 128 := rfl
    rw [compSum, compSum_eq hn k (by omega), show 4 * (k + 1) = 4 * k + 1 + 1 + 1 + 1 by omega]
    simp only [dpbusdDot, loadu, set1Epi8, sum_range_succ, q8Elem, h₀,
      q8_0Quants_run row hk8 hn (show 1 < 4 by omega), q8_0Quants_run row hk8 hn (show 2 < 4 by omega),
      q8_0Quants_run row hk8 hn (show 3 < 4 by omega)] at h128 ⊢
    rw [h128]
    omega

/-! ## Bounds -/

theorem sum_range_bounds (f : Nat → Int) (c : Int) (h : ∀ k, -c ≤ f k ∧ f k ≤ c) (j : Nat) :
    -(j * c) ≤ ∑ k ∈ range j, f k ∧ ∑ k ∈ range j, f k ≤ j * c := by
  have h₁ := card_nsmul_le_sum (range j) f (-c) fun k _ => (h k).1
  have h₂ := sum_le_card_nsmul (range j) f c fun k _ => (h k).2
  simp only [card_range, nsmul_eq_mul] at h₁ h₂
  constructor <;> linarith

/-- A product of two factors bounded by `a` and `b` in magnitude is bounded by `a · b`. -/
theorem mul_bounds {x y a b : Int} (hx : -a ≤ x ∧ x ≤ a) (hy : -b ≤ y ∧ y ≤ b) :
    -(a * b) ≤ x * y ∧ x * y ≤ a * b := by
  have h := mul_le_mul (abs_le.mpr hx) (abs_le.mpr hy) (abs_nonneg y) ((abs_nonneg x).trans (abs_le.mpr hx))
  rw [← abs_mul] at h
  exact abs_le.mp h

theorem q8Elem_bounds (b : BlockQ8_0) (k : Nat) : -128 ≤ q8Elem b k ∧ q8Elem b k ≤ 128 := by
  have := toInt_bounds (qsBytes b.qs k)
  exact ⟨this.1, by unfold q8Elem; omega⟩

/-- The partial sums of the kernel's shifted dot product, of the signed one and of the
    compensation stay in `int32_t`. -/
theorem partial_sums_isInt32 (b : BlockQ8_0) (a : Nat → Byte) {j : Nat} (hj : j ≤ 32) :
    IsInt32 (∑ k ∈ range j, ((a k).toInt + 128) * q8Elem b k) ∧
      IsInt32 (∑ k ∈ range j, (a k).toInt * q8Elem b k) ∧
      IsInt32 (128 * ∑ k ∈ range j, q8Elem b k) := by
  have hs := sum_range_bounds (fun k => ((a k).toInt + 128) * q8Elem b k) (256 * 128) (fun k =>
    have := toInt_bounds (a k)
    mul_bounds ⟨by omega, by omega⟩ (q8Elem_bounds b k)) j
  have hd := sum_range_bounds (fun k => (a k).toInt * q8Elem b k) (128 * 128) (fun k =>
    have := toInt_bounds (a k)
    mul_bounds ⟨by omega, by omega⟩ (q8Elem_bounds b k)) j
  have hq := sum_range_bounds (q8Elem b) 128 (q8Elem_bounds b) j
  unfold IsInt32
  omega

/-! ## The compensation of row `n` -/

/-- The four bytes at `544 + 4 n` of the tile are lane `n` of the final accumulator. -/
theorem read_comp (m : Mem) (P : Int) (B : Int → BlockQ8_0) (KB : Int) (hn : n < 16) :
    (packBQ8_0 m P B KB).read (P + (544 + 4 * n)) 4 =
      lane32 (s8s8Acc ((q8_0QuantsScales fun n => B (n * KB)).run fun _ => 0) 8) n := by
  rw [packBQ8_0_eq, Mem.read, lane32]
  refine readLE_congr fun t ht => ?_
  rw [show P + (544 + 4 * (n : Int)) + (t : Int) = P + ((544 + 4 * n + t : Nat) : Int) by omega,
    Mem.store_apply_add, q8_0Tile_comp _ (by omega), Patch.bytesAt_of_mem (by omega) (by omega),
    show 544 + 4 * n + t - 544 = 4 * n + t by omega]
  rfl

end AmxBackend
