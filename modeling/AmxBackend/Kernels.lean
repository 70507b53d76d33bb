import AmxBackend.Pack
import AmxBackend.TileConfig

/-!
# `AmxBackend.Kernels` — the Q4_0 × Q8_0 dot products

`ggml_vec_dot_q4_0_q8_0_amx` and `ggml_amx_gemv_q4_0_q8_0_simple` compute, per pair of blocks,
an `int32_t` sum of nibble times activation, and then a `float` sum of these scaled by the two
block scales. The `float` arithmetic is taken as given (`FloatOps`); the integer sums are
computed exactly (they stay below `2^16` in magnitude).

* `vecDotSumi` / `gemvSumi` — the two kernels' block sums, as the code writes them;
  `gemvSumi_eq_vecDotSumi` shows they agree for every pair of blocks;
* `ggmlVecDotQ4_0Q8_0Amx_eq`, `gemvRow_eq` — the `float` results are the block sums folded
  with the block scales; `gemv_eq_vec_dot` — so row `n` of the GEMV is the `vec_dot` of the
  weights with row `n` of the activations;
* `q4Dot` — the sum in ggml's Q4_0 element order, `q4Elem`, which `bytes_from_nibbles_32` feeds
  the weight packer; `vec_dot_nibble_order` evaluates both kernels where the two orders differ.
-/

namespace AmxBackend

/-- The `float` operations the kernels use: `0.0f`, `GGML_FP16_TO_FP32`, the conversion of an
    `int32_t` to `float`, and `float` addition and multiplication. -/
structure FloatOps (F : Type) where
  zero : F
  ofHalf : BitVec 16 → F
  ofInt : Int → F
  add : F → F → F
  mul : F → F → F

variable {F : Type} (fo : FloatOps F)

/-! ## `ggml_vec_dot_q4_0_q8_0_amx` -/

/-- The `int32_t` `sumi` of one block pair after `j` rounds of
    `for (j = 0; j < qk/2; j++)`: the low nibble of `x0[j]` times `y0[j*2 + 0]`, the high nibble
    times `y0[j*2 + 1]`, each nibble less `8`. -/
def vecDotSumi (x : BlockQ4_0) (y : BlockQ8_0) : Nat → Int
  | 0 => 0
  | j + 1 => vecDotSumi x y j +
      (((qsBytes x.qs j &&& 0x0F).toNat : Int) - 8) * (qsBytes y.qs (j * 2 + 0)).toInt +
      (((qsBytes x.qs j >>> 4).toNat : Int) - 8) * (qsBytes y.qs (j * 2 + 1)).toInt

/-- `sumf` after the first `i` blocks: `sumf += d * sumi` with
    `d = GGML_FP16_TO_FP32(x[i].d) * GGML_FP16_TO_FP32(y[i].d)`. -/
def vecDotSumf (x : Nat → BlockQ4_0) (y : Nat → BlockQ8_0) : Nat → F
  | 0 => fo.zero
  | i + 1 => fo.add (vecDotSumf x y i)
      (fo.mul (fo.mul (fo.ofHalf (x i).d) (fo.ofHalf (y i).d)) (fo.ofInt (vecDotSumi (x i) (y i) 16)))

/-- `ggml_vec_dot_q4_0_q8_0_amx(n, s, vx, vy)`: the value of `*s` after it, from its value `s`
    before; `none` when `assert(n % qk == 0)` fails. With AMX disabled it returns at once. -/
def ggmlVecDotQ4_0Q8_0Amx (enabled : Bool) (n : Int) (x : Nat → BlockQ4_0) (y : Nat → BlockQ8_0)
    (s : F) : Option F :=
  if !enabled then some s
  else if n.tmod 32 ≠ 0 then none
  else some (vecDotSumf fo x y (n.tdiv 32).toNat)

theorem ggmlVecDotQ4_0Q8_0Amx_eq (n : Nat) (x : Nat → BlockQ4_0) (y : Nat → BlockQ8_0) (s : F) :
    ggmlVecDotQ4_0Q8_0Amx fo true (32 * (n : Int)) x y s = some (vecDotSumf fo x y n) := by
  have h₁ : (32 * (n : Int)).tmod 32 = 0 := by
    rw [Int.tmod_eq_emod (by omega) (by omega)]; omega
  have h₂ : ((32 * (n : Int)).tdiv 32).toNat = n := by
    rw [Int.tdiv_eq_ediv (by omega) (by omega)]; omega
  simp only [ggmlVecDotQ4_0Q8_0Amx, Bool.not_true, Bool.false_eq_true, if_false, h₁, h₂, ne_eq,
    not_true_eq_false]

/-! ## `ggml_amx_gemv_q4_0_q8_0_simple` -/

/-- `x_unpacked[j]`: `x_unpacked[j*2 + 0] = (v & 0x0F) - 8`, `x_unpacked[j*2 + 1] = (v >> 4) - 8`
    for `v = x_block->qs[j]`. -/
def unpackInterleaved (x : BlockQ4_0) (j : Nat) : Int :=
  if j % 2 = 0 then ((qsBytes x.qs (j / 2) &&& 0x0F).toNat : Int) - 8
  else ((qsBytes x.qs (j / 2) >>> 4).toNat : Int) - 8

/-- `sumi` after `j` rounds of `for (j = 0; j < qk; j++) sumi += x_unpacked[j] * y_block->qs[j]`. -/
def gemvSumi (x : BlockQ4_0) (y : BlockQ8_0) : Nat → Int
  | 0 => 0
  | j + 1 => gemvSumi x y j + unpackInterleaved x j * (qsBytes y.qs j).toInt

/-- `sum` for output `n` after the first `i` blocks, against `y[n * nb + i]`. -/
def gemvRow (x : Nat → BlockQ4_0) (y : Nat → BlockQ8_0) (nb n : Nat) : Nat → F
  | 0 => fo.zero
  | i + 1 => fo.add (gemvRow x y nb n i)
      (fo.mul (fo.mul (fo.ofHalf (x i).d) (fo.ofHalf (y (n * nb + i)).d))
        (fo.ofInt (gemvSumi (x i) (y (n * nb + i)) 32)))

/-- `ggml_amx_gemv_q4_0_q8_0_simple(K, N, vx, vy, dst)`: `dst` and the thread's tile state after
    it. With AMX enabled it runs its tile prologue and epilogue (`TileConfig`) around the loop
    `for (n = 0; n < N; n++) dst[n] = sum`. -/
def ggmlAmxGemvQ4_0Q8_0Simple (enabled : Bool) (K N : Int) (x : Nat → BlockQ4_0)
    (y : Nat → BlockQ8_0) (dst : Nat → F) (s : TileThread) : (Nat → F) × TileThread × List InitReturn :=
  let nb := (K.tdiv 32).toNat
  if !enabled then (dst, s, [])
  else
    (fun n => if n < N then gemvRow fo x y nb n nb else dst n, ggmlAmxGemvQ4_0Q8_0SimpleTiles true s)

/-- The two kernels pair nibbles with activations the same way. -/
theorem gemvSumi_eq_vecDotSumi (x : BlockQ4_0) (y : BlockQ8_0) :
    ∀ j, gemvSumi x y (2 * j) = vecDotSumi x y j
  | 0 => rfl
  | j + 1 => by
    have h₀ : unpackInterleaved x (2 * j) = ((qsBytes x.qs j &&& 0x0F).toNat : Int) - 8 := by
      rw [unpackInterleaved, if_pos (by omega), show 2 * j / 2 = j by omega]
    have h₁ : unpackInterleaved x (2 * j + 1) = ((qsBytes x.qs j >>> 4).toNat : Int) - 8 := by
      rw [unpackInterleaved, if_neg (by omega), show (2 * j + 1) / 2 = j by omega]
    rw [show 2 * (j + 1) = 2 * j + 1 + 1 by omega, gemvSumi, gemvSumi, gemvSumi_eq_vecDotSumi x y j,
      vecDotSumi, h₀, h₁]
    simp only [Nat.add_zero, Nat.mul_comm j 2]
    rfl

/-- With AMX enabled, `dst[n]` for `n < N` is the row sum of its `K / 32` blocks. -/
theorem gemvRow_eq (K : Nat) (N : Int) (x : Nat → BlockQ4_0) (y : Nat → BlockQ8_0)
    (dst : Nat → F) (s : TileThread) {n : Nat} (hn : n < N) :
    (ggmlAmxGemvQ4_0Q8_0Simple fo true K N x y dst s).1 n = gemvRow fo x y (K / 32) n (K / 32) := by
  have hK : ((K : Int).tdiv 32).toNat = K / 32 := by
    rw [Int.tdiv_eq_ediv (by omega) (by omega)]; omega
  simp only [ggmlAmxGemvQ4_0Q8_0Simple, hK, Bool.not_true, Bool.false_eq_true, if_false, if_pos hn]

/-- Row `n` of the GEMV is the `vec_dot` fold against row `n` of the activations. -/
theorem gemvRow_eq_vecDotSumf (x : Nat → BlockQ4_0) (y : Nat → BlockQ8_0) (nb n : Nat) :
    ∀ i, gemvRow fo x y nb n i = vecDotSumf fo x (fun i => y (n * nb + i)) i
  | 0 => rfl
  | i + 1 => by
    rw [gemvRow, vecDotSumf, gemvRow_eq_vecDotSumf x y nb n i, ← gemvSumi_eq_vecDotSumi]

/-- Integer arithmetic in place of `float`. -/
def FloatOps.exactInt : FloatOps Int := ⟨0, fun h => h.toInt, id, (· + ·), (· * ·)⟩

/-- `Σ_{k<32} w_k · y.qs[k]` with `w_k` element `k` of `x` in ggml's Q4_0 order (low nibbles
    `0..15`, high nibbles `16..31`), less `8`. -/
def q4Dot (x : BlockQ4_0) (y : BlockQ8_0) : Nat → Int
  | 0 => 0
  | k + 1 => q4Dot x y k + (((q4Elem (qsBytes x.qs) k).toNat : Int) - 8) * (qsBytes y.qs k).toInt

/-- **The kernels pair a byte's two nibbles with adjacent activations.** For `n = 32`, scales
    `1.0` and the blocks below (`x.qs[1] = 0x89`, every other byte `0x88`; `y.qs[1] = 1`, every
    other quant `0`), element `1` of `x` in Q4_0 order is `1` and meets `y.qs[1] = 1`, so
    `q4Dot` is `1`; both kernels pair the low nibble of `qs[1]` with `y.qs[2] = 0` and compute
    the block sum `0`, whatever the `float` operations. -/
theorem vec_dot_nibble_order (s : F) (dst : Nat → F) :
    let x : BlockQ4_0 := ⟨0x3C00, fun j => if j = 1 then 0x89 else 0x88⟩
    let y : BlockQ8_0 := ⟨0x3C00, fun k => if k = 1 then 1 else 0⟩
    q4Dot x y 32 = 1 ∧ vecDotSumi x y 16 = 0 ∧
      ggmlVecDotQ4_0Q8_0Amx fo true 32 (fun _ => x) (fun _ => y) s =
        some (fo.add fo.zero (fo.mul (fo.mul (fo.ofHalf 0x3C00) (fo.ofHalf 0x3C00)) (fo.ofInt 0))) ∧
      (ggmlAmxGemvQ4_0Q8_0Simple fo true 32 1 (fun _ => x) (fun _ => y) dst .init).1 0 =
        fo.add fo.zero (fo.mul (fo.mul (fo.ofHalf 0x3C00) (fo.ofHalf 0x3C00)) (fo.ofInt 0)) := by
  intro x y
  have hsumi : vecDotSumi x y 16 = 0 := by decide
  refine ⟨by decide, hsumi, ?_, ?_⟩
  · rw [show (32 : Int) = 32 * ((1 : Nat) : Int) by rfl, ggmlVecDotQ4_0Q8_0Amx_eq]
    simp only [vecDotSumf, hsumi]
  · rw [show (32 : Int) = ((32 : Nat) : Int) by rfl, gemvRow_eq fo 32 1 _ _ dst .init (by decide)]
    simp only [gemvRow, show (32 : Nat) / 32 = 1 by rfl, Nat.zero_mul, Nat.zero_add,
      show gemvSumi x y 32 = vecDotSumi x y 16 from gemvSumi_eq_vecDotSumi x y 16, hsumi]

end AmxBackend
