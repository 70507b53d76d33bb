import AmxBackend.Memory

/-!
# `AmxBackend.Simd` — the vector instructions of the weight packer

A register is modelled as its bytes (`Vec`), least significant first. Each intrinsic the packer
uses is written as the byte of its result at every byte index: which byte of which operand it
copies, or which lanes it combines.

* **Data movement** (`unpackloEpi32`, `unpackhiEpi32`, `shufflePs`, `permute2f128Si256`) only
  select bytes, so they are generic in the element type. `transpose8x8Epi32` is
  `transpose_8x8_32bit` as written in ggml-amx-impl.c. Its correctness `transpose8x8Epi32_apply`
  (output register `r`, 32-bit lane `l` is input register `l`, lane `r`) is proved once for all
  inputs: every intrinsic commutes with a relabelling of the elements (`*_map`), so the network
  applied to any input is the network applied to the input's *positions*, relabelled; on
  positions it is a closed computation, checked by `decide`.
* **Byte arithmetic** (`srliEpi16`, `slliEpi16`, masks, `bytesFromNibbles32`, `packNibbles`) works
  on 16-bit lanes as the hardware does. `bytesFromNibbles32_apply` and `packNibbles_apply` bring
  them to per-byte form; the latter needs the nibble invariant (`< 16`) of its second operand,
  since a 16-bit shift carries the high nibble of a lane's low byte into its high byte.
-/

namespace AmxBackend

/-- A vector register as its bytes, least significant first: `0..15` for `__m128i`, `0..31` for
    `__m256i`, `0..63` for `__m512i`. -/
abbrev Vec (α : Type) := Nat → α

variable {α β : Type}

/-! ## Data movement -/

/-- `_mm256_unpacklo_epi32`: in each 128-bit half, interleave the low two 32-bit lanes of `a`
    and `b`. -/
def unpackloEpi32 (a b : Vec α) : Vec α := fun k =>
  let d := k / 4
  let s := 4 * (4 * (d / 4) + d % 4 / 2) + k % 4
  if d % 2 = 0 then a s else b s

/-- `_mm256_unpackhi_epi32`: in each 128-bit half, interleave the high two 32-bit lanes. -/
def unpackhiEpi32 (a b : Vec α) : Vec α := fun k =>
  let d := k / 4
  let s := 4 * (4 * (d / 4) + 2 + d % 4 / 2) + k % 4
  if d % 2 = 0 then a s else b s

/-- `_mm256_shuffle_ps` (through the integer/float casts of `SHUFFLE_EPI32`, which keep the
    bits): in each half, lanes 0 and 1 from `a`, lanes 2 and 3 from `b`, each chosen by two bits
    of `imm`. -/
def shufflePs (a b : Vec α) (imm : Nat) : Vec α := fun k =>
  let d := k / 4
  let s := 4 * (4 * (d / 4) + imm / 4 ^ (d % 4) % 4) + k % 4
  if d % 4 < 2 then a s else b s

/-- `_mm256_permute2f128_si256`: each 128-bit half of the result is a half of `a` or `b`, or
    zero, chosen by four bits of `imm`. -/
def permute2f128Si256 [Zero α] (a b : Vec α) (imm : Nat) : Vec α := fun k =>
  let ctl := imm / 16 ^ (k / 16) % 16
  let s := 16 * (ctl % 2) + k % 16
  if ctl / 8 % 2 = 1 then 0 else if ctl % 4 < 2 then a s else b s

/-- `transpose_8x8_32bit(v, v1)`: the registers it leaves in `v1`. (It also overwrites `v`;
    both callers reload `v` before reading it again.) -/
def transpose8x8Epi32 [Zero α] (v : Nat → Vec α) : Nat → Vec α :=
  -- unpacking 32-bit elements
  let v1 : Nat → Vec α := fun
    | 0 => unpackloEpi32 (v 0) (v 1) | 1 => unpackhiEpi32 (v 0) (v 1)
    | 2 => unpackloEpi32 (v 2) (v 3) | 3 => unpackhiEpi32 (v 2) (v 3)
    | 4 => unpackloEpi32 (v 4) (v 5) | 5 => unpackhiEpi32 (v 4) (v 5)
    | 6 => unpackloEpi32 (v 6) (v 7) | _ => unpackhiEpi32 (v 6) (v 7)
  -- shuffling the 32-bit elements
  let w : Nat → Vec α := fun
    | 0 => shufflePs (v1 0) (v1 2) 0x44 | 1 => shufflePs (v1 0) (v1 2) 0xee
    | 2 => shufflePs (v1 4) (v1 6) 0x44 | 3 => shufflePs (v1 4) (v1 6) 0xee
    | 4 => shufflePs (v1 1) (v1 3) 0x44 | 5 => shufflePs (v1 1) (v1 3) 0xee
    | 6 => shufflePs (v1 5) (v1 7) 0x44 | _ => shufflePs (v1 5) (v1 7) 0xee
  -- shuffling 128-bit elements
  fun
    | 0 => permute2f128Si256 (w 2) (w 0) 0x02 | 1 => permute2f128Si256 (w 3) (w 1) 0x02
    | 2 => permute2f128Si256 (w 6) (w 4) 0x02 | 3 => permute2f128Si256 (w 7) (w 5) 0x02
    | 4 => permute2f128Si256 (w 2) (w 0) 0x13 | 5 => permute2f128Si256 (w 3) (w 1) 0x13
    | 6 => permute2f128Si256 (w 6) (w 4) 0x13 | _ => permute2f128Si256 (w 7) (w 5) 0x13

/-! ### Relabelling commutes with data movement -/

section Map

variable (f : α → β) (a b : Vec α) (imm k : Nat)

theorem unpackloEpi32_map : f (unpackloEpi32 a b k) = unpackloEpi32 (f ∘ a) (f ∘ b) k := by
  simp only [unpackloEpi32]; split <;> rfl

theorem unpackhiEpi32_map : f (unpackhiEpi32 a b k) = unpackhiEpi32 (f ∘ a) (f ∘ b) k := by
  simp only [unpackhiEpi32]; split <;> rfl

theorem shufflePs_map : f (shufflePs a b imm k) = shufflePs (f ∘ a) (f ∘ b) imm k := by
  simp only [shufflePs]; split <;> rfl

theorem permute2f128Si256_map [Zero α] [Zero β] (hf : f 0 = 0) :
    f (permute2f128Si256 a b imm k) = permute2f128Si256 (f ∘ a) (f ∘ b) imm k := by
  simp only [permute2f128Si256]; split
  · exact hf
  · split <;> rfl

theorem transpose8x8Epi32_map [Zero α] [Zero β] (hf : f 0 = 0) (v : Nat → Vec α) (r : Nat) :
    f (transpose8x8Epi32 v r k) = transpose8x8Epi32 (fun i => f ∘ v i) r k := by
  have hw : ∀ (x y : Vec α) (imm : Nat), f ∘ shufflePs x y imm = shufflePs (f ∘ x) (f ∘ y) imm :=
    fun x y imm => funext (shufflePs_map f x y imm)
  have hlo : ∀ x y : Vec α, f ∘ unpackloEpi32 x y = unpackloEpi32 (f ∘ x) (f ∘ y) :=
    fun x y => funext (unpackloEpi32_map f x y)
  have hhi : ∀ x y : Vec α, f ∘ unpackhiEpi32 x y = unpackhiEpi32 (f ∘ x) (f ∘ y) :=
    fun x y => funext (unpackhiEpi32_map f x y)
  unfold transpose8x8Epi32
  split <;> simp only [permute2f128Si256_map f _ _ _ _ hf, hw, hlo, hhi]

end Map

/-- Where a byte of the transpose's output comes from: a position of the input, or zero. -/
inductive Pos
  | zero
  | at (reg byte : Nat)
  deriving DecidableEq

instance : Zero Pos := ⟨.zero⟩

/-- The transpose applied to the input's positions: output register `r`, lane `l` comes from
    input register `l`, lane `r`. A closed computation over the 8 × 32 output bytes. -/
theorem transpose8x8Epi32_positions :
    ∀ r < 8, ∀ k < 32, transpose8x8Epi32 (fun i j => Pos.at i j) r k = .at (k / 4) (4 * r + k % 4) := by
  decide

/-- **`transpose_8x8_32bit` transposes.** For every input, byte `t` of 32-bit lane `l` of output
    register `r` is byte `t` of lane `r` of input register `l`. -/
theorem transpose8x8Epi32_apply [Zero α] (v : Nat → Vec α) {r k : Nat} (hr : r < 8) (hk : k < 32) :
    transpose8x8Epi32 v r k = v (k / 4) (4 * r + k % 4) := by
  let f : Pos → α := fun | .zero => 0 | .at i j => v i j
  have h := transpose8x8Epi32_map f k rfl (fun i j => Pos.at i j) r
  rw [transpose8x8Epi32_positions r hr k hk] at h
  exact h.symm

/-! ## Byte arithmetic -/

/-- The 16-bit lane that holds byte `k`, as a number. -/
def lane16 (a : Vec Byte) (k : Nat) : Nat :=
  (a (k / 2 * 2)).toNat + 256 * (a (k / 2 * 2 + 1)).toNat

/-- `_mm_srli_epi16`: shift each 16-bit lane right by `n`. -/
def srliEpi16 (a : Vec Byte) (n : Nat) : Vec Byte := fun k =>
  leByte (if n ≤ 15 then lane16 a k >>> n else 0) (k % 2)

/-- `_mm512_slli_epi16`: shift each 16-bit lane left by `n`; bits shifted past 16 are lost. -/
def slliEpi16 (a : Vec Byte) (n : Nat) : Vec Byte := fun k =>
  leByte (if n ≤ 15 then lane16 a k <<< n else 0) (k % 2)

/-- `_mm256_set1_epi8` / `_mm512_set1_epi8`. -/
def set1Epi8 (x : Byte) : Vec Byte := fun _ => x

/-- `_mm256_and_si256`. -/
def andSi (a b : Vec Byte) : Vec Byte := fun k => a k &&& b k

/-- `_mm512_or_si512`. -/
def orSi (a b : Vec Byte) : Vec Byte := fun k => a k ||| b k

/-- `MM256_SET_M128I(hi, lo)`: `lo` in the low 128 bits, `hi` in the high 128 bits. -/
def mm256SetM128i (hi lo : Vec Byte) : Vec Byte := fun k => if k < 16 then lo k else hi (k - 16)

/-- An unaligned load (`_mm_loadu_si128`, `_mm256_loadu_si256`, `_mm512_loadu_si512`) of the
    array `p` at offset `o`. -/
def loadu (p : Nat → Byte) (o : Nat) : Vec Byte := fun k => p (o + k)

/-- `bytes_from_nibbles_32`: the low nibbles of the 16 bytes at `rsi`, then their high
    nibbles, one per byte. -/
def bytesFromNibbles32 (rsi : Nat → Byte) : Vec Byte :=
  let tmp := loadu rsi 0
  let bytes := mm256SetM128i (srliEpi16 tmp 4) tmp
  andSi (set1Epi8 0xF) bytes

/-- `packNibbles`: `r0 | (r1 << 4)`, the shift taken over 16-bit lanes. -/
def packNibbles (r0 r1 : Vec Byte) : Vec Byte := orSi r0 (slliEpi16 r1 4)

theorem toNat_and_0xF (x : Byte) : (x &&& 0xF).toNat = x.toNat % 16 := by
  rw [BitVec.toNat_and, show (0xF : Byte).toNat = 2 ^ 4 - 1 from rfl, Nat.and_pow_two_sub_one_eq_mod]

theorem toNat_ushiftRight_4 (x : Byte) : (x >>> 4).toNat = x.toNat / 16 := by
  rw [BitVec.toNat_ushiftRight, Nat.shiftRight_eq_div_pow]

theorem toNat_shiftLeft_4 (x : Byte) : (x <<< 4).toNat = x.toNat * 16 % 256 := by
  rw [BitVec.toNat_shiftLeft, Nat.shiftLeft_eq]

theorem toNat_leByte (x i : Nat) : (leByte x i).toNat = x / 256 ^ i % 256 := by
  simp [leByte]

/-- Byte `2w + b` (`b < 2`) of a vector is byte `b` of its 16-bit lane `w`. -/
theorem exists_lane (j : Nat) : ∃ w b, b < 2 ∧ j = 2 * w + b :=
  ⟨j / 2, j % 2, Nat.mod_lt _ (by omega), by omega⟩

theorem lane16_apply (a : Vec Byte) {w b : Nat} (hb : b < 2) :
    lane16 a (2 * w + b) = (a (2 * w)).toNat + 256 * (a (2 * w + 1)).toNat := by
  simp only [lane16, show (2 * w + b) / 2 * 2 = 2 * w by omega]

/-- A right shift by 4 of a lane, masked to a nibble, is the high nibble of each byte. -/
theorem srliEpi16_4_and_0xF (a : Vec Byte) (j : Nat) : (0xF : Byte) &&& srliEpi16 a 4 j = a j >>> 4 := by
  obtain ⟨w, b, hb, rfl⟩ := exists_lane j
  apply BitVec.eq_of_toNat_eq
  have h₀ := (a (2 * w)).isLt
  have h₁ := (a (2 * w + 1)).isLt
  rw [BitVec.and_comm, toNat_and_0xF, toNat_ushiftRight_4]
  simp only [srliEpi16, lane16_apply a hb, if_pos (show 4 ≤ 15 by omega), Nat.shiftRight_eq_div_pow,
    toNat_leByte, show (2 * w + b) % 2 = b by omega]
  rcases (by omega : b = 0 ∨ b = 1) with rfl | rfl <;>
    simp only [Nat.add_zero, Nat.reducePow, Nat.pow_zero, Nat.pow_one, Nat.div_one] at h₀ h₁ ⊢ <;> omega

/-- A left shift by 4 of a lane whose low byte is a nibble shifts each byte alone. -/
theorem slliEpi16_4 (a : Vec Byte) (j : Nat) (ha : (a (j / 2 * 2)).toNat < 16) :
    slliEpi16 a 4 j = a j <<< 4 := by
  obtain ⟨w, b, hb, rfl⟩ := exists_lane j
  apply BitVec.eq_of_toNat_eq
  rw [show (2 * w + b) / 2 * 2 = 2 * w by omega] at ha
  have h₁ := (a (2 * w + 1)).isLt
  rw [toNat_shiftLeft_4]
  simp only [slliEpi16, lane16_apply a hb, if_pos (show 4 ≤ 15 by omega), Nat.shiftLeft_eq,
    toNat_leByte, show (2 * w + b) % 2 = b by omega]
  rcases (by omega : b = 0 ∨ b = 1) with rfl | rfl <;>
    simp only [Nat.add_zero, Nat.reducePow, Nat.pow_zero, Nat.pow_one, Nat.div_one] at ha h₁ ⊢ <;> omega

/-- Every byte `bytes_from_nibbles_32` produces is a nibble. -/
theorem bytesFromNibbles32_lt (rsi : Nat → Byte) (k : Nat) : (bytesFromNibbles32 rsi k).toNat < 16 := by
  have h := toNat_and_0xF (mm256SetM128i (srliEpi16 (loadu rsi 0) 4) (loadu rsi 0) k)
  simp only [bytesFromNibbles32, andSi, set1Epi8, BitVec.and_comm (0xF : Byte)] at h ⊢
  omega

/-- **`bytes_from_nibbles_32`, per byte.** Byte `k < 16` is the low nibble of `rsi[k]`, byte
    `16 + k` the high nibble of `rsi[k]`. -/
theorem bytesFromNibbles32_apply (rsi : Nat → Byte) (k : Nat) :
    bytesFromNibbles32 rsi k = if k < 16 then rsi k &&& 0xF else rsi (k - 16) >>> 4 := by
  simp only [bytesFromNibbles32, andSi, set1Epi8, mm256SetM128i]
  split
  · simp only [loadu, Nat.zero_add, BitVec.and_comm]
  · simp only [srliEpi16_4_and_0xF, loadu, Nat.zero_add]

/-- **`packNibbles`, per byte.** When the low byte of each 16-bit lane of `r1` is a nibble, byte
    `k` is `r0[k] | (r1[k] << 4)`. -/
theorem packNibbles_apply (r0 r1 : Vec Byte) (k : Nat) (hr1 : (r1 (k / 2 * 2)).toNat < 16) :
    packNibbles r0 r1 k = r0 k ||| r1 k <<< 4 := by
  simp only [packNibbles, orSi, slliEpi16_4 r1 k hr1]

/-- The 32-bit lane `j` of a register, unsigned. -/
def lane32 (v : Vec Byte) (j : Nat) : Nat := readLE (fun t => v (4 * j + t)) 4

/-- The dot product `_mm512_dpbusd_epi32` adds to lane `j`: the four products of the lane's
    bytes of `a`, unsigned, with its bytes of `b`, signed. -/
def dpbusdDot (a b : Vec Byte) (j : Nat) : Int :=
  ((a (4 * j)).toNat : Int) * (b (4 * j)).toInt +
    ((a (4 * j + 1)).toNat : Int) * (b (4 * j + 1)).toInt +
    ((a (4 * j + 2)).toNat : Int) * (b (4 * j + 2)).toInt +
    ((a (4 * j + 3)).toNat : Int) * (b (4 * j + 3)).toInt

/-- `_mm512_dpbusd_epi32(src, a, b)`: each 32-bit lane of `src` plus its `dpbusdDot`, wrapping
    modulo 2^32. -/
def dpbusdEpi32 (src a b : Vec Byte) : Vec Byte := fun k =>
  leByte ((lane32 src (k / 4) + dpbusdDot a b (k / 4)) % 2 ^ 32).toNat (k % 4)

/-- Lane `j` of `dpbusd` is the wrapped sum. -/
theorem lane32_dpbusdEpi32 (src a b : Vec Byte) (j : Nat) :
    lane32 (dpbusdEpi32 src a b) j = ((lane32 src j + dpbusdDot a b j) % 2 ^ 32).toNat := by
  have hlt : ((lane32 src j + dpbusdDot a b j) % 2 ^ 32).toNat < 256 ^ 4 := by omega
  have hbytes : ∀ t < 4, dpbusdEpi32 src a b (4 * j + t) =
      leByte ((lane32 src j + dpbusdDot a b j) % 2 ^ 32).toNat t := fun t ht => by
    rw [dpbusdEpi32, show (4 * j + t) / 4 = j by omega, show (4 * j + t) % 4 = t by omega]
  rw [lane32, readLE_congr hbytes, readLE_leByte, Nat.mod_eq_of_lt hlt]

end AmxBackend
