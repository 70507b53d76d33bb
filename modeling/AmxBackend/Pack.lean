import AmxBackend.Ggml
import AmxBackend.Simd

/-!
# `AmxBackend.Pack` — `pack_B_*`: one packed weight tile

The three `pack_B_<type>` routines of ggml-amx-impl.c each read the 16 blocks
`B[n * KB]` (`n < 16`, one per output row) and store one packed tile at `packed_B`. They are
modelled as the writes (`Patch`) they perform relative to `packed_B`; `pack_B_q8_0`, whose
compensation pass reads back what it stored, is modelled on memory (`packBQ8_0`).

The layout theorems bring each routine's vector code to a per-byte formula:

* `tmpRows_apply` — the two loops of 32-byte stores into `int8_t tmp[8 * 64]` (and into the Q8_0
  tile) fill row `r` of 64 bytes with output register `r` of both transposes;
* `packQ4Quants_apply` — byte `64 i + 4 n + t` of a Q4 quant section is the nibble pair
  `e_n(8 i + t) | e_n(8 i + 4 + t) << 4`, where `e_n` is row `n` in ggml's element order
  (`q4Elem`);
* `q4_0Tile_apply`, `q4_1Tile_apply` — the whole tile, scales (and mins) included, and nothing
  past `ggml_amx_get_packed_size(type, 1)` bytes.
-/

namespace AmxBackend

/-! ## Loops of stores -/

section Loops

variable {c w : Nat} {o : Nat → Nat} {v : Nat → Nat → Byte} {r : Nat}

/-- A loop of `w`-byte stores at offsets `o j`: the store that covers `r` decides it. -/
theorem loop_bytesAt_of_mem {i : Nat} (hi : i < c) (hr : o i ≤ r ∧ r < o i + w)
    (hdisj : ∀ j < c, j ≠ i → r < o j ∨ o j + w ≤ r) :
    Patch.loop c (fun j => Patch.bytesAt (o j) w (v j)) r = some (v i (r - o i)) := by
  rw [Patch.loop_apply_eq hi fun j hj hji => Patch.bytesAt_of_not_mem (hdisj j hj hji)]
  exact Patch.bytesAt_of_mem hr.1 hr.2

theorem loop_bytesAt_of_not_mem (h : ∀ j < c, r < o j ∨ o j + w ≤ r) :
    Patch.loop c (fun j => Patch.bytesAt (o j) w (v j)) r = none :=
  Patch.loop_apply_none fun j hj => Patch.bytesAt_of_not_mem (h j hj)

/-- **The row stores of `pack_B`.** `_mm256_storeu_si256(p + n * 64, lo[n])` then
    `_mm256_storeu_si256(p + n * 64 + 32, hi[n])` for `n < 8` fill the first 512 bytes: byte `c`
    of row `r` is byte `c` of `lo[r]` or byte `c - 32` of `hi[r]`. -/
theorem tmpRows_apply (lo hi : Nat → Vec Byte) (hr : r < 512) :
    ((Patch.loop 8 fun n => Patch.bytesAt (n * 64) 32 (lo n)).andThen
      (Patch.loop 8 fun n => Patch.bytesAt (n * 64 + 32) 32 (hi n))) r =
      some (if r % 64 < 32 then lo (r / 64) (r % 64) else hi (r / 64) (r % 64 - 32)) := by
  split
  · rw [Patch.andThen_apply_of_none (loop_bytesAt_of_not_mem fun j _ => by omega),
      loop_bytesAt_of_mem (i := r / 64) (by omega) (by omega) fun j _ _ => by omega,
      show r - r / 64 * 64 = r % 64 by omega]
  · rw [Patch.andThen_apply_of_some (loop_bytesAt_of_mem (i := r / 64) (by omega) (by omega)
      fun j _ _ => by omega), show r - (r / 64 * 64 + 32) = r % 64 - 32 by omega]

theorem tmpRows_none (lo hi : Nat → Vec Byte) (hr : 512 ≤ r) :
    ((Patch.loop 8 fun n => Patch.bytesAt (n * 64) 32 (lo n)).andThen
      (Patch.loop 8 fun n => Patch.bytesAt (n * 64 + 32) 32 (hi n))) r = none := by
  rw [Patch.andThen_apply_of_none (loop_bytesAt_of_not_mem fun j _ => by omega),
    loop_bytesAt_of_not_mem fun j _ => by omega]

end Loops

/-! ## The packing routines -/

/-- The bytes of a block's `qs` array, as an unaligned load sees them. -/
def qsBytes {n : Nat} (qs : Fin n → Byte) : Nat → Byte := fun i =>
  if h : i < n then qs ⟨i, h⟩ else 0

/-- The quant section of `pack_B_q4_0` and `pack_B_q4_1`, which share it line for line;
    `qs n` is the `qs` array of row `n`. -/
def packQ4Quants (qs : Nat → Nat → Byte) : Patch :=
  let v2lo := transpose8x8Epi32 fun n => bytesFromNibbles32 (qs n)
  let v2hi := transpose8x8Epi32 fun n => bytesFromNibbles32 (qs (n + 8))
  -- `int8_t tmp[8 * 64]`: every byte is stored before it is loaded (`tmpRows_apply`)
  let tmp := ((Patch.loop 8 fun n => Patch.bytesAt (n * 64) 32 (v2lo n)).andThen
    (Patch.loop 8 fun n => Patch.bytesAt (n * 64 + 32) 32 (v2hi n))).run fun _ => 0
  -- `for (n = 0; n < 8; n += 2)`, with `n = 2 * i`
  Patch.loop 4 fun i => Patch.bytesAt (2 * i * 32) 64
    (packNibbles (loadu tmp (2 * i * 64)) (loadu tmp (2 * i * 64 + 64)))

/-- The tile `pack_B_q4_0` stores, from the 16 rows `row n = B[n * KB]` it reads: the quants,
    then the scales at `d0 = packed_B + TILE_N * TILE_K / 2`. -/
def q4_0Tile (row : Nat → BlockQ4_0) : Patch :=
  (packQ4Quants fun n => qsBytes (row n).qs).andThen
    (Patch.loop 16 fun n => Patch.bytesAt (256 + 2 * n) 2 (leByte (row n).d.toNat))

/-- `pack_B_q4_0(packed_B, B, KB)`. -/
def packBQ4_0 (B : Int → BlockQ4_0) (KB : Int) : Patch := q4_0Tile fun n => B (n * KB)

/-- The tile `pack_B_q4_1` stores: the quants, then `d0[n]` and `m0[n] = d0[TILE_N + n]`. -/
def q4_1Tile (row : Nat → BlockQ4_1) : Patch :=
  (packQ4Quants fun n => qsBytes (row n).qs).andThen
    (Patch.loop 16 fun n => (Patch.bytesAt (256 + 2 * n) 2 (leByte (row n).d.toNat)).andThen
      (Patch.bytesAt (288 + 2 * n) 2 (leByte (row n).m.toNat)))

/-- `pack_B_q4_1(packed_B, B, KB)`. -/
def packBQ4_1 (B : Int → BlockQ4_1) (KB : Int) : Patch := q4_1Tile fun n => B (n * KB)

/-- `vcomp` after `k` rounds of the loop of `s8s8_compensation`, over the bytes `packedB`
    of the tile. -/
def s8s8Acc (packedB : Nat → Byte) : Nat → Vec Byte
  | 0 => fun _ => 0
  | k + 1 => dpbusdEpi32 (s8s8Acc packedB k) (set1Epi8 0x80) (loadu packedB (k * 64))

/-- `s8s8_compensation(packed_B)`: store `vcomp` at `TILE_N * TILE_K + TILE_N * 2`. -/
def s8s8Compensation (packedB : Nat → Byte) : Patch :=
  Patch.bytesAt 544 64 (s8s8Acc packedB 8)

/-- The quants and scales `pack_B_q8_0` stores before its compensation pass. -/
def q8_0QuantsScales (row : Nat → BlockQ8_0) : Patch :=
  let v2lo := transpose8x8Epi32 fun n => qsBytes (row n).qs
  let v2hi := transpose8x8Epi32 fun n => qsBytes (row (n + 8)).qs
  ((Patch.loop 8 fun n => Patch.bytesAt (n * 64) 32 (v2lo n)).andThen
    (Patch.loop 8 fun n => Patch.bytesAt (n * 64 + 32) 32 (v2hi n))).andThen
    (Patch.loop 16 fun n => Patch.bytesAt (512 + 2 * n) 2 (leByte (row n).d.toNat))

/-- `pack_B_q8_0(packed_B, B, KB)` on memory: the compensation pass reads the quants back from
    `packed_B`. -/
def packBQ8_0 (m : Mem) (packedB : Int) (B : Int → BlockQ8_0) (KB : Int) : Mem :=
  let m := m.store packedB (q8_0QuantsScales fun n => B (n * KB))
  m.store packedB (s8s8Compensation fun i => m (packedB + i))

/-- `ggml_amx_get_packed_size(type, n)`: the bytes of `n` packed tiles. `n` is an `int` and the
    product a `size_t`, so a negative `n` wraps modulo 2^64. -/
def ggmlAmxGetPackedSize (type : GgmlType) (n : Int) : Nat :=
  match type with
  | .q4_0 => (n * (16 * 32 / 2 + 16 * 2) % 2 ^ 64).toNat
  | .q4_1 => (n * (16 * 32 / 2 + 2 * 16 * 2) % 2 ^ 64).toNat
  | .q8_0 => (n * (16 * 32 + 16 * 2 + 16 * 4) % 2 ^ 64).toNat
  | _ => 0

/-! ## The Q4 layout -/

/-- Element `k` of a Q4 block in ggml's order: the low nibble of `qs[k]` for `k < 16`, the high
    nibble of `qs[k - 16]` for `k ≥ 16` (`bytes_from_nibbles_32`, `bytesFromNibbles32_apply`). -/
def q4Elem (qs : Nat → Byte) (k : Nat) : Byte :=
  if k < 16 then qs k &&& 0xF else qs (k - 16) >>> 4

theorem q4Elem_lt (qs : Nat → Byte) (k : Nat) : (q4Elem qs k).toNat < 16 := by
  unfold q4Elem
  split
  · rw [toNat_and_0xF]; omega
  · rw [toNat_ushiftRight_4]; have := (qs (k - 16)).isLt; simp only [Nat.reducePow] at this; omega

theorem q4Elem_eq_bytesFromNibbles32 (qs : Nat → Byte) (k : Nat) :
    q4Elem qs k = bytesFromNibbles32 qs k :=
  (bytesFromNibbles32_apply qs k).symm

/-- **`tmp` of the Q4 routines.** Byte `c` of row `j` is element `4 j + c % 4` of row `c / 4`:
    the transposes put elements `4 j .. 4 j + 3` of row `n` in 32-bit lane `n` of row `j`. -/
theorem packQ4Tmp_apply (qs : Nat → Nat → Byte) {j c : Nat} (hj : j < 8) (hc : c < 64) :
    ((Patch.loop 8 fun n => Patch.bytesAt (n * 64) 32
        (transpose8x8Epi32 (fun n => bytesFromNibbles32 (qs n)) n)).andThen
      (Patch.loop 8 fun n => Patch.bytesAt (n * 64 + 32) 32
        (transpose8x8Epi32 (fun n => bytesFromNibbles32 (qs (n + 8))) n))).run (fun _ => 0)
        (j * 64 + c) =
      q4Elem (qs (c / 4)) (4 * j + c % 4) := by
  rw [Patch.run, tmpRows_apply _ _ (by omega), Option.getD_some, q4Elem_eq_bytesFromNibbles32,
    show (j * 64 + c) % 64 = c by omega, show (j * 64 + c) / 64 = j by omega]
  split
  · rw [transpose8x8Epi32_apply _ hj (by omega)]
  · rw [transpose8x8Epi32_apply _ hj (by omega), show (c - 32) / 4 + 8 = c / 4 by omega,
      show (c - 32) % 4 = c % 4 by omega]

/-- **The Q4 quant section.** Byte `c` of the `i`-th 64-byte store (`c = 4 n + t`) holds
    elements `8 i + t` and `8 i + 4 + t` of row `n`, as low and high nibble. -/
theorem packQ4Quants_apply (qs : Nat → Nat → Byte) {i c : Nat} (hi : i < 4) (hc : c < 64) :
    packQ4Quants qs (64 * i + c) = some (q4Elem (qs (c / 4)) (8 * i + c % 4) |||
      q4Elem (qs (c / 4)) (8 * i + 4 + c % 4) <<< 4) := by
  rw [packQ4Quants, loop_bytesAt_of_mem (i := i) hi (by omega) fun j _ _ => by omega,
    show 64 * i + c - 2 * i * 32 = c by omega]
  have hlo : ∀ c' < 64, loadu (((Patch.loop 8 fun n => Patch.bytesAt (n * 64) 32
        (transpose8x8Epi32 (fun n => bytesFromNibbles32 (qs n)) n)).andThen
      (Patch.loop 8 fun n => Patch.bytesAt (n * 64 + 32) 32
        (transpose8x8Epi32 (fun n => bytesFromNibbles32 (qs (n + 8))) n))).run (fun _ => 0))
        (2 * i * 64) c' = q4Elem (qs (c' / 4)) (8 * i + c' % 4) := fun c' hc' => by
    rw [loadu, show 2 * i * 64 + c' = (2 * i) * 64 + c' from rfl, packQ4Tmp_apply qs (by omega) hc',
      show 4 * (2 * i) = 8 * i by omega]
  have hhi : ∀ c' < 64, loadu (((Patch.loop 8 fun n => Patch.bytesAt (n * 64) 32
        (transpose8x8Epi32 (fun n => bytesFromNibbles32 (qs n)) n)).andThen
      (Patch.loop 8 fun n => Patch.bytesAt (n * 64 + 32) 32
        (transpose8x8Epi32 (fun n => bytesFromNibbles32 (qs (n + 8))) n))).run (fun _ => 0))
        (2 * i * 64 + 64) c' = q4Elem (qs (c' / 4)) (8 * i + 4 + c' % 4) := fun c' hc' => by
    rw [loadu, show 2 * i * 64 + 64 + c' = (2 * i + 1) * 64 + c' by omega,
      packQ4Tmp_apply qs (by omega) hc', show 4 * (2 * i + 1) + c' % 4 = 8 * i + 4 + c' % 4 by omega]
  rw [packNibbles_apply _ _ _ (by rw [hhi _ (by omega)]; exact q4Elem_lt _ _), hlo c hc, hhi c hc]

theorem packQ4Quants_none (qs : Nat → Nat → Byte) {r : Nat} (hr : 256 ≤ r) : packQ4Quants qs r = none :=
  loop_bytesAt_of_not_mem fun j _ => by omega

/-- The 16 two-byte stores `x[n]` at `b + 2 n` (the scale and min loops). -/
theorem halfLoop_apply (b : Nat) (x : Nat → Nat) {n i : Nat} (hn : n < 16) (hi : i < 2) :
    Patch.loop 16 (fun n => Patch.bytesAt (b + 2 * n) 2 (leByte (x n))) (b + 2 * n + i) =
      some (leByte (x n) i) := by
  rw [loop_bytesAt_of_mem (i := n) hn (by omega) fun j _ _ => by omega,
    show b + 2 * n + i - (b + 2 * n) = i by omega]

theorem halfLoop_none (b : Nat) (x : Nat → Nat) {r : Nat} (hr : r < b ∨ b + 32 ≤ r) :
    Patch.loop 16 (fun n => Patch.bytesAt (b + 2 * n) 2 (leByte (x n))) r = none :=
  loop_bytesAt_of_not_mem fun _ _ => by omega

/-! ### `pack_B_q4_0` -/

section Q4_0

variable (row : Nat → BlockQ4_0)

theorem q4_0Tile_quant {i c : Nat} (hi : i < 4) (hc : c < 64) :
    q4_0Tile row (64 * i + c) = some (q4Elem (qsBytes (row (c / 4)).qs) (8 * i + c % 4) |||
      q4Elem (qsBytes (row (c / 4)).qs) (8 * i + 4 + c % 4) <<< 4) := by
  rw [q4_0Tile, Patch.andThen_apply_of_none (halfLoop_none _ _ (by omega)),
    packQ4Quants_apply _ hi hc]

theorem q4_0Tile_scale {n i : Nat} (hn : n < 16) (hi : i < 2) :
    q4_0Tile row (256 + 2 * n + i) = some (leByte (row n).d.toNat i) :=
  Patch.andThen_apply_of_some (halfLoop_apply 256 (fun n => (row n).d.toNat) hn hi)

theorem q4_0Tile_none {r : Nat} (hr : 288 ≤ r) : q4_0Tile row r = none := by
  rw [q4_0Tile, Patch.andThen_apply_of_none (halfLoop_none _ _ (by omega)),
    packQ4Quants_none _ (by omega)]

end Q4_0

/-! ### `pack_B_q4_1` -/

section Q4_1

variable (row : Nat → BlockQ4_1)

/-- No iteration of the scale-and-min loop of `pack_B_q4_1` other than `n` stores at `r`. -/
theorem q4_1Scales_other {n r : Nat} (hn : n < 16) (hr : 256 + 2 * n ≤ r ∧ r < 258 + 2 * n ∨
      288 + 2 * n ≤ r ∧ r < 290 + 2 * n) :
    ∀ j < 16, j ≠ n → ((Patch.bytesAt (256 + 2 * j) 2 (leByte (row j).d.toNat)).andThen
      (Patch.bytesAt (288 + 2 * j) 2 (leByte (row j).m.toNat))) r = none := fun j _ hj => by
  rw [Patch.andThen_apply_of_none (Patch.bytesAt_of_not_mem (by omega)),
    Patch.bytesAt_of_not_mem (by omega)]

theorem q4_1Tile_quant {i c : Nat} (hi : i < 4) (hc : c < 64) :
    q4_1Tile row (64 * i + c) = some (q4Elem (qsBytes (row (c / 4)).qs) (8 * i + c % 4) |||
      q4Elem (qsBytes (row (c / 4)).qs) (8 * i + 4 + c % 4) <<< 4) := by
  rw [q4_1Tile, Patch.andThen_apply_of_none (Patch.loop_apply_none fun j _ => by
      rw [Patch.andThen_apply_of_none (Patch.bytesAt_of_not_mem (by omega)),
        Patch.bytesAt_of_not_mem (by omega)]),
    packQ4Quants_apply _ hi hc]

theorem q4_1Tile_scale {n i : Nat} (hn : n < 16) (hi : i < 2) :
    q4_1Tile row (256 + 2 * n + i) = some (leByte (row n).d.toNat i) := by
  rw [q4_1Tile, Patch.andThen_apply_of_some]
  rw [Patch.loop_apply_eq hn (q4_1Scales_other row hn (by omega)),
    Patch.andThen_apply_of_none (Patch.bytesAt_of_not_mem (by omega)),
    Patch.bytesAt_of_mem (by omega) (by omega), show 256 + 2 * n + i - (256 + 2 * n) = i by omega]

theorem q4_1Tile_min {n i : Nat} (hn : n < 16) (hi : i < 2) :
    q4_1Tile row (288 + 2 * n + i) = some (leByte (row n).m.toNat i) := by
  rw [q4_1Tile, Patch.andThen_apply_of_some]
  rw [Patch.loop_apply_eq hn (q4_1Scales_other row hn (by omega)),
    Patch.andThen_apply_of_some (Patch.bytesAt_of_mem (by omega) (by omega)),
    show 288 + 2 * n + i - (288 + 2 * n) = i by omega]

theorem q4_1Tile_none {r : Nat} (hr : 320 ≤ r) : q4_1Tile row r = none := by
  rw [q4_1Tile, Patch.andThen_apply_of_none (Patch.loop_apply_none fun j _ => by
      rw [Patch.andThen_apply_of_none (Patch.bytesAt_of_not_mem (by omega)),
        Patch.bytesAt_of_not_mem (by omega)]),
    packQ4Quants_none _ (by omega)]

end Q4_1

/-! ### `pack_B_q8_0` -/

section Q8_0

variable (row : Nat → BlockQ8_0)

/-- **The Q8_0 quant section.** Byte `c` of row `j` (`c = 4 n + t`) is `qs[4 j + t]` of row `n`. -/
theorem q8_0QuantsScales_quant {j c : Nat} (hj : j < 8) (hc : c < 64) :
    q8_0QuantsScales row (j * 64 + c) = some (qsBytes (row (c / 4)).qs (4 * j + c % 4)) := by
  rw [q8_0QuantsScales, Patch.andThen_apply_of_none (halfLoop_none _ _ (by omega)),
    tmpRows_apply _ _ (by omega), show (j * 64 + c) % 64 = c by omega,
    show (j * 64 + c) / 64 = j by omega]
  split
  · rw [transpose8x8Epi32_apply _ hj (by omega)]
  · rw [transpose8x8Epi32_apply _ hj (by omega), show (c - 32) / 4 + 8 = c / 4 by omega,
      show (c - 32) % 4 = c % 4 by omega]

theorem q8_0QuantsScales_scale {n i : Nat} (hn : n < 16) (hi : i < 2) :
    q8_0QuantsScales row (512 + 2 * n + i) = some (leByte (row n).d.toNat i) :=
  Patch.andThen_apply_of_some (halfLoop_apply 512 (fun n => (row n).d.toNat) hn hi)

theorem q8_0QuantsScales_none {r : Nat} (hr : 544 ≤ r) : q8_0QuantsScales row r = none := by
  rw [q8_0QuantsScales, Patch.andThen_apply_of_none (halfLoop_none _ _ (by omega)),
    tmpRows_none _ _ (by omega)]

/-- The compensation pass reads only the 512 quant bytes of the tile. -/
theorem s8s8Acc_congr {pb pb' : Nat → Byte} (h : ∀ i < 512, pb i = pb' i) :
    ∀ k ≤ 8, ∀ p < 64, s8s8Acc pb k p = s8s8Acc pb' k p
  | 0, _, _, _ => rfl
  | k + 1, hk, p, hp => by
    have ih := s8s8Acc_congr h k (by omega)
    simp only [s8s8Acc, dpbusdEpi32, dpbusdDot, lane32, loadu]
    rw [readLE_congr fun t ht => ih _ (by omega), h _ (by omega), h _ (by omega), h _ (by omega),
      h _ (by omega)]

theorem s8s8Compensation_congr {pb pb' : Nat → Byte} (h : ∀ i < 512, pb i = pb' i) :
    s8s8Compensation pb = s8s8Compensation pb' := by
  funext r
  simp only [s8s8Compensation, Patch.bytesAt]
  split
  · rw [s8s8Acc_congr h 8 le_rfl _ (by omega)]
  · rfl

/-- The tile `pack_B_q8_0` leaves at `packed_B`: its quants and scales, then the compensation
    computed from them. -/
def q8_0Tile (row : Nat → BlockQ8_0) : Patch :=
  (q8_0QuantsScales row).andThen (s8s8Compensation ((q8_0QuantsScales row).run fun _ => 0))

/-- **`pack_B_q8_0` stores one tile.** Reading the quants back from memory gives what was just
    stored, whatever `packed_B` held before. -/
theorem packBQ8_0_eq (m : Mem) (P : Int) (B : Int → BlockQ8_0) (KB : Int) :
    packBQ8_0 m P B KB = m.store P (q8_0Tile fun n => B (n * KB)) := by
  have hread : s8s8Compensation (fun i : Nat => m.store P (q8_0QuantsScales fun n => B (n * KB)) (P + i)) =
      s8s8Compensation ((q8_0QuantsScales fun n => B (n * KB)).run fun _ => 0) :=
    s8s8Compensation_congr fun i hi => by
      obtain ⟨j, c, hj, hc, rfl⟩ : ∃ j c, j < 8 ∧ c < 64 ∧ i = j * 64 + c :=
        ⟨i / 64, i % 64, by omega, by omega, by omega⟩
      rw [Patch.run, Mem.store_apply_add, q8_0QuantsScales_quant _ hj hc]
      rfl
  rw [q8_0Tile, Mem.store_andThen, ← hread]
  rfl

end Q8_0

end AmxBackend
