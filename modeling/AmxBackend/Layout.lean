import Mathlib.Logic.Function.Basic
import AmxBackend.Pack

/-!
# `AmxBackend.Layout` — a packed tile is its 16 blocks, rearranged

`Pack` gives each byte of a packed tile as a formula in the 16 source rows. Here each formula
is read backwards: `unpackQ4Qs` recovers a Q4 row's `qs` from the quant bytes, `halfAt` a scale
or min from its two bytes, `unpackQ8Qs` a Q8_0 row's `qs`. With these inverses,
`q4_0Tile_bijective`, `q4_1Tile_bijective` and `q8_0Tile_bijective` show that each routine maps
its 16 blocks one-to-one onto the quant, scale and min bytes of the tile; `pack_B_layout`
collects the per-byte formulas, the exact extent of each write and the three bijections.
-/

namespace AmxBackend

/-! ## Nibbles and halves -/

set_option maxRecDepth 2000 in
theorem nibble_recompose_fin :
    ∀ x : Fin 256, (BitVec.ofNat 8 x &&& (0xF : Byte)) ||| (BitVec.ofNat 8 x >>> 4) <<< 4 =
      BitVec.ofNat 8 x := by
  decide

/-- A byte is its low nibble with its high nibble above it. -/
theorem nibble_recompose (x : Byte) : (x &&& (0xF : Byte)) ||| (x >>> 4) <<< 4 = x := by
  simpa using nibble_recompose_fin ⟨x.toNat, x.isLt⟩

theorem nibble_pair_fin : ∀ a b : Fin 16,
    (BitVec.ofNat 8 a ||| BitVec.ofNat 8 b <<< 4) &&& (0xF : Byte) = BitVec.ofNat 8 a ∧
      (BitVec.ofNat 8 a ||| BitVec.ofNat 8 b <<< 4) >>> 4 = BitVec.ofNat 8 b := by
  decide

/-- The two nibbles of a nibble pair. -/
theorem nibble_pair {a b : Byte} (ha : a.toNat < 16) (hb : b.toNat < 16) :
    (a ||| b <<< 4) &&& (0xF : Byte) = a ∧ (a ||| b <<< 4) >>> 4 = b := by
  simpa using nibble_pair_fin ⟨a.toNat, ha⟩ ⟨b.toNat, hb⟩

theorem halfAt_congr {bs bs' : Nat → Byte} (h : ∀ i < 2, bs i = bs' i) : halfAt bs = halfAt bs' := by
  rw [halfAt, halfAt, readLE_congr h]

theorem halfAt_leByte (d : BitVec 16) : halfAt (leByte d.toNat) = d := by
  apply BitVec.eq_of_toNat_eq
  simp [halfAt, readLE_leByte, Nat.mod_eq_of_lt d.isLt]

/-- A scale or min read back from the two bytes its write stored. -/
theorem halfAt_of_bytes {bs : Nat → Byte} {d : BitVec 16} (h : ∀ i < 2, bs i = leByte d.toNat i) :
    halfAt bs = d := by
  rw [halfAt_congr h, halfAt_leByte]

theorem leByte_halfAt (bs : Nat → Byte) {i : Nat} (hi : i < 2) : leByte (halfAt bs).toNat i = bs i := by
  rw [halfAt, BitVec.toNat_ofNat, Nat.mod_eq_of_lt (by simpa using readLE_lt bs 2),
    leByte_readLE bs hi]

/-! ## Rows and tiles as finite families -/

/-- The 16 rows of a tile as `pack_B` indexes them. -/
def rowsOf {α : Type} (rows : Fin 16 → α) (n : Nat) : α := rows ⟨n % 16, Nat.mod_lt _ (by decide)⟩

theorem rowsOf_apply {α : Type} (rows : Fin 16 → α) {n : Nat} (hn : n < 16) :
    rowsOf rows n = rows ⟨n, hn⟩ := by
  simp [rowsOf, Nat.mod_eq_of_lt hn]

/-- The first `s` bytes of a tile, `0` past them. -/
def tileByte {s : Nat} (p : Fin s → Byte) (r : Nat) : Byte := if h : r < s then p ⟨r, h⟩ else 0

/-! ## The Q4 quant section, read backwards -/

/-- Element `m` of row `n`, read from the quant bytes `p` of a Q4 tile: element `8 i + s` is the
    low nibble of byte `64 i + 4 n + s` for `s < 4`, the high nibble of byte
    `64 i + 4 n + s - 4` for `s ≥ 4`. -/
def unpackQ4Elem (p : Nat → Byte) (n m : Nat) : Byte :=
  if m % 8 < 4 then p (64 * (m / 8) + 4 * n + m % 8) &&& 0xF
  else p (64 * (m / 8) + 4 * n + m % 8 - 4) >>> 4

/-- Row `n`'s `qs`, recovered from the quant bytes `p`. -/
def unpackQ4Qs (p : Nat → Byte) (n : Nat) (k : Fin 16) : Byte :=
  unpackQ4Elem p n k ||| unpackQ4Elem p n (k + 16) <<< 4

/-- The 256 quant bytes `p` are those `packQ4Quants_apply` gives for the rows `qs`. -/
def Q4Quants (p : Nat → Byte) (qs : Nat → Nat → Byte) : Prop :=
  ∀ i < 4, ∀ c < 64, p (64 * i + c) =
    q4Elem (qs (c / 4)) (8 * i + c % 4) ||| q4Elem (qs (c / 4)) (8 * i + 4 + c % 4) <<< 4

variable {p : Nat → Byte} {n m : Nat}

theorem unpackQ4Elem_lt : (unpackQ4Elem p n m).toNat < 16 := by
  unfold unpackQ4Elem
  split
  · rw [toNat_and_0xF]; omega
  · rw [toNat_ushiftRight_4]
    have := (p (64 * (m / 8) + 4 * n + m % 8 - 4)).isLt
    simp only [Nat.reducePow] at this; omega

theorem unpackQ4Elem_of_quants {qs : Nat → Nat → Byte} (hp : Q4Quants p qs) (hn : n < 16)
    (hm : m < 32) : unpackQ4Elem p n m = q4Elem (qs n) m := by
  unfold unpackQ4Elem
  split
  · rw [show 64 * (m / 8) + 4 * n + m % 8 = 64 * (m / 8) + (4 * n + m % 8) by omega,
      hp _ (by omega) _ (by omega), show (4 * n + m % 8) / 4 = n by omega,
      show 8 * (m / 8) + (4 * n + m % 8) % 4 = m by omega,
      (nibble_pair (q4Elem_lt _ _) (q4Elem_lt _ _)).1]
  · rw [show 64 * (m / 8) + 4 * n + m % 8 - 4 = 64 * (m / 8) + (4 * n + (m % 8 - 4)) by omega,
      hp _ (by omega) _ (by omega), show (4 * n + (m % 8 - 4)) / 4 = n by omega,
      show 8 * (m / 8) + 4 + (4 * n + (m % 8 - 4)) % 4 = m by omega,
      (nibble_pair (q4Elem_lt _ _) (q4Elem_lt _ _)).2]

/-- The quant bytes of a tile give back each row's `qs`. -/
theorem unpackQ4Qs_of_quants {qs : Nat → Fin 16 → Byte} (hp : Q4Quants p fun n => qsBytes (qs n))
    (hn : n < 16) : unpackQ4Qs p n = qs n := by
  funext k
  rw [unpackQ4Qs, unpackQ4Elem_of_quants hp hn (by omega), unpackQ4Elem_of_quants hp hn (by omega)]
  simp only [q4Elem, qsBytes, k.isLt, dif_pos, if_pos, show ¬(k.val + 16 < 16) by omega, if_false,
    Nat.add_sub_cancel, Fin.eta, nibble_recompose]

/-- Re-packing the recovered rows gives the quant bytes back. -/
theorem q4Quants_unpack (p : Nat → Byte) : Q4Quants p fun n => qsBytes (unpackQ4Qs p n) := by
  have hElem : ∀ n m, m < 32 → q4Elem (qsBytes (unpackQ4Qs p n)) m = unpackQ4Elem p n m :=
    fun n m hm => by
      unfold q4Elem
      split
      · simp only [qsBytes, dif_pos ‹m < 16›, unpackQ4Qs]
        exact (nibble_pair unpackQ4Elem_lt unpackQ4Elem_lt).1
      · simp only [qsBytes, dif_pos (show m - 16 < 16 by omega), unpackQ4Qs,
          show m - 16 + 16 = m by omega]
        exact (nibble_pair unpackQ4Elem_lt unpackQ4Elem_lt).2
  intro i hi c hc
  rw [hElem _ _ (by omega), hElem _ _ (by omega), unpackQ4Elem, unpackQ4Elem,
    if_pos (by omega), if_neg (by omega), show (8 * i + c % 4) / 8 = i by omega,
    show (8 * i + 4 + c % 4) / 8 = i by omega, show (8 * i + c % 4) % 8 = c % 4 by omega,
    show (8 * i + 4 + c % 4) % 8 = 4 + c % 4 by omega,
    show 64 * i + 4 * (c / 4) + c % 4 = 64 * i + c by omega,
    show 64 * i + 4 * (c / 4) + (4 + c % 4) - 4 = 64 * i + c by omega, nibble_recompose]

/-! ## The three tiles -/

/-- Every offset of a tile is a quant byte (column `c` of the `i`-th 64-byte row of the `s`
    quant rows), a byte of one of the 16 halves that follow them at `b = 64 s`, or past those. -/
theorem offset_cases (s b : Nat) (hb : 64 * s = b) (r : Nat) :
    (∃ i c, i < s ∧ c < 64 ∧ r = 64 * i + c) ∨ (∃ n i, n < 16 ∧ i < 2 ∧ r = b + 2 * n + i) ∨
      b + 32 ≤ r := by
  by_cases h₁ : r < b
  · exact .inl ⟨r / 64, r % 64, by omega, by omega, by omega⟩
  by_cases h₂ : r < b + 32
  · exact .inr (.inl ⟨(r - b) / 2, (r - b) % 2, by omega, by omega, by omega⟩)
  · exact .inr (.inr (by omega))

/-- The halves of the second 32-byte group, after the first at `b`. -/
theorem half_cases (b r : Nat) (h : b + 32 ≤ r) :
    (∃ n i, n < 16 ∧ i < 2 ∧ r = b + 32 + 2 * n + i) ∨ b + 64 ≤ r := by
  by_cases h₂ : r < b + 64
  · exact .inl ⟨(r - b - 32) / 2, (r - b - 32) % 2, by omega, by omega, by omega⟩
  · exact .inr (by omega)

section Q4_0

/-- The 288 bytes of the Q4_0 tile of 16 blocks. -/
def q4_0TileBytes (rows : Fin 16 → BlockQ4_0) (r : Fin 288) : Byte := (q4_0Tile (rowsOf rows) r).getD 0

/-- The 16 blocks a Q4_0 tile holds. -/
def q4_0Untile (p : Fin 288 → Byte) (n : Fin 16) : BlockQ4_0 where
  d := halfAt fun i => tileByte p (256 + 2 * n + i)
  qs := unpackQ4Qs (tileByte p) n

/-- `pack_B_q4_0` reads rows `0, …, 15` only. -/
theorem q4_0Tile_congr {row row' : Nat → BlockQ4_0} (h : ∀ n < 16, row n = row' n) :
    q4_0Tile row = q4_0Tile row' := by
  funext r
  rcases offset_cases 4 256 rfl r with ⟨i, c, hi, hc, rfl⟩ | ⟨n, i, hn, hi, rfl⟩ | hr
  · rw [q4_0Tile_quant _ hi hc, q4_0Tile_quant _ hi hc, h _ (by omega)]
  · rw [q4_0Tile_scale _ hn hi, q4_0Tile_scale _ hn hi, h n hn]
  · rw [q4_0Tile_none _ hr, q4_0Tile_none _ hr]

theorem q4_0Tile_isSome (row : Nat → BlockQ4_0) (r : Nat) : (q4_0Tile row r).isSome ↔ r < 288 := by
  rcases offset_cases 4 256 rfl r with ⟨i, c, hi, hc, rfl⟩ | ⟨n, i, hn, hi, rfl⟩ | hr
  · simp [q4_0Tile_quant row hi hc]; omega
  · simp [q4_0Tile_scale row hn hi]; omega
  · simp [q4_0Tile_none row hr]; omega

/-- **`pack_B_q4_0` is one-to-one and onto.** -/
theorem q4_0Tile_bijective : Function.Bijective q4_0TileBytes := by
  refine Function.bijective_iff_has_inverse.mpr ⟨q4_0Untile, fun rows => ?_, fun p => ?_⟩
  · have hq : Q4Quants (tileByte (q4_0TileBytes rows)) fun n => qsBytes (rowsOf rows n).qs :=
      fun i hi c hc => by
        rw [tileByte, dif_pos (by omega), q4_0TileBytes, q4_0Tile_quant _ hi hc]; rfl
    funext n
    ext : 1
    · refine halfAt_of_bytes fun i hi => ?_
      rw [tileByte, dif_pos (by omega), q4_0TileBytes, q4_0Tile_scale _ n.isLt hi, rowsOf_apply _ n.isLt]
      rfl
    · rw [q4_0Untile, unpackQ4Qs_of_quants hq n.isLt, rowsOf_apply _ n.isLt]
  · funext ⟨r, hr⟩
    rcases offset_cases 4 256 rfl r with ⟨i, c, hi, hc, rfl⟩ | ⟨n, i, hn, hi, rfl⟩ | hr'
    · rw [q4_0TileBytes, q4_0Tile_quant _ hi hc, rowsOf_apply _ (by omega)]
      exact ((q4Quants_unpack (tileByte p)) i hi c hc).symm.trans (dif_pos hr)
    · rw [q4_0TileBytes, q4_0Tile_scale _ hn hi, rowsOf_apply _ hn]
      exact (leByte_halfAt _ hi).trans (dif_pos hr)
    · omega

end Q4_0

section Q4_1

/-- The 320 bytes of the Q4_1 tile of 16 blocks. -/
def q4_1TileBytes (rows : Fin 16 → BlockQ4_1) (r : Fin 320) : Byte := (q4_1Tile (rowsOf rows) r).getD 0

/-- The 16 blocks a Q4_1 tile holds. -/
def q4_1Untile (p : Fin 320 → Byte) (n : Fin 16) : BlockQ4_1 where
  d := halfAt fun i => tileByte p (256 + 2 * n + i)
  m := halfAt fun i => tileByte p (288 + 2 * n + i)
  qs := unpackQ4Qs (tileByte p) n

/-- `pack_B_q4_1` reads rows `0, …, 15` only. -/
theorem q4_1Tile_congr {row row' : Nat → BlockQ4_1} (h : ∀ n < 16, row n = row' n) :
    q4_1Tile row = q4_1Tile row' := by
  funext r
  rcases offset_cases 4 256 rfl r with ⟨i, c, hi, hc, rfl⟩ | ⟨n, i, hn, hi, rfl⟩ | hr
  · rw [q4_1Tile_quant _ hi hc, q4_1Tile_quant _ hi hc, h _ (by omega)]
  · rw [q4_1Tile_scale _ hn hi, q4_1Tile_scale _ hn hi, h n hn]
  rcases half_cases 256 r hr with ⟨n, i, hn, hi, rfl⟩ | hr
  · rw [q4_1Tile_min _ hn hi, q4_1Tile_min _ hn hi, h n hn]
  · rw [q4_1Tile_none _ hr, q4_1Tile_none _ hr]

theorem q4_1Tile_isSome (row : Nat → BlockQ4_1) (r : Nat) : (q4_1Tile row r).isSome ↔ r < 320 := by
  rcases offset_cases 4 256 rfl r with ⟨i, c, hi, hc, rfl⟩ | ⟨n, i, hn, hi, rfl⟩ | hr
  · simp [q4_1Tile_quant row hi hc]; omega
  · simp [q4_1Tile_scale row hn hi]; omega
  rcases half_cases 256 r hr with ⟨n, i, hn, hi, rfl⟩ | hr
  · simp [q4_1Tile_min row hn hi]; omega
  · simp [q4_1Tile_none row hr]; omega

/-- **`pack_B_q4_1` is one-to-one and onto.** -/
theorem q4_1Tile_bijective : Function.Bijective q4_1TileBytes := by
  refine Function.bijective_iff_has_inverse.mpr ⟨q4_1Untile, fun rows => ?_, fun p => ?_⟩
  · have hq : Q4Quants (tileByte (q4_1TileBytes rows)) fun n => qsBytes (rowsOf rows n).qs :=
      fun i hi c hc => by
        rw [tileByte, dif_pos (by omega), q4_1TileBytes, q4_1Tile_quant _ hi hc]; rfl
    funext n
    ext : 1
    · refine halfAt_of_bytes fun i hi => ?_
      rw [tileByte, dif_pos (by omega), q4_1TileBytes, q4_1Tile_scale _ n.isLt hi, rowsOf_apply _ n.isLt]
      rfl
    · refine halfAt_of_bytes fun i hi => ?_
      rw [tileByte, dif_pos (by omega), q4_1TileBytes, q4_1Tile_min _ n.isLt hi, rowsOf_apply _ n.isLt]
      rfl
    · rw [q4_1Untile, unpackQ4Qs_of_quants hq n.isLt, rowsOf_apply _ n.isLt]
  · funext ⟨r, hr⟩
    rcases offset_cases 4 256 rfl r with ⟨i, c, hi, hc, rfl⟩ | ⟨n, i, hn, hi, rfl⟩ | hr'
    · rw [q4_1TileBytes, q4_1Tile_quant _ hi hc, rowsOf_apply _ (by omega)]
      exact ((q4Quants_unpack (tileByte p)) i hi c hc).symm.trans (dif_pos hr)
    · rw [q4_1TileBytes, q4_1Tile_scale _ hn hi, rowsOf_apply _ hn]
      exact (leByte_halfAt _ hi).trans (dif_pos hr)
    rcases half_cases 256 r hr' with ⟨n, i, hn, hi, rfl⟩ | hr'
    · rw [q4_1TileBytes, q4_1Tile_min _ hn hi, rowsOf_apply _ hn]
      exact (leByte_halfAt _ hi).trans (dif_pos hr)
    · omega

end Q4_1

section Q8_0

/-- Row `n`'s `qs`, read from the quant bytes of a Q8_0 tile: `qs[k]` is byte
    `64 (k / 4) + 4 n + k % 4`. -/
def unpackQ8Qs (p : Nat → Byte) (n : Nat) (k : Fin 32) : Byte := p (64 * (k / 4) + 4 * n + k % 4)

/-- The 544 quant and scale bytes of the Q8_0 tile of 16 blocks. -/
def q8_0TileBytes (rows : Fin 16 → BlockQ8_0) (r : Fin 544) : Byte := (q8_0Tile (rowsOf rows) r).getD 0

/-- The 16 blocks a Q8_0 tile holds. -/
def q8_0Untile (p : Fin 544 → Byte) (n : Fin 16) : BlockQ8_0 where
  d := halfAt fun i => tileByte p (512 + 2 * n + i)
  qs := unpackQ8Qs (tileByte p) n

theorem q8_0Tile_of_lt (row : Nat → BlockQ8_0) {r : Nat} (hr : r < 544) :
    q8_0Tile row r = q8_0QuantsScales row r :=
  Patch.andThen_apply_of_none (Patch.bytesAt_of_not_mem (Or.inl hr))

theorem q8_0Tile_quant (row : Nat → BlockQ8_0) {j c : Nat} (hj : j < 8) (hc : c < 64) :
    q8_0Tile row (64 * j + c) = some (qsBytes (row (c / 4)).qs (4 * j + c % 4)) := by
  rw [q8_0Tile_of_lt row (by omega), Nat.mul_comm, q8_0QuantsScales_quant row hj hc]

theorem q8_0Tile_scale (row : Nat → BlockQ8_0) {n i : Nat} (hn : n < 16) (hi : i < 2) :
    q8_0Tile row (512 + 2 * n + i) = some (leByte (row n).d.toNat i) := by
  rw [q8_0Tile_of_lt row (by omega), q8_0QuantsScales_scale row hn hi]

theorem q8_0Tile_comp (row : Nat → BlockQ8_0) {r : Nat} (h₁ : 544 ≤ r) :
    q8_0Tile row r = Patch.bytesAt 544 64
      (s8s8Acc ((q8_0QuantsScales row).run fun _ => 0) 8) r := by
  rw [q8_0Tile, s8s8Compensation]
  cases h : Patch.bytesAt 544 64 (s8s8Acc ((q8_0QuantsScales row).run fun _ => 0) 8) r with
  | some b => exact Patch.andThen_apply_of_some h
  | none => rw [Patch.andThen_apply_of_none h, q8_0QuantsScales_none row h₁]

/-- `q8_0QuantsScales` reads rows `0, …, 15` only. -/
theorem q8_0QuantsScales_congr {row row' : Nat → BlockQ8_0} (h : ∀ n < 16, row n = row' n) :
    q8_0QuantsScales row = q8_0QuantsScales row' := by
  funext r
  rcases offset_cases 8 512 rfl r with ⟨j, c, hj, hc, rfl⟩ | ⟨n, i, hn, hi, rfl⟩ | hr
  · rw [Nat.mul_comm, q8_0QuantsScales_quant _ hj hc, q8_0QuantsScales_quant _ hj hc, h _ (by omega)]
  · rw [q8_0QuantsScales_scale _ hn hi, q8_0QuantsScales_scale _ hn hi, h n hn]
  · rw [q8_0QuantsScales_none _ hr, q8_0QuantsScales_none _ hr]

/-- `pack_B_q8_0` reads rows `0, …, 15` only. -/
theorem q8_0Tile_congr {row row' : Nat → BlockQ8_0} (h : ∀ n < 16, row n = row' n) :
    q8_0Tile row = q8_0Tile row' := by
  rw [q8_0Tile, q8_0Tile, q8_0QuantsScales_congr h]

theorem q8_0Tile_isSome (row : Nat → BlockQ8_0) (r : Nat) : (q8_0Tile row r).isSome ↔ r < 608 := by
  rcases offset_cases 8 512 rfl r with ⟨j, c, hj, hc, rfl⟩ | ⟨n, i, hn, hi, rfl⟩ | hr
  · simp [q8_0Tile_quant row hj hc]; omega
  · simp [q8_0Tile_scale row hn hi]; omega
  · rw [q8_0Tile_comp row hr, Patch.bytesAt]
    split <;> simp <;> omega

/-- **`pack_B_q8_0` is one-to-one and onto its quants and scales.** -/
theorem q8_0Tile_bijective : Function.Bijective q8_0TileBytes := by
  refine Function.bijective_iff_has_inverse.mpr ⟨q8_0Untile, fun rows => ?_, fun p => ?_⟩
  · funext n
    ext : 1
    · refine halfAt_of_bytes fun i hi => ?_
      rw [tileByte, dif_pos (by omega), q8_0TileBytes, q8_0Tile_scale _ n.isLt hi, rowsOf_apply _ n.isLt]
      rfl
    · funext k
      show tileByte _ (64 * (k / 4) + 4 * n + k % 4) = _
      rw [tileByte, dif_pos (by omega), q8_0TileBytes, Fin.val_mk,
        show 64 * (k.val / 4) + 4 * n + k % 4 = 64 * (k / 4) + (4 * n + k % 4) by omega,
        q8_0Tile_quant _ (by omega) (by omega), show (4 * n.val + k % 4) / 4 = n by omega,
        show 4 * (k.val / 4) + (4 * n + k % 4) % 4 = k by omega, rowsOf_apply _ n.isLt]
      simp [qsBytes]
  · funext ⟨r, hr⟩
    rcases offset_cases 8 512 rfl r with ⟨j, c, hj, hc, rfl⟩ | ⟨n, i, hn, hi, rfl⟩ | hr'
    · rw [q8_0TileBytes, q8_0Tile_quant _ hj hc, rowsOf_apply _ (by omega)]
      simp only [Option.getD_some, qsBytes, q8_0Untile, unpackQ8Qs, tileByte,
        dif_pos (show 4 * j + c % 4 < 32 by omega), show (4 * j + c % 4) / 4 = j by omega,
        show (4 * j + c % 4) % 4 = c % 4 by omega, show 64 * j + 4 * (c / 4) + c % 4 = 64 * j + c by omega,
        dif_pos hr]
    · rw [q8_0TileBytes, q8_0Tile_scale _ hn hi, rowsOf_apply _ hn]
      exact (leByte_halfAt _ hi).trans (dif_pos hr)
    · omega

end Q8_0

/-! ## `pack_B` on the 16 rows `B[n * KB]` -/

/-- Byte `t` of row `n`'s group in the `j`-th (even) column of a Q4 tile, as a quant byte of
    `Q4Quants`. -/
theorem q4Quant_index {j n t : Nat} (hj : j ∈ [0, 2, 4, 6]) (hn : n < 16) (ht : t < 4) :
    ∃ i c, i < 4 ∧ c < 64 ∧ 32 * j + 4 * n + t = 64 * i + c ∧ c / 4 = n ∧
      8 * i + c % 4 = 4 * j + t ∧ 8 * i + 4 + c % 4 = 4 * j + 4 + t := by
  replace hj : j % 2 = 0 ∧ j < 8 := by
    simp only [List.mem_cons, List.mem_singleton, List.not_mem_nil, or_false] at hj
    omega
  exact ⟨j / 2, 4 * n + t, by omega, by omega, by omega, by omega, by omega, by omega⟩

theorem packBQ4_0_layout (B : Int → BlockQ4_0) (KB : Int) :
    (∀ r, (packBQ4_0 B KB r).isSome ↔ r < ggmlAmxGetPackedSize .q4_0 1) ∧
    (∀ j ∈ [0, 2, 4, 6], ∀ n < 16, ∀ t < 4, packBQ4_0 B KB (32 * j + 4 * n + t) =
      some (q4Elem (qsBytes (B (n * KB)).qs) (4 * j + t) |||
        q4Elem (qsBytes (B (n * KB)).qs) (4 * j + 4 + t) <<< 4)) ∧
    (∀ n < 16, ∀ i < 2, packBQ4_0 B KB (256 + 2 * n + i) = some (leByte (B (n * KB)).d.toNat i)) ∧
    ∀ r : Fin 288, (packBQ4_0 B KB r).getD 0 = q4_0TileBytes (fun n => B (n.val * KB)) r := by
  refine ⟨q4_0Tile_isSome _, fun j hj n hn t ht => ?_, fun n hn i hi => q4_0Tile_scale _ hn hi,
    fun r => ?_⟩
  · obtain ⟨i, c, hi, hc, h₁, h₂, h₃, h₄⟩ := q4Quant_index hj hn ht
    rw [h₁, packBQ4_0, q4_0Tile_quant _ hi hc, h₂, h₃, h₄]
  · rw [packBQ4_0, q4_0TileBytes, q4_0Tile_congr fun n hn =>
      (rowsOf_apply (fun n : Fin 16 => B (n.val * KB)) hn).symm]

theorem packBQ4_1_layout (B : Int → BlockQ4_1) (KB : Int) :
    (∀ r, (packBQ4_1 B KB r).isSome ↔ r < ggmlAmxGetPackedSize .q4_1 1) ∧
    (∀ j ∈ [0, 2, 4, 6], ∀ n < 16, ∀ t < 4, packBQ4_1 B KB (32 * j + 4 * n + t) =
      some (q4Elem (qsBytes (B (n * KB)).qs) (4 * j + t) |||
        q4Elem (qsBytes (B (n * KB)).qs) (4 * j + 4 + t) <<< 4)) ∧
    (∀ n < 16, ∀ i < 2, packBQ4_1 B KB (256 + 2 * n + i) = some (leByte (B (n * KB)).d.toNat i)) ∧
    (∀ n < 16, ∀ i < 2, packBQ4_1 B KB (288 + 2 * n + i) = some (leByte (B (n * KB)).m.toNat i)) ∧
    ∀ r : Fin 320, (packBQ4_1 B KB r).getD 0 = q4_1TileBytes (fun n => B (n.val * KB)) r := by
  refine ⟨q4_1Tile_isSome _, fun j hj n hn t ht => ?_, fun n hn i hi => q4_1Tile_scale _ hn hi,
    fun n hn i hi => q4_1Tile_min _ hn hi, fun r => ?_⟩
  · obtain ⟨i, c, hi, hc, h₁, h₂, h₃, h₄⟩ := q4Quant_index hj hn ht
    rw [h₁, packBQ4_1, q4_1Tile_quant _ hi hc, h₂, h₃, h₄]
  · rw [packBQ4_1, q4_1TileBytes, q4_1Tile_congr fun n hn =>
      (rowsOf_apply (fun n : Fin 16 => B (n.val * KB)) hn).symm]

theorem packBQ8_0_layout (m : Mem) (P : Int) (B : Int → BlockQ8_0) (KB : Int) :
    packBQ8_0 m P B KB = m.store P (q8_0Tile fun n => B (n * KB)) ∧
    (∀ r, (q8_0Tile (fun n => B (n * KB)) r).isSome ↔ r < ggmlAmxGetPackedSize .q8_0 1) ∧
    (∀ j < 8, ∀ n < 16, ∀ t < 4, q8_0Tile (fun n => B (n * KB)) (64 * j + 4 * n + t) =
      some (qsBytes (B (n * KB)).qs (4 * j + t))) ∧
    (∀ n < 16, ∀ i < 2, q8_0Tile (fun n => B (n * KB)) (512 + 2 * n + i) =
      some (leByte (B (n * KB)).d.toNat i)) ∧
    ∀ r : Fin 544, (q8_0Tile (fun n => B (n * KB)) r).getD 0 =
      q8_0TileBytes (fun n => B (n.val * KB)) r := by
  refine ⟨packBQ8_0_eq m P B KB, q8_0Tile_isSome _, fun j hj n hn t ht => ?_,
    fun n hn i hi => q8_0Tile_scale _ hn hi, fun r => ?_⟩
  · rw [Nat.add_assoc, q8_0Tile_quant _ hj (by omega), show (4 * n + t) / 4 = n by omega,
      show (4 * n + t) % 4 = t by omega]
  · rw [q8_0TileBytes, q8_0Tile_congr fun n hn =>
      (rowsOf_apply (fun n : Fin 16 => B (n.val * KB)) hn).symm]

end AmxBackend
