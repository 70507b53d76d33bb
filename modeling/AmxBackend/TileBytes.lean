import AmxBackend.Layout
import AmxBackend.TileConfig

/-!
# `AmxBackend.TileBytes` — `tile_config_t` in memory

`_tile_loadconfig(p)` reads 64 bytes from `p`: palette, start row, 14 reserved bytes, sixteen
little-endian `uint16_t` column widths and sixteen row counts. The `tile_config_t` of
`ggml-amx-impl.c` and `ggml-amx.c`, and the anonymous one of `config_tiles_simple`, have exactly
this layout, which is why `TileConfig` models their loads field by field. The `tile_config_t` of
`ggml-amx-kernels.c` has eight slots and is 40 bytes long.

* `tileConfigOfBytes_image` — a 16-slot `tile_config_t` loads as the fields it holds;
* `configure_amx_int8_faults` — the 8-slot one that `configure_amx_int8` fills does not: its row
  counts are read as the widths of slots 8..11, which palette 1 does not have, so the load raises
  #GP whatever the stack bytes past it hold (the function is never called).

`configure_tiles_int8` and `configure_tiles_bf16` of `ggml-amx.c` fill a 16-slot `tile_config_t`
the same way up to the element width, and are one definition with that width as parameter.
-/

namespace AmxBackend

/-! ## The 64-byte format -/

/-- The configuration `_tile_loadconfig(p)` loads from the bytes `bs o` at `p + o`, `o < 64`. -/
def tileConfigOfBytes (bs : Nat → Byte) : TileConfig where
  paletteId := bs 0
  startRow := bs 1
  colsb i := halfAt fun j => bs (16 + 2 * i.val + j)
  rows i := bs (48 + i.val)

/-- The bytes of a 16-slot `tile_config_t` holding `tc`, its reserved bytes zero as the `memset`
    before every fill leaves them. -/
def TileConfig.image (tc : TileConfig) (o : Nat) : Byte :=
  if o = 0 then tc.paletteId
  else if o = 1 then tc.startRow
  else if o < 16 then 0
  else if h : o < 48 then leByte (tc.colsb ⟨(o - 16) / 2, by omega⟩).toNat ((o - 16) % 2)
  else if h : o < 64 then tc.rows ⟨o - 48, by omega⟩
  else 0

theorem TileConfig.image_colsb (tc : TileConfig) (i : Fin 16) {j : Nat} (hj : j < 2) :
    tc.image (16 + 2 * i.val + j) = leByte (tc.colsb i).toNat j := by
  have hi : (⟨(16 + 2 * i.val + j - 16) / 2, by omega⟩ : Fin 16) = i := Fin.ext (by simp only; omega)
  simp only [TileConfig.image, if_neg (show 16 + 2 * i.val + j ≠ 0 by omega),
    if_neg (show 16 + 2 * i.val + j ≠ 1 by omega), if_neg (show ¬ 16 + 2 * i.val + j < 16 by omega),
    dif_pos (show 16 + 2 * i.val + j < 48 by omega), hi, show (16 + 2 * i.val + j - 16) % 2 = j by omega]

theorem TileConfig.image_rows (tc : TileConfig) (i : Fin 16) : tc.image (48 + i.val) = tc.rows i := by
  have hi : (⟨48 + i.val - 48, by omega⟩ : Fin 16) = i := Fin.ext (by simp)
  simp only [TileConfig.image, if_neg (show 48 + i.val ≠ 0 by omega), if_neg (show 48 + i.val ≠ 1 by omega),
    if_neg (show ¬ 48 + i.val < 16 by omega), dif_neg (show ¬ 48 + i.val < 48 by omega),
    dif_pos (show 48 + i.val < 64 by omega), hi]

/-- **The field model of a load is exact.** `_tile_loadconfig` of the bytes of a 16-slot
    `tile_config_t` loads the configuration its fields hold. -/
theorem tileConfigOfBytes_image (tc : TileConfig) : tileConfigOfBytes tc.image = tc := by
  rcases tc with ⟨p, s, c, r⟩
  simp only [tileConfigOfBytes, TileConfig.mk.injEq]
  exact ⟨rfl, rfl, funext fun i => halfAt_of_bytes fun j hj => TileConfig.image_colsb _ i hj,
    funext fun i => TileConfig.image_rows _ i⟩

/-! ## `ggml-amx-kernels.c`: an 8-slot `tile_config_t` -/

/-- The `tile_config_t` of `ggml-amx-kernels.c`: `colsb[8]` and `rows[8]`. -/
structure TileConfig8 where
  paletteId : Byte
  startRow : Byte
  colsb : Fin 8 → BitVec 16
  rows : Fin 8 → Byte

/-- Its 40 bytes: palette, start row, 14 reserved, `colsb[0..7]` from byte 16, `rows[0..7]` from
    byte 32. -/
def TileConfig8.image (tc : TileConfig8) (o : Nat) : Byte :=
  if o = 0 then tc.paletteId
  else if o = 1 then tc.startRow
  else if o < 16 then 0
  else if h : o < 32 then leByte (tc.colsb ⟨(o - 16) / 2, by omega⟩).toNat ((o - 16) % 2)
  else if h : o < 40 then tc.rows ⟨o - 32, by omega⟩
  else 0

theorem TileConfig8.image_colsb (tc : TileConfig8) {i j : Nat} (hi : i < 8) (hj : j < 2) :
    tc.image (16 + 2 * i + j) = leByte (tc.colsb ⟨i, hi⟩).toNat j := by
  have hi' : (⟨(16 + 2 * i + j - 16) / 2, by omega⟩ : Fin 8) = ⟨i, hi⟩ := Fin.ext (by simp only; omega)
  simp only [TileConfig8.image, if_neg (show 16 + 2 * i + j ≠ 0 by omega),
    if_neg (show 16 + 2 * i + j ≠ 1 by omega), if_neg (show ¬ 16 + 2 * i + j < 16 by omega),
    dif_pos (show 16 + 2 * i + j < 32 by omega), hi', show (16 + 2 * i + j - 16) % 2 = j by omega]

/-- The `cfg` `configure_amx_int8()` fills after its `memset`: palette 1, start row 0, and
    `TILE_M = 16` rows in every slot, of `TILE_K = 64` bytes for the B and A tiles (`TMM0..TMM3`)
    and of `TILE_N * 4 = 64` bytes for the accumulators (`TMM4..TMM7`). -/
def configureAmxInt8Cfg : TileConfig8 :=
  ⟨1, 0, fun i => if i.val < 4 then 64 else 16 * 4, fun _ => 16⟩

/-- Bytes 32..39 of that `cfg` are its `rows[0..7]`, all 16. -/
theorem configureAmxInt8Cfg_image_rows {o : Nat} (h₀ : 32 ≤ o) (h₁ : o < 40) :
    configureAmxInt8Cfg.image o = 16 := by
  simp only [TileConfig8.image, if_neg (show o ≠ 0 by omega), if_neg (show o ≠ 1 by omega),
    if_neg (show ¬ o < 16 by omega), dif_neg (show ¬ o < 32 by omega), dif_pos h₁]
  rfl

/-- `configure_amx_int8()`: `_tile_loadconfig(&cfg)` reads the 40 bytes of `cfg` and the 24 bytes
    that follow it on the stack, `after o` being the byte at `(char *)&cfg + 40 + o`. -/
def configureAmxInt8 (after : Nat → Byte) (s : TileThread) : TileThread :=
  s.loadconfig (tileConfigOfBytes fun o => if o < 40 then configureAmxInt8Cfg.image o else after (o - 40))

/-- `release_amx()`: `_tile_release()`. -/
def releaseAmx (s : TileThread) : TileThread := tileRelease s

/-- **`configure_amx_int8` faults.** Its `cfg` is 40 bytes and `_tile_loadconfig` reads 64: the
    row counts `16, 16` of slots 0 and 1 are read as the column width `0x1010` of slot 8, which
    palette 1 does not have, so `LDTILECFG` raises #GP whatever the 24 stack bytes after `cfg`
    hold, and the configuration stays as it was. The function is `static inline` and never
    called. -/
theorem configure_amx_int8_faults (after : Nat → Byte) (s : TileThread) :
    (configureAmxInt8 after s).faulted = true ∧ (configureAmxInt8 after s).hw = s.hw := by
  have h8 : (tileConfigOfBytes fun o => if o < 40 then configureAmxInt8Cfg.image o else after (o - 40)).colsb 8 =
      0x1010 := by
    rw [show (0x1010 : BitVec 16) = halfAt fun _ => 16 by decide]
    exact halfAt_congr fun j hj => by
      show (if 16 + 2 * 8 + j < 40 then _ else _) = _
      rw [if_pos (by omega), configureAmxInt8Cfg_image_rows (by omega) (by omega)]
  have hv : palette1Valid (tileConfigOfBytes fun o =>
      if o < 40 then configureAmxInt8Cfg.image o else after (o - 40)) = false := by
    simp only [palette1Valid, decide_eq_false_iff_not, not_forall]
    exact ⟨8, fun h => absurd (h.2 (by decide)).2 (by rw [h8]; decide)⟩
  have hnone : tileLoadconfig (tileConfigOfBytes fun o =>
      if o < 40 then configureAmxInt8Cfg.image o else after (o - 40)) = none := by
    have hp : (tileConfigOfBytes fun o =>
        if o < 40 then configureAmxInt8Cfg.image o else after (o - 40)).paletteId = 1 := rfl
    rw [tileLoadconfig, hp, hv, if_neg (by decide), if_neg (by decide)]
  simp [configureAmxInt8, TileThread.loadconfig, hnone]

/-! ## `ggml-amx.c`: `configure_tiles_int8` and `configure_tiles_bf16` -/

/-- The `cfg` of `configure_tiles_int8` and `configure_tiles_bf16` for A and B elements of
    `elemBytes` bytes: palette 1; tile 0 (A) of `rows_a` rows of `cols_a · elemBytes` bytes,
    tile 1 (B) of `rows_b` rows of `cols_b · elemBytes` bytes, tile 2 (the 4-byte accumulator) of
    `rows_a` rows of `rows_a · 4` bytes. The `int` values go into `uint8_t` and `uint16_t`
    fields, which keep them modulo `2^8` and `2^16`. -/
def configureTilesCfg (elemBytes rowsA colsA rowsB colsB : Int) : TileConfig :=
  (({ TileConfig.zero with paletteId := 1 }.configTile 0 (BitVec.ofInt 8 rowsA)
    (BitVec.ofInt 16 (colsA * elemBytes))).configTile 1 (BitVec.ofInt 8 rowsB)
    (BitVec.ofInt 16 (colsB * elemBytes))).configTile 2 (BitVec.ofInt 8 rowsA)
    (BitVec.ofInt 16 (rowsA * 4))

/-- `configure_tiles_int8(rows_a, cols_a, rows_b, cols_b)`: the widths are in bytes. -/
def configureTilesInt8 (rowsA colsA rowsB colsB : Int) (s : TileThread) : TileThread :=
  s.loadconfig (configureTilesCfg 1 rowsA colsA rowsB colsB)

/-- `configure_tiles_bf16(rows_a, cols_a_bf16, rows_b, cols_b_bf16)`: two bytes per element. -/
def configureTilesBf16 (rowsA colsABf16 rowsB colsBBf16 : Int) (s : TileThread) : TileThread :=
  s.loadconfig (configureTilesCfg 2 rowsA colsABf16 rowsB colsBBf16)

end AmxBackend
