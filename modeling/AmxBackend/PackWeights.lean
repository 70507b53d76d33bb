import Mathlib.Tactic.Ring
import AmxBackend.Layout

/-!
# `AmxBackend.PackWeights` — `ggml_amx_pack_weights`: the tiles it stores, the blocks it reads

`ggml_amx_pack_weights(type, weights, packed_buffer, K, N)` checks that `K` and `N` are multiples
of `TILE_K` and `TILE_N`, computes `KB = K / TILE_K` and `NB = N / TILE_N` as `int`s, and runs one
`pack_B_<type>` per `nb < NB`, on the 16 blocks `w[nb·TILE_N·KB + n·KB]` and into the tile at
`packed_buffer + nb · tile_size`.

* `packTiles_eq` — for a type with a routine, the loop returns `true` and leaves `storeTiles`:
  the `NB` tiles stored back to back. `storeTiles_apply_tile` and `storeTiles_apply_of_not_mem`
  are its run lemmas: byte `r` of tile `nb` is that tile's byte `r`, and nothing outside the
  tiles changes.
* `tilePatch_congr` — tile `nb` reads the blocks `(16 nb + n) · KB` only, `n < 16`: the first
  K-block of each of its rows, and nothing else.
* `pack_weights_result` — it succeeds iff AMX is enabled, `K` and `N` are aligned, and the type
  has a routine or there is no tile; a failure stores nothing (`packTiles_of_not_handle`: the
  type is checked inside the loop, at the first tile). `pack_weights_no_tile_type` evaluates it
  where the type check is never reached.
* `pack_weights_within` — whatever it returns, it changes nothing outside the
  `ggml_amx_get_packed_size(type, N / 16)` bytes from `packed_buffer`.
* `pack_weights_drops_k_blocks` and `pack_weights_zero_K` evaluate this at two inputs: with
  `K = 64` the second K-block of a row is never read, and with `K = 0` a full tile is written
  from block `0` although `ggml_amx_get_packed_size(type, 0) = 0`.

`weights` is passed as its own byte array: `pack_B_<type>` reads it through `RESTRICT`
pointers, so within a tile it never aliases the bytes being written.
-/

namespace AmxBackend

/-! ## Reading the weights -/

theorem BlockQ4_0.ofBytes_congr {w w' : Int → Byte} {i : Int}
    (h : ∀ j : Nat, j < 18 → w (18 * i + j) = w' (18 * i + j)) : BlockQ4_0.ofBytes w i = BlockQ4_0.ofBytes w' i := by
  ext : 1
  · exact halfAt_congr fun j hj => h j (by omega)
  · funext j
    simpa [BlockQ4_0.ofBytes, Int.add_assoc] using h (2 + j) (by omega)

theorem BlockQ4_1.ofBytes_congr {w w' : Int → Byte} {i : Int}
    (h : ∀ j : Nat, j < 20 → w (20 * i + j) = w' (20 * i + j)) : BlockQ4_1.ofBytes w i = BlockQ4_1.ofBytes w' i := by
  ext : 1
  · exact halfAt_congr fun j hj => h j (by omega)
  · exact halfAt_congr fun j hj => by simpa [Int.add_assoc] using h (2 + j) (by omega)
  · funext j
    simpa [BlockQ4_1.ofBytes, Int.add_assoc] using h (4 + j) (by omega)

theorem BlockQ8_0.ofBytes_congr {w w' : Int → Byte} {i : Int}
    (h : ∀ j : Nat, j < 34 → w (34 * i + j) = w' (34 * i + j)) : BlockQ8_0.ofBytes w i = BlockQ8_0.ofBytes w' i := by
  ext : 1
  · exact halfAt_congr fun j hj => h j (by omega)
  · funext j
    simpa [BlockQ8_0.ofBytes, Int.add_assoc] using h (2 + j) (by omega)

/-! ## The routine -/

/-- `(int) x` for an `int64_t` value `x`: the conversion keeps the low 32 bits, as the compilers
    the backend is built with define it. -/
def int32OfInt64 (x : Int) : Int := x.bmod (2 ^ 32)

/-- One iteration of the loop of `ggml_amx_pack_weights`: the `switch` on `type` for tile `nb`,
    with `w + nb * TILE_N * KB` as `B` and `packed_tile = packed_buffer + nb * tile_size`;
    `none` is `default: return false`. -/
def packTile (type : GgmlType) (weights : Int → Byte) (packedBuffer KB : Int) (nb : Nat)
    (m : Mem) : Option Mem :=
  let packedTile := packedBuffer + nb * ggmlAmxGetPackedSize type 1
  match type with
  | .q4_0 => some (m.store packedTile
      (packBQ4_0 (fun i => BlockQ4_0.ofBytes weights (nb * 16 * KB + i)) KB))
  | .q4_1 => some (m.store packedTile
      (packBQ4_1 (fun i => BlockQ4_1.ofBytes weights (nb * 16 * KB + i)) KB))
  | .q8_0 => some (packBQ8_0 m packedTile (fun i => BlockQ8_0.ofBytes weights (nb * 16 * KB + i)) KB)
  | _ => none

/-- The first `c` iterations of `for (int nb = 0; nb < NB; ++nb)`. -/
def packTiles (type : GgmlType) (weights : Int → Byte) (packedBuffer KB : Int) : Nat → Mem → Bool × Mem
  | 0, m => (true, m)
  | c + 1, m =>
    match packTiles type weights packedBuffer KB c m with
    | (true, m) =>
      match packTile type weights packedBuffer KB c m with
      | some m => (true, m)
      | none => (false, m)
    | r => r

/-- `ggml_amx_pack_weights(type, weights, packed_buffer, K, N)`: whether it succeeded, and memory
    after it. `enabled` is what `ggml_amx_is_enabled()` answers. -/
def ggmlAmxPackWeights (enabled : Bool) (type : GgmlType) (weights : Int → Byte)
    (packedBuffer K N : Int) (m : Mem) : Bool × Mem :=
  if !enabled then (false, m)
  else if K.tmod 32 ≠ 0 ∨ N.tmod 16 ≠ 0 then (false, m)
  else
    let KB := int32OfInt64 (K.tdiv 32)
    let NB := int32OfInt64 (N.tdiv 16)
    packTiles type weights packedBuffer KB NB.toNat m

/-! ## Tiles stored back to back -/

/-- `c` patches of `ts` bytes each, stored one after the other from `P`. -/
def storeTiles (P : Int) (ts : Nat) (tile : Nat → Patch) : Nat → Mem → Mem
  | 0, m => m
  | c + 1, m => (storeTiles P ts tile c m).store (P + c * ts) (tile c)

section StoreTiles

variable {P : Int} {ts : Nat} {tile : Nat → Patch} (hext : ∀ nb r, ts ≤ r → tile nb r = none)
include hext

/-- **Frame.** Nothing outside `[P, P + c · ts)` changes. -/
theorem storeTiles_apply_of_not_mem {a : Int} :
    ∀ {c : Nat} (m : Mem), (a < P ∨ P + c * ts ≤ a) → storeTiles P ts tile c m a = m a
  | 0, _, _ => rfl
  | c + 1, m, ha => by
    have h0 : (0 : Int) ≤ c * ts := Int.mul_nonneg (Int.ofNat_nonneg _) (Int.ofNat_nonneg _)
    have hc : ((c + 1 : Nat) : Int) * ts = c * ts + ts := by push_cast; ring
    rw [hc] at ha
    rw [storeTiles, Mem.store_apply_of_none fun r hr => hext c r (by omega),
      storeTiles_apply_of_not_mem m (by omega)]

/-- **Read-back.** Byte `r < ts` of tile `nb < c` is the one that tile stores there. -/
theorem storeTiles_apply_tile {nb r : Nat} (hr : r < ts) :
    ∀ {c : Nat} (m : Mem), nb < c →
      storeTiles P ts tile c m (P + (nb * ts + r : Nat)) = (tile nb r).getD (m (P + (nb * ts + r : Nat)))
  | c + 1, m, hnb => by
    rw [storeTiles]
    rcases Nat.lt_succ_iff_lt_or_eq.mp hnb with hlt | rfl
    · have hle : nb * ts + r < c * ts := by
        calc nb * ts + r < (nb + 1) * ts := by rw [Nat.succ_mul]; omega
          _ ≤ c * ts := Nat.mul_le_mul_right ts hlt
      rw [Mem.store_apply_of_none fun r' hr' => hext c r' (by push_cast at hr'; omega),
        storeTiles_apply_tile hr m hlt]
    · rw [show P + (nb * ts + r : Nat) = P + (nb * ts : Nat) + (r : Nat) by push_cast; ring,
        Nat.cast_mul nb ts, Mem.store_apply_add,
        storeTiles_apply_of_not_mem hext m (by omega)]

end StoreTiles

/-! ## The tiles of `pack_B_<type>` -/

/-- The patch `pack_B_<type>` stores for tile `nb`: the 16 rows `w[nb·TILE_N·KB + n·KB]`. -/
def tilePatch (type : GgmlType) (weights : Int → Byte) (KB : Int) (nb : Nat) : Patch :=
  match type with
  | .q4_0 => packBQ4_0 (fun i => BlockQ4_0.ofBytes weights (nb * 16 * KB + i)) KB
  | .q4_1 => packBQ4_1 (fun i => BlockQ4_1.ofBytes weights (nb * 16 * KB + i)) KB
  | .q8_0 => q8_0Tile fun n => BlockQ8_0.ofBytes weights (nb * 16 * KB + n * KB)
  | _ => Patch.empty

theorem packTile_eq {type : GgmlType} (h : ggmlAmxCanHandle type) (weights : Int → Byte)
    (P KB : Int) (nb : Nat) (m : Mem) :
    packTile type weights P KB nb m =
      some (m.store (P + nb * ggmlAmxGetPackedSize type 1) (tilePatch type weights KB nb)) := by
  cases type <;> simp [ggmlAmxCanHandle] at h
  · rfl
  · rfl
  · exact congrArg some (packBQ8_0_eq _ _ _ _)

/-- A tile stores exactly its first `ggml_amx_get_packed_size(type, 1)` bytes. -/
theorem tilePatch_isSome {type : GgmlType} (h : ggmlAmxCanHandle type) (weights : Int → Byte)
    (KB : Int) (nb r : Nat) :
    (tilePatch type weights KB nb r).isSome ↔ r < ggmlAmxGetPackedSize type 1 := by
  cases type <;> simp [ggmlAmxCanHandle] at h
  · exact q4_0Tile_isSome _ r
  · exact q4_1Tile_isSome _ r
  · exact q8_0Tile_isSome _ r

theorem tilePatch_none {type : GgmlType} (h : ggmlAmxCanHandle type) (weights : Int → Byte)
    (KB : Int) (nb r : Nat) (hr : ggmlAmxGetPackedSize type 1 ≤ r) :
    tilePatch type weights KB nb r = none :=
  Option.not_isSome_iff_eq_none.mp fun hs => by
    have := (tilePatch_isSome h weights KB nb r).mp hs; omega

/-- **Tile `nb` reads blocks `(16 nb + n) · KB`, `n < 16`, only.** -/
theorem tilePatch_congr (type : GgmlType) {weights weights' : Int → Byte} {KB : Int} {nb : Nat}
    (h : ∀ n : Nat, n < 16 → ∀ j : Nat, j < blockBytes type →
      weights (blockBytes type * (nb * 16 * KB + n * KB) + j) =
      weights' (blockBytes type * (nb * 16 * KB + n * KB) + j)) :
    tilePatch type weights KB nb = tilePatch type weights' KB nb := by
  cases type <;> simp only [tilePatch]
  · exact q4_0Tile_congr fun n hn => BlockQ4_0.ofBytes_congr (h n hn)
  · exact q4_1Tile_congr fun n hn => BlockQ4_1.ofBytes_congr (h n hn)
  · exact q8_0Tile_congr fun n hn => BlockQ8_0.ofBytes_congr (h n hn)

/-- **The loop of a type with a routine.** It succeeds and stores the tiles back to back. -/
theorem packTiles_eq {type : GgmlType} (h : ggmlAmxCanHandle type) (weights : Int → Byte)
    (P KB : Int) : ∀ (c : Nat) (m : Mem), packTiles type weights P KB c m =
      (true, storeTiles P (ggmlAmxGetPackedSize type 1) (tilePatch type weights KB) c m)
  | 0, _ => rfl
  | c + 1, m => by
    rw [packTiles, packTiles_eq h weights P KB c m]
    simp only [packTile_eq h, storeTiles]

/-- Once its checks pass, `ggml_amx_pack_weights` is the loop over `NB` tiles. -/
theorem ggmlAmxPackWeights_eq {type : GgmlType} (h : ggmlAmxCanHandle type) (weights : Int → Byte)
    (P K N : Int) (m : Mem) (hK : K.tmod 32 = 0) (hN : N.tmod 16 = 0) :
    ggmlAmxPackWeights true type weights P K N m =
      (true, storeTiles P (ggmlAmxGetPackedSize type 1)
        (tilePatch type weights (int32OfInt64 (K.tdiv 32)))
        (int32OfInt64 (N.tdiv 16)).toNat m) := by
  simp only [ggmlAmxPackWeights, hK, hN, Bool.not_true, ne_eq, not_true_eq_false, or_self,
    if_false]
  exact packTiles_eq h weights P _ _ m

/-! ## Failures -/

/-- A type without a `pack_B` routine takes `default: return false`, before any store. -/
theorem packTile_of_not_handle {type : GgmlType} (h : ggmlAmxCanHandle type = false)
    (weights : Int → Byte) (P KB : Int) (nb : Nat) (m : Mem) : packTile type weights P KB nb m = none := by
  cases type <;> simp [ggmlAmxCanHandle] at h <;> rfl

/-- The loop of a type without a routine fails at its first iteration, if it has one, and never
    stores. -/
theorem packTiles_of_not_handle {type : GgmlType} (h : ggmlAmxCanHandle type = false)
    (weights : Int → Byte) (P KB : Int) :
    ∀ (c : Nat) (m : Mem), packTiles type weights P KB c m = (decide (c = 0), m)
  | 0, _ => rfl
  | c + 1, m => by
    rw [packTiles, packTiles_of_not_handle h weights P KB c m]
    cases c with
    | zero => simp [packTile_of_not_handle h]
    | succ c => rfl

/-- **When `ggml_amx_pack_weights` succeeds, and that a failure stores nothing.** It returns
    `true` iff AMX is enabled, `K % 32 = 0`, `N % 16 = 0`, and the type has a `pack_B` routine or
    the loop has no iteration (`(int) (N / 16) ≤ 0`); when it returns `false`, memory is as
    before. -/
theorem pack_weights_result (enabled : Bool) (type : GgmlType) (weights : Int → Byte)
    (P K N : Int) (m : Mem) :
    ((ggmlAmxPackWeights enabled type weights P K N m).1 = true ↔
      enabled = true ∧ K.tmod 32 = 0 ∧ N.tmod 16 = 0 ∧
        (ggmlAmxCanHandle type = true ∨ int32OfInt64 (N.tdiv 16) ≤ 0)) ∧
    ((ggmlAmxPackWeights enabled type weights P K N m).1 = false →
      (ggmlAmxPackWeights enabled type weights P K N m).2 = m) := by
  unfold ggmlAmxPackWeights
  cases enabled
  · simp
  by_cases hKN : K.tmod 32 ≠ 0 ∨ N.tmod 16 ≠ 0
  · simp only [Bool.not_true, Bool.false_eq_true, if_false, if_pos hKN]
    exact ⟨⟨False.elim, fun ⟨_, hK, hN, _⟩ => (hKN.elim (· hK) (· hN)).elim⟩, fun _ => trivial⟩
  · simp only [Bool.not_true, Bool.false_eq_true, if_false, if_neg hKN]
    cases hc : ggmlAmxCanHandle type
    · rw [packTiles_of_not_handle hc]
      simp only [decide_eq_true_eq, decide_eq_false_iff_not, Bool.false_eq_true, false_or,
        true_and, implies_true, and_true]
      omega
    · rw [packTiles_eq hc]
      simp only [true_or, and_true, Bool.true_eq_false, false_implies, true_and, true_iff]
      omega

theorem packedSize_cast {n c : Int} (hn : 0 ≤ n) (hn' : n < 2 ^ 31) (hc : 0 ≤ c) (hc' : c < 2 ^ 32) :
    (((n * c) % 2 ^ 64).toNat : Int) = n * ((1 * c) % 2 ^ 64).toNat := by
  have h : n * c < 2 ^ 64 :=
    calc n * c ≤ n * 2 ^ 32 := Int.mul_le_mul_of_nonneg_left hc'.le hn
      _ < 2 ^ 64 := by omega
  rw [Int.one_mul, Int.emod_eq_of_lt (Int.mul_nonneg hn hc) h, Int.emod_eq_of_lt hc (by omega),
    Int.toNat_of_nonneg (Int.mul_nonneg hn hc), Int.toNat_of_nonneg hc]

/-- `ggml_amx_get_packed_size(type, n)` for `0 ≤ n < 2^31` tiles of a type with a routine is `n`
    tile sizes. -/
theorem ggmlAmxGetPackedSize_eq {type : GgmlType} (h : ggmlAmxCanHandle type) {n : Int} (hn : 0 ≤ n)
    (hn' : n < 2 ^ 31) : (ggmlAmxGetPackedSize type n : Int) = n * ggmlAmxGetPackedSize type 1 := by
  cases type <;> simp only [ggmlAmxCanHandle, Bool.false_eq_true] at h <;>
    exact packedSize_cast hn hn' (by decide) (by decide)

/-- **`ggml_amx_pack_weights` stays inside the packed size.** Whatever it returns, it changes no
    byte outside `[packed_buffer, packed_buffer + ggml_amx_get_packed_size(type, (int) (N / 16)))`:
    it stores `(int) (N / 16)` tiles of `ggml_amx_get_packed_size(type, 1)` bytes back to back, or
    nothing. -/
theorem pack_weights_within (enabled : Bool) (type : GgmlType) (weights : Int → Byte) (P K N : Int)
    (m : Mem) (a : Int)
    (ha : a < P ∨ P + ggmlAmxGetPackedSize type (int32OfInt64 (N.tdiv 16)) ≤ a) :
    (ggmlAmxPackWeights enabled type weights P K N m).2 a = m a := by
  unfold ggmlAmxPackWeights
  cases enabled
  · rfl
  by_cases hKN : K.tmod 32 ≠ 0 ∨ N.tmod 16 ≠ 0
  · simp only [Bool.not_true, Bool.false_eq_true, if_false, if_pos hKN]
  simp only [Bool.not_true, Bool.false_eq_true, if_false, if_neg hKN]
  cases hc : ggmlAmxCanHandle type
  · rw [packTiles_of_not_handle hc]
  rw [packTiles_eq hc]
  refine storeTiles_apply_of_not_mem (tilePatch_none hc weights _) m ?_
  have hlt : int32OfInt64 (N.tdiv 16) < 2 ^ 31 := Int.bmod_lt (by decide)
  rcases Int.lt_or_le (int32OfInt64 (N.tdiv 16)) 0 with hneg | hpos
  · rw [Int.toNat_eq_zero.mpr hneg.le]
    omega
  · rw [ggmlAmxGetPackedSize_eq hc hpos hlt] at ha
    rwa [Int.toNat_of_nonneg hpos]

/-- One Q4_0 tile packed at `0x100` over memory holding `a + 1` at every `a`: the byte right past
    the tile keeps its `0x21`. -/
theorem pack_weights_within_past_tile :
    ((0x220 : Int) < 0x100 ∨ (0x100 : Int) + ggmlAmxGetPackedSize .q4_0 (int32OfInt64 (Int.tdiv 16 16)) ≤ 0x220) ∧
      (ggmlAmxPackWeights true .q4_0 (fun a => BitVec.ofInt 8 (3 * a + 1)) 0x100 32 16
        fun a => BitVec.ofInt 8 (a + 1)).2 0x220 = 0x21 := by
  have ha : (0x220 : Int) < 0x100 ∨
      (0x100 : Int) + ggmlAmxGetPackedSize .q4_0 (int32OfInt64 (Int.tdiv 16 16)) ≤ 0x220 :=
    Or.inr (by decide)
  exact ⟨ha, (pack_weights_within true .q4_0 (fun a => BitVec.ofInt 8 (3 * a + 1)) 0x100 32 16
    (fun a => BitVec.ofInt 8 (a + 1)) 0x220 ha).trans (by decide)⟩

/-- **A type without a routine succeeds when there is no tile.**
    `ggml_amx_pack_weights(Q4_K, weights, packed_buffer, 256, 0)` returns `true` and stores
    nothing, though Q4_K has no `pack_B` routine and `ggml_amx_get_packed_size` sizes it `0`; with
    `N = 16` the same call fails. The type is checked inside the loop over N-tiles. -/
theorem pack_weights_no_tile_type (W : Int → Byte) (P : Int) (m : Mem) :
    ggmlAmxPackWeights true .q4_K W P 256 0 m = (true, m) ∧
      ggmlAmxPackWeights true .q4_K W P 256 16 m = (false, m) ∧
      ggmlAmxCanHandle .q4_K = false ∧ ggmlAmxGetPackedSize .q4_K 1 = 0 :=
  ⟨rfl, rfl, rfl, rfl⟩

/-! ## Two inputs -/

/-- **`K = 64`: the second K-block is never read.** One weight array of 16 rows and two
    K-blocks has a `1` in the first quant byte of block `1` (row `0`, K-block `1`), the other is
    all zeros. The two blocks differ, yet `ggml_amx_pack_weights` succeeds on both and leaves the
    same memory. -/
theorem pack_weights_drops_k_blocks (P : Int) (m : Mem) :
    BlockQ4_0.ofBytes (fun a => if a = 20 then 1 else 0) 1 ≠ BlockQ4_0.ofBytes (fun _ => 0) 1 ∧
    ggmlAmxPackWeights true .q4_0 (fun a => if a = 20 then 1 else 0) P 64 16 m =
      ggmlAmxPackWeights true .q4_0 (fun _ => 0) P 64 16 m ∧
    (ggmlAmxPackWeights true .q4_0 (fun _ => 0) P 64 16 m).1 = true := by
  have hq : ggmlAmxCanHandle .q4_0 := rfl
  have hKB : int32OfInt64 (Int.tdiv 64 32) = 2 := by decide
  have hdrop : tilePatch .q4_0 (fun a => if a = 20 then 1 else 0) 2 = tilePatch .q4_0 (fun _ => 0) 2 :=
    funext fun nb => tilePatch_congr .q4_0 fun n _ j hj => by
      simp only [blockBytes, Nat.cast_ofNat] at hj ⊢
      rw [if_neg (by omega)]
  refine ⟨fun h => ?_, ?_, ?_⟩
  · have h₀ := congrArg (fun b => b.qs 0) h
    simp [BlockQ4_0.ofBytes] at h₀
  · rw [ggmlAmxPackWeights_eq hq _ P 64 16 m (by decide) (by decide),
      ggmlAmxPackWeights_eq hq _ P 64 16 m (by decide) (by decide), hKB, hdrop]
  · rw [ggmlAmxPackWeights_eq hq _ P 64 16 m (by decide) (by decide)]

/-- **`K = 0`: a full tile from block `0`.** With `K = 0` and `N = 16` the checks pass,
    `KB = 0` and `NB = 1`: the routine succeeds and stores one 288-byte tile built from block `0`
    alone, although `ggml_amx_get_packed_size(Q4_0, (N / 16) · (K / 32))` is `0`. -/
theorem pack_weights_zero_K (W : Int → Byte) (P : Int) (m : Mem) :
    ggmlAmxPackWeights true .q4_0 W P 0 16 m =
      (true, m.store P (packBQ4_0 (fun _ => BlockQ4_0.ofBytes W 0) 0)) ∧
    ggmlAmxGetPackedSize .q4_0 (16 / 16 * (0 / 32)) = 0 ∧
    ∀ r, (packBQ4_0 (fun _ => BlockQ4_0.ofBytes W 0) 0 r).isSome ↔ r < 288 := by
  refine ⟨?_, rfl, q4_0Tile_isSome _⟩
  rw [ggmlAmxPackWeights_eq (show ggmlAmxCanHandle .q4_0 from rfl) W P 0 16 m (by decide) (by decide),
    show (int32OfInt64 (Int.tdiv 16 16)).toNat = 1 by decide, show int32OfInt64 (Int.tdiv 0 32) = 0 by decide]
  simp [storeTiles, tilePatch, packBQ4_0]

end AmxBackend
