import Mathlib.Data.Fintype.Basic
import Mathlib.Logic.Function.Basic
import AmxBackend.Memory

/-!
# `AmxBackend.TileConfig` — one thread's **tile configuration**

AMX computes on tile registers whose shapes a thread fixes by `_tile_loadconfig` and drops by
`_tile_release`. Three routines touch this state: `ggml_amx_tile_config_init` loads the
8-slot layout of the packed kernels, and `ggml_amx_test_tiles` (also run by
`ggml_amx_int8_init`) and `ggml_amx_gemv_q4_0_q8_0_simple` load their own layout through
`config_tiles_simple` and release the tiles when done.

The state of a thread is `TileThread`: the two thread-local variables of
`ggml_amx_tile_config_init`, the configuration the hardware holds, and whether a load faulted.
`runTiles` runs any sequence of calls and records every return of `ggml_amx_tile_config_init`,
nested ones included.

* `tile_config_init_after_release` — after `ggml_amx_test_tiles()` on a fresh thread, the next
  `ggml_amx_tile_config_init()` returns with the tiles released: `is_first_time` is already
  false, so the call returns before comparing or loading anything.
* `runTiles_loads` — over every sequence of calls from a fresh thread, the configuration is
  loaded by at most one return of `ggml_amx_tile_config_init`, and only when the one loaded
  before it differs from the layout; the invariant behind it is `FreshTiles`.
* `TileCall.run_safe` — `_tile_loadconfig` raises #GP on a configuration that palette 1 does not
  allow (`tileLoadconfig`); no call of the thread makes it fault, since both configurations the
  code loads are allowed. The invariant is `TilesSafe`.
-/

namespace AmxBackend

/-! ## Tile configurations -/

/-- `tile_config_t`, the 64-byte operand of `_tile_loadconfig`: palette, start row, and the
    column bytes and rows of the 16 slots. The reserved bytes are zero in every configuration
    the code builds and are left out. -/
structure TileConfig where
  paletteId : Byte
  startRow : Byte
  colsb : Fin 16 → BitVec 16
  rows : Fin 16 → Byte
  deriving DecidableEq

/-- The all-zero `tile_config_t`: a `memset` to `0`, a `static` before its first write, and what
    `_tile_storeconfig` stores while no configuration is loaded. -/
def TileConfig.zero : TileConfig := ⟨0, 0, fun _ => 0, fun _ => 0⟩

/-- `TC_CONFIG_TILE(i, r, cb)`: `tc.rows[i] = r; tc.colsb[i] = cb`. -/
def TileConfig.configTile (tc : TileConfig) (i : Fin 16) (r : Byte) (cb : BitVec 16) : TileConfig :=
  { tc with rows := Function.update tc.rows i r, colsb := Function.update tc.colsb i cb }

/-- The checks `LDTILECFG` makes on a palette-1 configuration, whose tiles number 8, each of at
    most 16 rows of at most 64 bytes: slots `0..7` within those bounds, with rows and column bytes
    both zero or both nonzero, and slots `8..15` all zero. (It also wants the reserved bytes zero;
    `TileConfig` leaves them out, since they are zero in every configuration the code builds.) -/
def palette1Valid (cfg : TileConfig) : Bool :=
  decide (∀ i : Fin 16, (i.val < 8 → cfg.rows i ≤ 16 ∧ cfg.colsb i ≤ 64 ∧ (cfg.rows i = 0 ↔ cfg.colsb i = 0)) ∧
    (8 ≤ i.val → cfg.rows i = 0 ∧ cfg.colsb i = 0))

/-- `_tile_loadconfig(&cfg)` (`LDTILECFG`): `none` when it raises #GP, else the configuration the
    thread then holds, `none` inside when palette `0` releases the tiles. The processors with AMX
    have the palettes `0` and `1`. -/
def tileLoadconfig (cfg : TileConfig) : Option (Option TileConfig) :=
  if cfg.paletteId = 0 then some none
  else if cfg.paletteId = 1 ∧ palette1Valid cfg = true then some (some cfg)
  else none

/-- `_tile_storeconfig(&cfg)`: the loaded configuration, all zeros while the tiles are
    released. -/
def tileStoreconfig (hw : Option TileConfig) : TileConfig := hw.getD .zero

/-- `memcmp(&a.colsb, &b.colsb, sizeof(uint16_t) * 8) != 0`. -/
def colsbDiffer (a b : TileConfig) : Bool :=
  decide (∃ i : Fin 8, a.colsb (Fin.castLE (by decide) i) ≠ b.colsb (Fin.castLE (by decide) i))

/-- `memcmp(&a.rows, &b.rows, sizeof(uint8_t) * 8) != 0`. -/
def rowsDiffer (a b : TileConfig) : Bool :=
  decide (∃ i : Fin 8, a.rows (Fin.castLE (by decide) i) ≠ b.rows (Fin.castLE (by decide) i))

/-! ## The routines -/

/-- A thread's tile state: `static _Thread_local bool is_first_time` and
    `static _Thread_local tile_config_t tc` of `ggml_amx_tile_config_init`, and the configuration
    loaded on the thread (`none` while the tiles are released). -/
structure TileThread where
  isFirstTime : Bool
  tc : TileConfig
  hw : Option TileConfig
  /-- A `_tile_loadconfig` on the thread raised #GP, which ends the process with `SIGSEGV`. -/
  faulted : Bool
  deriving DecidableEq

/-- A thread before its first call: the statics at their initial values, no tiles loaded. -/
def TileThread.init : TileThread := ⟨true, .zero, none, false⟩

/-- `_tile_loadconfig(&cfg)` on the thread: the configuration it then holds, or the fault, which
    leaves the configuration as it was. -/
def TileThread.loadconfig (s : TileThread) (cfg : TileConfig) : TileThread :=
  match tileLoadconfig cfg with
  | some hw => { s with hw := hw }
  | none => { s with faulted := true }

@[simp] theorem TileThread.loadconfig_isFirstTime (s : TileThread) (cfg : TileConfig) :
    (s.loadconfig cfg).isFirstTime = s.isFirstTime := by
  unfold TileThread.loadconfig; split <;> rfl

@[simp] theorem TileThread.loadconfig_tc (s : TileThread) (cfg : TileConfig) :
    (s.loadconfig cfg).tc = s.tc := by
  unfold TileThread.loadconfig; split <;> rfl

/-- A load `LDTILECFG` accepts sets the configuration and nothing else. -/
theorem TileThread.loadconfig_of_some {s : TileThread} {cfg : TileConfig} {hw : Option TileConfig}
    (h : tileLoadconfig cfg = some hw) : s.loadconfig cfg = { s with hw := hw } := by
  simp only [TileThread.loadconfig, h]

/-- The layout `ggml_amx_tile_config_init` writes into `tc` before loading it. -/
def amxTileLayout (tc : TileConfig) : TileConfig :=
  (((((((({ tc with paletteId := 1, startRow := 0 }.configTile 0 8 64).configTile 1 8 64).configTile
    2 16 32).configTile 3 16 32).configTile 4 16 64).configTile 5 16 64).configTile 6 16 64).configTile
    7 16 64)

/-- `ggml_amx_tile_config_init()`: the thread after it, and whether it ran `_tile_loadconfig`. -/
def ggmlAmxTileConfigInit (s : TileThread) : TileThread × Bool :=
  if !s.isFirstTime then (s, false)
  else
    let currentTc := tileStoreconfig s.hw
    if s.tc.paletteId = 0 || (colsbDiffer currentTc s.tc && rowsDiffer currentTc s.tc) then
      let tc := amxTileLayout s.tc
      ({ s with isFirstTime := false, tc := tc }.loadconfig tc, true)
    else ({ s with isFirstTime := false }, false)

/-- The configuration `config_tiles_simple` builds: palette 1, slots 0, 2 and 4 of 16 rows of
    64 bytes. -/
def simpleTileCfg : TileConfig :=
  (({ TileConfig.zero with paletteId := 1 }.configTile 0 16 64).configTile 2 16 64).configTile 4 16 64

/-- `config_tiles_simple()`. -/
def configTilesSimple (s : TileThread) : TileThread := s.loadconfig simpleTileCfg

/-- `_tile_release()`. -/
def tileRelease (s : TileThread) : TileThread := { s with hw := none }

/-- A return of `ggml_amx_tile_config_init`: the configuration loaded when it was called,
    whether it ran `_tile_loadconfig`, and the configuration loaded when it returned. -/
structure InitReturn where
  before : Option TileConfig
  loaded : Bool
  after : Option TileConfig
  deriving DecidableEq

/-- `ggml_amx_tile_config_init()`, with its return recorded. -/
def tileConfigInitObs (s : TileThread) : TileThread × InitReturn :=
  let r := ggmlAmxTileConfigInit s
  (r.1, ⟨s.hw, r.2, r.1.hw⟩)

/-- The tile work of a kernel that sets its own shapes: when `ggml_amx_is_enabled()`,
    `ggml_amx_tile_config_init(); config_tiles_simple();`, tile operations that keep the
    configuration, and `_tile_release()`. -/
def simpleKernelTiles (enabled : Bool) (s : TileThread) : TileThread × List InitReturn :=
  if !enabled then (s, [])
  else
    let r := tileConfigInitObs s
    (tileRelease (configTilesSimple r.1), [r.2])

/-- `ggml_amx_test_tiles()`, on the tile state. -/
def ggmlAmxTestTiles (enabled : Bool) (s : TileThread) : TileThread × List InitReturn :=
  simpleKernelTiles enabled s

/-- `ggml_amx_gemv_q4_0_q8_0_simple(...)`, on the tile state (its output is in `Kernels`). -/
def ggmlAmxGemvQ4_0Q8_0SimpleTiles (enabled : Bool) (s : TileThread) : TileThread × List InitReturn :=
  simpleKernelTiles enabled s

/-- `ggml_amx_int8_init()` on Linux, on the tile state: `initialized` is
    `g_amx_int8_initialized`, `syscallOk` whether `arch_prctl(ARCH_REQ_XCOMP_PERM, ...)`
    succeeded. Its result, the new flag and the thread after it. -/
def ggmlAmxInt8Init (initialized syscallOk enabled : Bool) (s : TileThread) :
    (Bool × Bool) × TileThread × List InitReturn :=
  if initialized then ((true, true), s, [])
  else if !syscallOk then ((false, false), s, [])
  else ((true, true), ggmlAmxTestTiles enabled s)

/-- A call a thread makes, with what the routine reads of the process: the AMX enable flag,
    and for `ggml_amx_int8_init` its flag and system call. -/
inductive TileCall
  | tileConfigInit
  | testTiles (enabled : Bool)
  | gemvSimple (enabled : Bool)
  | int8Init (initialized syscallOk enabled : Bool)

/-- One call: the thread after it and the returns of `ggml_amx_tile_config_init` it made. -/
def TileCall.run : TileCall → TileThread → TileThread × List InitReturn
  | .tileConfigInit, s => let r := tileConfigInitObs s; (r.1, [r.2])
  | .testTiles e, s => ggmlAmxTestTiles e s
  | .gemvSimple e, s => ggmlAmxGemvQ4_0Q8_0SimpleTiles e s
  | .int8Init i ok e, s => (ggmlAmxInt8Init i ok e s).2

/-- A sequence of calls on one thread. -/
def runTiles : List TileCall → TileThread → TileThread × List InitReturn
  | [], s => (s, [])
  | c :: cs, s =>
    let r := c.run s
    let r' := runTiles cs r.1
    (r'.1, r.2 ++ r'.2)

/-! ## The layout after a return -/

/-- `(rows, colsb)` of slot `i < 8` in the layout `ggml_amx_tile_config_init` loads. -/
def layoutSlot (i : Fin 8) : Byte × BitVec 16 :=
  if i.val < 2 then (8, 64) else if i.val < 4 then (16, 32) else (16, 64)

/-- Slots `0..7` of `cfg` differ from the layout in some `(rows, colsb)`. -/
def layoutDiffers (cfg : TileConfig) : Bool :=
  decide (∃ i : Fin 8, (cfg.rows (Fin.castLE (by decide) i), cfg.colsb (Fin.castLE (by decide) i)) ≠
    layoutSlot i)

/-- The tiles hold a palette-1 configuration with the layout in slots `0..7`. -/
def holdsLayout : Option TileConfig → Bool
  | some cfg => cfg.paletteId = 1 && !layoutDiffers cfg
  | none => false

/-- **A released thread stays released.** On a fresh thread, `ggml_amx_test_tiles()` followed by
    `ggml_amx_tile_config_init()`: the first return (inside the test) holds the layout, the
    second returns with no configuration loaded. -/
theorem tile_config_init_after_release :
    (runTiles [.testTiles true, .tileConfigInit] .init).2.map (·.after) =
      [some (amxTileLayout .zero), none] ∧
    holdsLayout (some (amxTileLayout .zero)) = true ∧ holdsLayout none = false := by
  decide

/-! ## Loads over every run -/

/-- While `is_first_time` holds, the thread has no configuration loaded. -/
def FreshTiles (s : TileThread) : Prop := s.isFirstTime = true → s.hw = none

/-- The loads `ggml_amx_tile_config_init` may still make on the thread: one until its first
    call, none after. -/
def firstFlag (s : TileThread) : Nat := if s.isFirstTime then 1 else 0

/-- The returns that ran `_tile_loadconfig`. -/
def loadCount (rs : List InitReturn) : Nat := (rs.filter (·.loaded)).length

/-- **`ggml_amx_tile_config_init` in one lemma.** It always clears `is_first_time`, loads only
    on a first call, and is the identity after one. -/
theorem ggmlAmxTileConfigInit_spec (s : TileThread) :
    (ggmlAmxTileConfigInit s).1.isFirstTime = false ∧
      ((ggmlAmxTileConfigInit s).2 = true → s.isFirstTime = true) ∧
      (s.isFirstTime = false → ggmlAmxTileConfigInit s = (s, false)) := by
  rcases s with ⟨_ | _, tc, hw, f⟩
  · simp [ggmlAmxTileConfigInit]
  · simp only [ggmlAmxTileConfigInit, Bool.not_true, Bool.false_eq_true, if_false]
    split <;> simp

/-- One return of `ggml_amx_tile_config_init` keeps `FreshTiles`, loads only from a released
    thread, and spends the thread's one load. -/
theorem tileConfigInitObs_spec {s : TileThread} (hs : FreshTiles s) :
    FreshTiles (tileConfigInitObs s).1 ∧
      ((tileConfigInitObs s).2.loaded = true → (tileConfigInitObs s).2.before = none) ∧
      loadCount [(tileConfigInitObs s).2] + firstFlag (tileConfigInitObs s).1 ≤ firstFlag s := by
  obtain ⟨hfirst, hload, -⟩ := ggmlAmxTileConfigInit_spec s
  refine ⟨fun h => absurd h (by simp [tileConfigInitObs, hfirst]), fun h => hs (hload h), ?_⟩
  simp only [loadCount, tileConfigInitObs, firstFlag, hfirst]
  cases h : (ggmlAmxTileConfigInit s).2 <;> simp [hload, h]

/-- **Step lemma.** Every call keeps `FreshTiles`, makes its loads from a released thread and
    spends at most the load the thread has left. -/
theorem TileCall.run_spec (c : TileCall) {s : TileThread} (hs : FreshTiles s) :
    FreshTiles (c.run s).1 ∧ (∀ r ∈ (c.run s).2, r.loaded = true → r.before = none) ∧
      loadCount (c.run s).2 + firstFlag (c.run s).1 ≤ firstFlag s := by
  have hkernel : ∀ e, FreshTiles (simpleKernelTiles e s).1 ∧
      (∀ r ∈ (simpleKernelTiles e s).2, r.loaded = true → r.before = none) ∧
      loadCount (simpleKernelTiles e s).2 + firstFlag (simpleKernelTiles e s).1 ≤ firstFlag s := by
    intro e
    obtain ⟨h₁, h₂, h₃⟩ := tileConfigInitObs_spec hs
    cases e
    · simp [simpleKernelTiles, hs, loadCount]
    · exact ⟨fun _ => rfl, by simpa [simpleKernelTiles] using h₂,
        by simpa [simpleKernelTiles, tileRelease, configTilesSimple, firstFlag] using h₃⟩
  cases c with
  | tileConfigInit =>
    obtain ⟨h₁, h₂, h₃⟩ := tileConfigInitObs_spec hs
    exact ⟨h₁, by simpa [TileCall.run] using h₂, h₃⟩
  | testTiles e => exact hkernel e
  | gemvSimple e => exact hkernel e
  | int8Init i ok e =>
    simp only [TileCall.run, ggmlAmxInt8Init]
    split
    · simp [hs, loadCount]
    split
    · simp [hs, loadCount]
    · exact hkernel e

/-- **Run lemma.** Along any sequence of calls from a `FreshTiles` thread, every load is made
    from a released thread, and there are at most as many as the thread had left. -/
theorem runTiles_spec : ∀ (calls : List TileCall) {s : TileThread}, FreshTiles s →
    (∀ r ∈ (runTiles calls s).2, r.loaded = true → r.before = none) ∧
      loadCount (runTiles calls s).2 + firstFlag (runTiles calls s).1 ≤ firstFlag s
  | [], _, _ => ⟨by simp [runTiles], by simp [runTiles, loadCount]⟩
  | c :: cs, s, hs => by
    obtain ⟨h₁, h₂, h₃⟩ := c.run_spec hs
    obtain ⟨ih₁, ih₂⟩ := runTiles_spec cs h₁
    refine ⟨fun r hr => ?_, ?_⟩
    · simp only [runTiles, List.mem_append] at hr
      exact hr.elim (h₂ r) (ih₁ r)
    · simp only [runTiles, loadCount, List.filter_append, List.length_append] at ih₂ h₃ ⊢
      omega

/-- **`ggml_amx_tile_config_init` loads once, and only on a mismatch.** Over every sequence of
    calls from a fresh thread, at most one return of `ggml_amx_tile_config_init` ran
    `_tile_loadconfig`, and that one found loaded a configuration whose slots `0..7` differ from
    the layout. -/
theorem runTiles_loads (calls : List TileCall) :
    (∀ r ∈ (runTiles calls .init).2, r.loaded = true →
      layoutDiffers (tileStoreconfig r.before) = true) ∧
    loadCount (runTiles calls .init).2 ≤ 1 := by
  obtain ⟨h₁, h₂⟩ := runTiles_spec calls (show FreshTiles .init from fun _ => rfl)
  refine ⟨fun r hr hl => by rw [h₁ r hr hl]; decide, ?_⟩
  have : firstFlag TileThread.init = 1 := rfl
  omega

/-! ## Loads that do not fault -/

/-- The tile state between the calls of every run: no fault, the static `tc` still zeroed while
    `is_first_time` holds, and the tiles released or holding the layout. -/
def TilesSafe (s : TileThread) : Prop :=
  s.faulted = false ∧ (s.isFirstTime = true → s.tc = .zero) ∧
    (s.hw = none ∨ s.hw = some (amxTileLayout .zero))

theorem TilesSafe.init : TilesSafe .init := ⟨rfl, fun _ => rfl, Or.inl rfl⟩

/-- `LDTILECFG` accepts the layout of `ggml_amx_tile_config_init`. -/
theorem tileLoadconfig_layout :
    tileLoadconfig (amxTileLayout .zero) = some (some (amxTileLayout .zero)) := rfl

/-- `LDTILECFG` accepts the configuration of `config_tiles_simple`. -/
theorem tileLoadconfig_simple : tileLoadconfig simpleTileCfg = some (some simpleTileCfg) := rfl

/-- `ggml_amx_tile_config_init` loads only on a first call, over the zeroed `tc`: the layout, which
    `LDTILECFG` accepts. -/
theorem tileConfigInit_safe {s : TileThread} (hs : TilesSafe s) : TilesSafe (ggmlAmxTileConfigInit s).1 := by
  obtain ⟨hf, htc, hhw⟩ := hs
  unfold ggmlAmxTileConfigInit
  split
  · exact ⟨hf, htc, hhw⟩
  · rename_i hfirst
    dsimp only
    split
    · rw [htc (by simpa using hfirst), TileThread.loadconfig_of_some tileLoadconfig_layout]
      exact ⟨hf, nofun, Or.inr rfl⟩
    · exact ⟨hf, nofun, hhw⟩

/-- `config_tiles_simple()` and then `_tile_release()`: the load is accepted and then dropped. -/
theorem release_simple_safe {s : TileThread} (hs : TilesSafe s) :
    TilesSafe (tileRelease (configTilesSimple s)) := by
  rw [configTilesSimple, TileThread.loadconfig_of_some tileLoadconfig_simple]
  exact ⟨hs.1, hs.2.1, Or.inl rfl⟩

/-- **Step lemma.** No call faults a thread in `TilesSafe`, and every call keeps it there. -/
theorem TileCall.run_safe (c : TileCall) {s : TileThread} (hs : TilesSafe s) : TilesSafe (c.run s).1 := by
  have hkernel : ∀ e, TilesSafe (simpleKernelTiles e s).1 := by
    intro e
    cases e
    · exact hs
    · exact release_simple_safe (tileConfigInit_safe hs)
  cases c with
  | tileConfigInit => exact tileConfigInit_safe hs
  | testTiles e => exact hkernel e
  | gemvSimple e => exact hkernel e
  | int8Init i ok e =>
    simp only [TileCall.run, ggmlAmxInt8Init]
    split
    · exact hs
    split
    · exact hs
    · exact hkernel e

end AmxBackend
