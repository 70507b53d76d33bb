import AmxBackend.TileConfig

/-!
# `AmxBackend.Runtime` — the process state of `ggml-amx.c`

`ggml-amx.c` keeps three process-wide flags. `g_amx_enabled` is written by
`ggml_amx_set_enabled` and read by every AMX entry point through `ggml_amx_is_enabled`; it starts
`false`, so AMX is opt-in. `g_amx_int8_initialized` and `g_amx_bf16_initialized` are set by
`ggml_amx_int8_init` and `ggml_amx_bf16_init` once `arch_prctl(ARCH_REQ_XCOMP_PERM,
XFEATURE_XTILEDATA)` is granted; `ggml_amx_int8_init` then runs `ggml_amx_test_tiles` on the
calling thread's tiles (`TileConfig`).

`AmxProcess` is the three flags with one thread's tile state, `AmxCall.step` what one call of
the API does and answers, and `runProcess` a sequence of calls. The outcome of each `arch_prctl`
request is part of the call: the kernel's answer is not in the sources.

* `step_amxEnabled`, `step_int8Initialized`, `step_bf16Initialized`, `step_thread_of_disabled` —
  what one call does to each part of the process;
* `runProcess_initialized` — along any sequence of calls, an `init` flag is up exactly when it
  was, or one of its requests was granted;
* `init_request_once` — an `init` after any sequence of calls from process start asks the kernel
  exactly when no request was granted before, answers whether one was, and runs the tile
  self-test only on the granted request;
* `disabled_tiles_untouched` — while AMX stays disabled, no entry point but
  `ggml_amx_tile_config_init` touches the thread's tiles;
* `no_tile_fault` — along every sequence of calls, no `_tile_loadconfig` raises #GP.
-/

namespace AmxBackend

/-! ## The process and its calls -/

/-- `g_amx_enabled`, `g_amx_int8_initialized`, `g_amx_bf16_initialized`, and the tile state of the
    calling thread. -/
structure AmxProcess where
  amxEnabled : Bool
  int8Initialized : Bool
  bf16Initialized : Bool
  thread : TileThread
  deriving DecidableEq

/-- The process at start: every flag `false`, the thread fresh. -/
def AmxProcess.init : AmxProcess := ⟨false, false, false, .init⟩

/-- `ggml_amx_set_enabled(enabled)`: `g_amx_enabled = enabled`, and a line on `stderr`. -/
def ggmlAmxSetEnabled (enabled : Bool) (p : AmxProcess) : AmxProcess := { p with amxEnabled := enabled }

/-- `ggml_amx_is_enabled()`. -/
def ggmlAmxIsEnabled (p : AmxProcess) : Bool := p.amxEnabled

/-- `ggml_amx_int8_available()`. -/
def ggmlAmxInt8Available (p : AmxProcess) : Bool := p.int8Initialized

/-- `ggml_amx_bf16_init()` on Linux: `initialized` is `g_amx_bf16_initialized`, `syscallOk` whether
    `arch_prctl(ARCH_REQ_XCOMP_PERM, XFEATURE_XTILEDATA)` succeeded. Its result and the new flag. -/
def ggmlAmxBf16Init (initialized syscallOk : Bool) : Bool × Bool :=
  if initialized then (true, true)
  else if !syscallOk then (false, false)
  else (true, true)

/-- `ggml_amx_bf16_available()`. -/
def ggmlAmxBf16Available (p : AmxProcess) : Bool := p.bf16Initialized

/-- `ggml_mul_mat_q4_0_q8_0_amx(...)`: `false` when AMX is disabled, and `false` past the check,
    where the tile kernel is still to be written. It writes nothing. -/
def ggmlMulMatQ4_0Q8_0Amx (enabled : Bool) : Bool := if !enabled then false else false

/-- `ggml_amx_int8_init` answers and sets its flag as `ggml_amx_bf16_init` does; it differs only
    by the tile self-test. -/
theorem ggmlAmxInt8Init_fst (initialized syscallOk enabled : Bool) (s : TileThread) :
    (ggmlAmxInt8Init initialized syscallOk enabled s).1 = ggmlAmxBf16Init initialized syscallOk := by
  cases initialized <;> cases syscallOk <;> rfl

/-- A call of the API. The two `init`s carry the outcome of their `arch_prctl` request, which
    matters only when they make it. -/
inductive AmxCall
  | setEnabled (enabled : Bool)
  | isEnabled
  | int8Init (syscallOk : Bool)
  | int8Available
  | bf16Init (syscallOk : Bool)
  | bf16Available
  | tileConfigInit
  | testTiles
  | gemvSimple
  | mulMatQ4_0Q8_0
  deriving DecidableEq

/-- What a call answers: its `bool` result (`none` for a `void` routine), whether it made the
    `arch_prctl` request, and the returns of `ggml_amx_tile_config_init` it made. -/
structure AmxReply where
  value : Option Bool
  request : Bool
  inits : List InitReturn
  deriving DecidableEq

/-- One call: the process after it and its reply. The kernels read `g_amx_enabled` through
    `ggml_amx_is_enabled()`, and an `init` makes its request only while its flag is down. -/
def AmxCall.step : AmxCall → AmxProcess → AmxProcess × AmxReply
  | .setEnabled e, p => (ggmlAmxSetEnabled e p, ⟨none, false, []⟩)
  | .isEnabled, p => (p, ⟨some (ggmlAmxIsEnabled p), false, []⟩)
  | .int8Init ok, p =>
    let r := ggmlAmxInt8Init p.int8Initialized ok (ggmlAmxIsEnabled p) p.thread
    ({ p with int8Initialized := r.1.2, thread := r.2.1 }, ⟨some r.1.1, !p.int8Initialized, r.2.2⟩)
  | .int8Available, p => (p, ⟨some (ggmlAmxInt8Available p), false, []⟩)
  | .bf16Init ok, p =>
    let r := ggmlAmxBf16Init p.bf16Initialized ok
    ({ p with bf16Initialized := r.2 }, ⟨some r.1, !p.bf16Initialized, []⟩)
  | .bf16Available, p => (p, ⟨some (ggmlAmxBf16Available p), false, []⟩)
  | .tileConfigInit, p =>
    let r := tileConfigInitObs p.thread
    ({ p with thread := r.1 }, ⟨none, false, [r.2]⟩)
  | .testTiles, p =>
    let r := ggmlAmxTestTiles (ggmlAmxIsEnabled p) p.thread
    ({ p with thread := r.1 }, ⟨none, false, r.2⟩)
  | .gemvSimple, p =>
    let r := ggmlAmxGemvQ4_0Q8_0SimpleTiles (ggmlAmxIsEnabled p) p.thread
    ({ p with thread := r.1 }, ⟨none, false, r.2⟩)
  | .mulMatQ4_0Q8_0, p => (p, ⟨some (ggmlMulMatQ4_0Q8_0Amx (ggmlAmxIsEnabled p)), false, []⟩)

/-- The process after a sequence of calls. -/
def runProcess (calls : List AmxCall) (p : AmxProcess) : AmxProcess :=
  calls.foldl (fun p c => (c.step p).1) p

@[simp] theorem runProcess_nil (p : AmxProcess) : runProcess [] p = p := rfl

@[simp] theorem runProcess_cons (c : AmxCall) (cs : List AmxCall) (p : AmxProcess) :
    runProcess (c :: cs) p = runProcess cs (c.step p).1 := rfl

/-! ## One call -/

/-- Only `ggml_amx_set_enabled` writes `g_amx_enabled`. -/
theorem step_amxEnabled (c : AmxCall) (p : AmxProcess) (hc : ∀ e, c ≠ .setEnabled e) :
    (c.step p).1.amxEnabled = p.amxEnabled := by
  cases c <;> first | rfl | exact absurd rfl (hc _)

/-- An `int8` init raises its flag on a granted request and never lowers it; no other call
    writes it. -/
theorem step_int8Initialized (c : AmxCall) (p : AmxProcess) :
    (c.step p).1.int8Initialized = (p.int8Initialized || decide (c = .int8Init true)) := by
  cases c with
  | int8Init ok =>
    show (ggmlAmxInt8Init _ ok _ _).1.2 = _
    rw [ggmlAmxInt8Init_fst]
    cases p.int8Initialized <;> cases ok <;> rfl
  | _ => simp [AmxCall.step, ggmlAmxSetEnabled]

/-- The same for the `bf16` flag. -/
theorem step_bf16Initialized (c : AmxCall) (p : AmxProcess) :
    (c.step p).1.bf16Initialized = (p.bf16Initialized || decide (c = .bf16Init true)) := by
  cases c with
  | bf16Init ok =>
    show (ggmlAmxBf16Init _ ok).2 = _
    cases p.bf16Initialized <;> cases ok <;> rfl
  | int8Init ok => simp [AmxCall.step]
  | _ => simp [AmxCall.step, ggmlAmxSetEnabled]

/-- With AMX disabled, only `ggml_amx_tile_config_init` changes the thread: the self-test, the
    simple GEMV and the self-test inside `ggml_amx_int8_init` return before any tile work. -/
theorem step_thread_of_disabled (c : AmxCall) {p : AmxProcess} (hp : p.amxEnabled = false) :
    (c.step p).1.thread =
      if c = .tileConfigInit then (ggmlAmxTileConfigInit p.thread).1 else p.thread := by
  have hkernel : (simpleKernelTiles (ggmlAmxIsEnabled p) p.thread).1 = p.thread := by
    simp [simpleKernelTiles, ggmlAmxIsEnabled, hp]
  cases c with
  | int8Init ok =>
    show (ggmlAmxInt8Init _ ok _ _).2.1 = _
    simp only [ggmlAmxInt8Init]
    split
    · rfl
    split
    · rfl
    · exact hkernel
  | tileConfigInit => rfl
  | testTiles => exact hkernel
  | gemvSimple => exact hkernel
  | _ => rfl

/-- **`ggml_amx_int8_init` in one lemma.** It makes the request exactly while its flag is down,
    returns whether the request was granted then or before, runs the tile self-test exactly on a
    granted request with AMX enabled, and with its flag up changes nothing. -/
theorem step_int8Init (ok : Bool) (p : AmxProcess) :
    ((AmxCall.int8Init ok).step p).2.request = !p.int8Initialized ∧
      ((AmxCall.int8Init ok).step p).2.value = some (ok || p.int8Initialized) ∧
      (((AmxCall.int8Init ok).step p).2.inits ≠ [] ↔
        p.int8Initialized = false ∧ ok = true ∧ p.amxEnabled = true) ∧
      (p.int8Initialized = true → (AmxCall.int8Init ok).step p = (p, ⟨some true, false, []⟩)) := by
  rcases p with ⟨_ | _, _ | _, b, s⟩ <;> cases ok <;>
    simp [AmxCall.step, ggmlAmxInt8Init, ggmlAmxTestTiles, simpleKernelTiles, ggmlAmxIsEnabled]

/-- **`ggml_amx_bf16_init` in one lemma**, the same without the self-test. -/
theorem step_bf16Init (ok : Bool) (p : AmxProcess) :
    ((AmxCall.bf16Init ok).step p).2.request = !p.bf16Initialized ∧
      ((AmxCall.bf16Init ok).step p).2.value = some (ok || p.bf16Initialized) ∧
      (p.bf16Initialized = true → (AmxCall.bf16Init ok).step p = (p, ⟨some true, false, []⟩)) := by
  rcases p with ⟨e, i, _ | _, s⟩ <;> cases ok <;> simp [AmxCall.step, ggmlAmxBf16Init]

/-! ## Sequences of calls -/

/-- Along any sequence of calls, an `init` flag is up exactly when it was at the start or one of
    the calls was that `init` with its request granted. -/
theorem runProcess_initialized (calls : List AmxCall) (p : AmxProcess) :
    (runProcess calls p).int8Initialized = (p.int8Initialized || decide (.int8Init true ∈ calls)) ∧
      (runProcess calls p).bf16Initialized = (p.bf16Initialized || decide (.bf16Init true ∈ calls)) := by
  induction calls generalizing p with
  | nil => simp
  | cons c cs ih =>
    rw [runProcess_cons, (ih _).1, (ih _).2, step_int8Initialized, step_bf16Initialized]
    constructor <;> by_cases h : c = .int8Init true <;> by_cases h' : c = .bf16Init true <;>
      simp [h, h', eq_comm]

/-- **The `init`s ask the kernel until it grants, then never again.** After any sequence `pre` of
    calls from process start, `ggml_amx_int8_available()` and `ggml_amx_bf16_available()` answer
    whether an earlier `init` of their kind had its `arch_prctl` request granted. A further
    `init` makes the request exactly when none was granted, returns whether this one or an
    earlier one was, and after a grant changes nothing. `ggml_amx_int8_init` runs the tile
    self-test only on the call whose request is granted, and only if AMX is enabled then. -/
theorem init_request_once (pre : List AmxCall) (ok : Bool) :
    ggmlAmxInt8Available (runProcess pre .init) = decide (.int8Init true ∈ pre) ∧
    ggmlAmxBf16Available (runProcess pre .init) = decide (.bf16Init true ∈ pre) ∧
    ((AmxCall.int8Init ok).step (runProcess pre .init)).2.request = !decide (.int8Init true ∈ pre) ∧
    ((AmxCall.bf16Init ok).step (runProcess pre .init)).2.request = !decide (.bf16Init true ∈ pre) ∧
    ((AmxCall.int8Init ok).step (runProcess pre .init)).2.value =
      some (ok || decide (.int8Init true ∈ pre)) ∧
    ((AmxCall.bf16Init ok).step (runProcess pre .init)).2.value =
      some (ok || decide (.bf16Init true ∈ pre)) ∧
    (((AmxCall.int8Init ok).step (runProcess pre .init)).2.inits ≠ [] ↔
      .int8Init true ∉ pre ∧ ok = true ∧ ggmlAmxIsEnabled (runProcess pre .init) = true) ∧
    (.int8Init true ∈ pre → (AmxCall.int8Init ok).step (runProcess pre .init) =
      (runProcess pre .init, ⟨some true, false, []⟩)) ∧
    (.bf16Init true ∈ pre → (AmxCall.bf16Init ok).step (runProcess pre .init) =
      (runProcess pre .init, ⟨some true, false, []⟩)) := by
  obtain ⟨h8, h16⟩ := runProcess_initialized pre .init
  generalize runProcess pre .init = p at h8 h16 ⊢
  simp only [AmxProcess.init, Bool.false_or] at h8 h16
  obtain ⟨i₁, i₂, i₃, i₄⟩ := step_int8Init ok p
  obtain ⟨b₁, b₂, b₃⟩ := step_bf16Init ok p
  simp only [ggmlAmxInt8Available, ggmlAmxBf16Available, ggmlAmxIsEnabled, ← h8, ← h16, i₁, i₂, i₃,
    b₁, b₂, true_and]
  exact ⟨by rw [h8, decide_eq_false_iff_not], fun h => i₄ (h8 ▸ decide_eq_true h),
    fun h => b₃ (h16 ▸ decide_eq_true h)⟩

/-- **AMX off, tiles untouched.** From a process state with AMX disabled, along any sequence of
    calls that never enables it, the thread's tiles end as they were, or, if the sequence calls
    `ggml_amx_tile_config_init()`, as its first call leaves them: the self-test, the simple GEMV
    and `ggml_amx_int8_init` do no tile work, and `ggml_amx_tile_config_init` acts once. -/
theorem disabled_tiles_untouched (calls : List AmxCall) (p : AmxProcess) (hp : p.amxEnabled = false)
    (hcalls : AmxCall.setEnabled true ∉ calls) :
    (runProcess calls p).thread =
      if AmxCall.tileConfigInit ∈ calls then (ggmlAmxTileConfigInit p.thread).1 else p.thread := by
  induction calls generalizing p with
  | nil => simp
  | cons c cs ih =>
    have hc : c ≠ .setEnabled true := fun h => hcalls (h ▸ List.mem_cons_self _ _)
    have hp' : (c.step p).1.amxEnabled = false := by
      cases c with
      | setEnabled e =>
        cases e
        · rfl
        · exact absurd rfl hc
      | _ => rw [step_amxEnabled _ p fun _ h => AmxCall.noConfusion h, hp]
    rw [runProcess_cons, ih _ hp' fun h => hcalls (List.mem_cons_of_mem _ h),
      step_thread_of_disabled c hp]
    by_cases hct : c = .tileConfigInit
    · subst hct
      have hidem := (ggmlAmxTileConfigInit_spec (ggmlAmxTileConfigInit p.thread).1).2.2
        (ggmlAmxTileConfigInit_spec p.thread).1
      simp [hidem]
    · simp [hct, Ne.symm hct]

theorem disabled_tiles_untouched_init_first :
    AmxProcess.init.amxEnabled = false ∧
      AmxCall.setEnabled true ∉ [.int8Init true, .testTiles, .tileConfigInit, .gemvSimple] ∧
      (runProcess [.int8Init true, .testTiles, .tileConfigInit, .gemvSimple] .init).thread =
        (ggmlAmxTileConfigInit TileThread.init).1 :=
  have h₁ : AmxProcess.init.amxEnabled = false := rfl
  have h₂ : AmxCall.setEnabled true ∉ [.int8Init true, .testTiles, .tileConfigInit, .gemvSimple] := by
    decide
  ⟨h₁, h₂, disabled_tiles_untouched _ _ h₁ h₂⟩

/-! ## No load faults -/

/-- One call keeps the thread in `TilesSafe`: its tile work is a call of the thread model. -/
theorem step_tilesSafe (c : AmxCall) {p : AmxProcess} (hp : TilesSafe p.thread) :
    TilesSafe (c.step p).1.thread := by
  cases c with
  | int8Init ok => exact (TileCall.int8Init p.int8Initialized ok (ggmlAmxIsEnabled p)).run_safe hp
  | tileConfigInit => exact TileCall.tileConfigInit.run_safe hp
  | testTiles => exact (TileCall.testTiles (ggmlAmxIsEnabled p)).run_safe hp
  | gemvSimple => exact (TileCall.gemvSimple (ggmlAmxIsEnabled p)).run_safe hp
  | _ => exact hp

theorem runProcess_tilesSafe : ∀ (calls : List AmxCall) {p : AmxProcess}, TilesSafe p.thread →
    TilesSafe (runProcess calls p).thread
  | [], _, hp => hp
  | c :: cs, _, hp => runProcess_tilesSafe cs (step_tilesSafe c hp)

/-- **No call makes `LDTILECFG` fault.** Along every sequence of API calls from process start, no
    `_tile_loadconfig` raises #GP: `ggml_amx_tile_config_init` loads its layout only over its
    zeroed static `tc`, and `config_tiles_simple` three tiles of 16 rows of 64 bytes, both within
    the checks of palette 1. Between calls the thread holds no configuration or the layout: the
    kernels release the one `config_tiles_simple` loads. -/
theorem no_tile_fault (calls : List AmxCall) :
    (runProcess calls .init).thread.faulted = false ∧
      ((runProcess calls .init).thread.hw = none ∨
        (runProcess calls .init).thread.hw = some (amxTileLayout .zero)) :=
  have h := runProcess_tilesSafe calls (p := .init) TilesSafe.init
  ⟨h.1, h.2.2⟩

end AmxBackend
