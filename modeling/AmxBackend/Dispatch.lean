import AmxBackend.Buffer

/-!
# `AmxBackend.Dispatch` — which kernel computes a graph node

Before its own kernels, the CPU backend asks `ggml_cpu_extra_work_size` for a node's scratch
size and `ggml_cpu_extra_compute_forward` to compute it. Both take the traits object of
`op->src[0]->extra`, or else of `op->extra`, and call its `work_size` or `compute_forward`; a
`false` from `compute_forward` sends the node to the default kernel. The AMX `tensor_traits` is
what `init_tensor` stores in the `extra` of every tensor of an AMX buffer.
`extra_buffer_type::supports_op` is the buffer type's capability query; the dispatcher does not
call it.

* `selectTraits_eq` — both entry points call the same object, the first non-null of
  `src[0]->extra` and `op->extra`;
* `compute_forward_ignores_supports_op` — a MUL_MAT with F16 activations runs the AMX kernel
  though `supports_op` rejects it, and a GET_ROWS of packed weights goes to the default kernel;
* `amx_dispatch_placement` — with the AMX traits selected the dispatcher answers `true` exactly
  for MUL_MAT, for every node; where the AMX traits mark exactly the tensors of AMX buffers and
  the scheduler runs a node reading an AMX-buffer tensor only if `supports_op` accepts it, the
  AMX kernel gets only accepted nodes and the default kernel never reads an AMX-buffer tensor;
* `work_size_get_rows`, `extra_work_size_agreement` — the AMX `work_size` answers `true` for
  every node, `compute_forward` only for MUL_MAT;
* `alloc_buffer_dispatch` — both paths of the AMX allocator install the AMX `init_tensor` and
  `set_tensor`, so a MUL_MAT reading a tensor initialised in such a buffer goes to the AMX
  kernel.
-/

namespace AmxBackend

/-! ## Traits objects -/

/-- `TILE_N`. -/
def tileN : Int := 16

/-- What the methods of a foreign `tensor_traits` object answer, by the object:
    `work_size(n_threads, op, size)` a flag and the new `size`, `compute_forward(params, op)` a
    flag. The repository defines no such object. -/
structure ForeignMethods where
  workSize : Nat → Int → Tensor → Nat → Bool × Nat
  computeForward : Nat → Tensor → Bool

/-- Foreign objects that handle nothing. -/
def ForeignMethods.declineAll : ForeignMethods :=
  ⟨fun _ _ _ size => (false, size), fun _ _ => false⟩

/-- `ggml::cpu::amx::tensor_traits::work_size`: `size = ggml_backend_amx_desired_wsize(op)` and
    `true`. The size function is in `mmq.cpp`, which is not among the sources. -/
def amxWorkSize (desiredWsize : Tensor → Nat) (op : Tensor) : Bool × Nat :=
  (true, desiredWsize op)

/-- `ggml::cpu::amx::tensor_traits::compute_forward`: for `GGML_OP_MUL_MAT` it runs
    `ggml_backend_amx_mul_mat` and returns `true`; otherwise `false`. -/
def amxComputeForward (op : Tensor) : Bool :=
  op.op = .mulMat

/-- `traits->work_size(n_threads, op, size)`, by the object's dynamic type. -/
def tensorTraitsWorkSize (fm : ForeignMethods) (desiredWsize : Tensor → Nat) :
    Traits → Int → Tensor → Nat → Bool × Nat
  | .amx, _, op, _ => amxWorkSize desiredWsize op
  | .foreign id, nThreads, op, size => fm.workSize id nThreads op size

/-- `traits->compute_forward(params, op)`, by the object's dynamic type. -/
def tensorTraitsComputeForward (fm : ForeignMethods) : Traits → Tensor → Bool
  | .amx, op => amxComputeForward op
  | .foreign id, op => fm.computeForward id op

/-! ## The dispatcher (`ggml-cpu-traits.cpp`) -/

/-- `traits_tensor`: `op->src[0]` when it and its `extra` are non-null, else `op` when its
    `extra` is non-null, else `NULL`. -/
def traitsTensor (op : Tensor) : Option Tensor :=
  match op.srcAt 0 with
  | some src0 => if src0.extra.isSome then some src0 else if op.extra.isSome then some op else none
  | none => if op.extra.isSome then some op else none

/-- `(tensor_traits *) traits_tensor->extra`, when there is a traits tensor. -/
def selectTraits (op : Tensor) : Option Traits :=
  (traitsTensor op).bind Tensor.extra

/-- `ggml_cpu_extra_compute_forward(params, op)`. -/
def ggmlCpuExtraComputeForward (fm : ForeignMethods) (op : Tensor) : Bool :=
  match selectTraits op with
  | some traits => tensorTraitsComputeForward fm traits op
  | none => false

/-- `ggml_cpu_extra_work_size(n_threads, op, &size)`: the flag and `size` after it. -/
def ggmlCpuExtraWorkSize (fm : ForeignMethods) (desiredWsize : Tensor → Nat) (nThreads : Int)
    (op : Tensor) (size : Nat) : Bool × Nat :=
  match selectTraits op with
  | some traits => tensorTraitsWorkSize fm desiredWsize traits nThreads op size
  | none => (false, size)

/-- The lookup takes `src[0]->extra` when it is set and `op->extra` otherwise. -/
theorem selectTraits_eq (op : Tensor) :
    selectTraits op = ((op.srcAt 0).bind Tensor.extra).or op.extra := by
  unfold selectTraits traitsTensor
  cases op.srcAt 0 with
  | none => cases h : op.extra <;> simp [h]
  | some src0 => cases h₀ : src0.extra <;> cases h : op.extra <;> simp [h₀, h]

theorem computeForward_of_amx (fm : ForeignMethods) {op : Tensor} (h : selectTraits op = some .amx) :
    ggmlCpuExtraComputeForward fm op = decide (op.op = .mulMat) := by
  simp only [ggmlCpuExtraComputeForward, h, tensorTraitsComputeForward, amxComputeForward]

/-- Unless `op->extra` is the AMX traits, the AMX traits are found in `src[0]->extra`. -/
theorem src0_of_selectTraits_amx {op : Tensor} (hop : op.extra ≠ some .amx)
    (h : selectTraits op = some .amx) : ∃ src0, op.srcAt 0 = some src0 ∧ src0.extra = some .amx := by
  rw [selectTraits_eq] at h
  cases h₀ : op.srcAt 0 with
  | none => rw [h₀] at h; exact absurd h hop
  | some src0 =>
    rw [h₀, Option.some_bind] at h
    cases hx : src0.extra with
    | none => rw [hx] at h; exact absurd h hop
    | some t => rw [hx] at h; exact ⟨src0, rfl, hx.trans h⟩

theorem workSize_of_amx (fm : ForeignMethods) (desiredWsize : Tensor → Nat) (nThreads : Int)
    {op : Tensor} (size : Nat) (h : selectTraits op = some .amx) :
    ggmlCpuExtraWorkSize fm desiredWsize nThreads op size = (true, desiredWsize op) := by
  simp only [ggmlCpuExtraWorkSize, h, tensorTraitsWorkSize, amxWorkSize]

/-! ## `extra_buffer_type` (`amx.cpp`) -/

/-- `ggml_backend_amx_buffer_type()`: the AMX buffer type, or `NULL` when `ggml_amx_init()`
    fails. -/
def ggmlBackendAmxBufferType (amxReady : Bool) : Option Buft :=
  if amxReady then some .amx else none

/-- `t->buffer && t->buffer->buft == ggml_backend_amx_buffer_type()`. -/
def inAmxBuffer (amxReady : Bool) (t : Tensor) : Bool :=
  match t.buffer with
  | some b => some b.buft = ggmlBackendAmxBufferType amxReady
  | none => false

/-- `is_contiguous_2d`. -/
def isContiguous2d (t : Tensor) : Bool :=
  t.contiguous && t.ne 3 = 1 && t.ne 2 = 1

/-- `extra_buffer_type::supports_op(dev, op)`. A `GGML_OP_MUL_MAT` node has both sources; the
    model answers `false` for one without them. -/
def extraBufferTypeSupportsOp (amxReady : Bool) (op : Tensor) : Bool :=
  match op.srcAt 0, op.srcAt 1 with
  | some src0, some src1 =>
    if op.op = .mulMat && isContiguous2d src0 && isContiguous2d src1 && inAmxBuffer amxReady src0 &&
        (op.ne 0).tmod (tileN * 2) = 0 && (qtypeHasAmxKernels src0.type || src0.type = .f16) then
      if (src1.buffer.map fun b => !b.buft.isHost).getD false then false
      else src1.type = .f32
    else false
  | _, _ => false

/-- `extra_buffer_type::get_tensor_traits(op)`: `op->src[0]->extra` for a MUL_MAT whose
    `src[0]` is in an AMX buffer, else `NULL`. -/
def extraBufferTypeGetTensorTraits (amxReady : Bool) (op : Tensor) : Option Traits :=
  match op.srcAt 0 with
  | some src0 => if op.op = .mulMat && inAmxBuffer amxReady src0 then src0.extra else none
  | none => none

/-- An accepted node is a MUL_MAT whose `src[0]` is in an AMX buffer. -/
theorem supportsOp_spec {amxReady : Bool} {op : Tensor} (h : extraBufferTypeSupportsOp amxReady op = true) :
    op.op = .mulMat ∧ ∃ src0, op.srcAt 0 = some src0 ∧ inAmxBuffer amxReady src0 = true := by
  unfold extraBufferTypeSupportsOp at h
  split at h
  · rename_i src0 src1 h₀ _
    split at h
    · rename_i hc
      simp only [Bool.and_eq_true, decide_eq_true_eq] at hc
      exact ⟨hc.1.1.1.1.1, src0, h₀, hc.1.1.2⟩
    · exact absurd h Bool.false_ne_true
  · exact absurd h Bool.false_ne_true

/-- Whenever the guarded lookup of `get_tensor_traits` finds an object, the dispatcher's
    unguarded one finds the same. -/
theorem selectTraits_of_getTensorTraits {amxReady : Bool} {op : Tensor} {t : Traits}
    (h : extraBufferTypeGetTensorTraits amxReady op = some t) : selectTraits op = some t := by
  unfold extraBufferTypeGetTensorTraits at h
  rw [selectTraits_eq]
  split at h
  · rename_i src0 h₀
    split at h
    · rw [h₀, Option.some_bind, h, Option.or_some]
    · exact Option.noConfusion h
  · exact Option.noConfusion h

/-! ## Nodes of a graph -/

/-- A shape `ne = {a, b, 1, 1}`. -/
def ne2 (a b : Int) : Fin 4 → Int := fun i => if i.val = 0 then a else if i.val = 1 then b else 1

/-- An AMX buffer of 4 KiB at `0x1000`. -/
def amxWeightsBuffer : Buffer := ⟨.amx, ggmlBackendAmxBufferInterface, 0x1000, 0x1000⟩

/-- A Q4_0 weight of `64 × 32` in it, after `init_tensor`. -/
def packedWeight : Tensor :=
  ggmlBackendAmxBufferInitTensor ⟨.q4_0, .other 0, ne2 64 32, true, 0x1000, some amxWeightsBuffer, none, []⟩

/-- A MUL_MAT of the weight with F16 activations. -/
def mulMatF16 : Tensor :=
  ⟨.f32, .mulMat, ne2 32 1, true, 0x9000, none, none,
    [some packedWeight, some ⟨.f16, .other 0, ne2 64 1, true, 0x8000, none, none, []⟩]⟩

/-- A GET_ROWS of the weight by four `GGML_TYPE_I32` ids. -/
def getRowsPacked : Tensor :=
  ⟨.f32, .getRows, ne2 64 4, true, 0xB000, none, none,
    [some packedWeight, some ⟨.other 26, .other 0, ne2 4 1, true, 0xA000, none, none, []⟩]⟩

/-- **The dispatcher does not ask `supports_op`.** A MUL_MAT of an AMX Q4_0 weight with F16
    activations is computed by the AMX kernel, though `supports_op` rejects it; a GET_ROWS of
    the same packed weight is sent to the default kernel. -/
theorem compute_forward_ignores_supports_op :
    ggmlCpuExtraComputeForward .declineAll mulMatF16 = true ∧ selectTraits mulMatF16 = some .amx ∧
      extraBufferTypeSupportsOp true mulMatF16 = false ∧
      ggmlCpuExtraComputeForward .declineAll getRowsPacked = false ∧
      getRowsPacked.srcAt 0 = some packedWeight ∧ inAmxBuffer true packedWeight = true ∧
      qtypeHasAmxKernels packedWeight.type = true :=
  ⟨rfl, rfl, rfl, rfl, rfl, rfl, rfl⟩

/-- **The dispatcher answers by the operator; placement makes it safe.** For every node, the
    dispatcher takes the traits object of `src[0]->extra` when it is set and of `op->extra`
    otherwise, and with the AMX traits selected it answers `true`, running
    `ggml_backend_amx_mul_mat`, exactly when `op` is a MUL_MAT, whatever the shapes, types and
    buffers of its sources. Where placement holds (`src[0]` carries the AMX traits exactly when it
    is in an AMX buffer, as `init_tensor` arranges; `op` itself does not carry them; and a node
    reading a tensor of an AMX buffer is one `supports_op` accepts, the scheduler's placement), the
    AMX kernel computes `op` only if `supports_op` accepts it, and `op` goes to the default kernel
    only if none of its sources is in an AMX buffer. -/
theorem amx_dispatch_placement (fm : ForeignMethods) (amxReady : Bool) :
    (∀ op : Tensor, selectTraits op = ((op.srcAt 0).bind Tensor.extra).or op.extra ∧
      (selectTraits op = some .amx → (ggmlCpuExtraComputeForward fm op = true ↔ op.op = .mulMat))) ∧
    ∀ op : Tensor,
      (∀ src0, op.srcAt 0 = some src0 → (src0.extra = some .amx ↔ inAmxBuffer amxReady src0 = true)) →
      op.extra ≠ some .amx →
      (∀ s, some s ∈ op.src → inAmxBuffer amxReady s = true → extraBufferTypeSupportsOp amxReady op = true) →
      (ggmlCpuExtraComputeForward fm op = true → selectTraits op = some .amx →
        extraBufferTypeSupportsOp amxReady op = true) ∧
      (ggmlCpuExtraComputeForward fm op = false →
        ∀ s, some s ∈ op.src → inAmxBuffer amxReady s = false) := by
  refine ⟨fun op => ⟨selectTraits_eq op, fun h => by rw [computeForward_of_amx fm h, decide_eq_true_iff]⟩,
    fun op hsrc0 hop hplace => ⟨fun _ h => ?_, fun hf s hs => Bool.eq_false_iff.mpr fun hin => ?_⟩⟩
  · obtain ⟨src0, h₀, hx⟩ := src0_of_selectTraits_amx hop h
    exact hplace src0 (Tensor.mem_src_of_srcAt h₀) ((hsrc0 src0 h₀).mp hx)
  · obtain ⟨hmm, src0, h₀, hin0⟩ := supportsOp_spec (hplace s hs hin)
    have hsel : selectTraits op = some .amx := by
      rw [selectTraits_eq, h₀, Option.some_bind, (hsrc0 src0 h₀).mpr hin0, Option.or_some]
    rw [computeForward_of_amx fm hsel, hmm] at hf
    exact absurd hf (by decide)

/-- An ADD (`GGML_OP_ADD`) of two host F32 vectors. -/
def addF32 : Tensor :=
  ⟨.f32, .other 2, ne2 64 1, true, 0xD000, none, none,
    [some ⟨.f32, .other 0, ne2 64 1, true, 0x8000, none, none, []⟩,
      some ⟨.f32, .other 0, ne2 64 1, true, 0xC000, none, none, []⟩]⟩

/-- The GET_ROWS of the packed weight finds the AMX traits and is declined for its operator; the
    ADD, placed as the scheduler places it, is declined and reads no AMX-buffer tensor. -/
theorem amx_dispatch_placement_get_rows :
    selectTraits getRowsPacked = some .amx ∧
      (ggmlCpuExtraComputeForward .declineAll getRowsPacked = true ↔ getRowsPacked.op = .mulMat) ∧
      ggmlCpuExtraComputeForward .declineAll addF32 = false ∧
      ∀ s, some s ∈ addF32.src → inAmxBuffer true s = false := by
  have hsel : selectTraits getRowsPacked = some .amx := rfl
  have hsrc0 : ∀ src0, addF32.srcAt 0 = some src0 →
      (src0.extra = some .amx ↔ inAmxBuffer true src0 = true) := by
    intro src0 h
    cases h
    exact ⟨fun h => absurd h (by decide), fun h => absurd h (by decide)⟩
  have hplace : ∀ s, some s ∈ addF32.src → inAmxBuffer true s = true →
      extraBufferTypeSupportsOp true addF32 = true := by
    intro s hs hin
    simp only [addF32, List.mem_cons, Option.some.injEq, List.not_mem_nil, or_false] at hs
    rcases hs with rfl | rfl <;> exact absurd hin (by decide)
  exact ⟨hsel, ((amx_dispatch_placement .declineAll true).1 getRowsPacked).2 hsel, rfl,
    ((amx_dispatch_placement .declineAll true).2 addF32 hsrc0 (by decide) hplace).2 rfl⟩

/-- A Q4_0 × F32 MUL_MAT as the scheduler places it. -/
def mulMatF32 : Tensor :=
  ⟨.f32, .mulMat, ne2 32 1, true, 0x9000, none, none,
    [some packedWeight, some ⟨.f32, .other 0, ne2 64 1, true, 0x8000, none, none, []⟩]⟩

theorem selectTraits_of_getTensorTraits_mul_mat :
    extraBufferTypeGetTensorTraits true mulMatF32 = some .amx ∧ selectTraits mulMatF32 = some .amx :=
  have h : extraBufferTypeGetTensorTraits true mulMatF32 = some .amx := rfl
  ⟨h, selectTraits_of_getTensorTraits h⟩

/-- A GET_ROWS of the packed weight: the AMX `work_size` reports a scratch size, and
    `compute_forward` declines the node. -/
theorem work_size_get_rows :
    ggmlCpuExtraWorkSize .declineAll (fun _ => 4096) 4 getRowsPacked 0 = (true, 4096) ∧
      ggmlCpuExtraComputeForward .declineAll getRowsPacked = false :=
  ⟨rfl, rfl⟩

/-- **The two entry points agree exactly on MUL_MAT.** Both call the object `selectTraits`
    finds. Without one, both return `false` and `size` is untouched; with the AMX traits,
    `work_size` returns `true` for every node, with `size = ggml_backend_amx_desired_wsize(op)`,
    and `compute_forward` returns `true` only for MUL_MAT; a foreign object gives its own
    answers. -/
theorem extra_work_size_agreement (fm : ForeignMethods) (desiredWsize : Tensor → Nat)
    (nThreads : Int) (op : Tensor) (size : Nat) :
    (selectTraits op = none →
        ggmlCpuExtraWorkSize fm desiredWsize nThreads op size = (false, size) ∧
          ggmlCpuExtraComputeForward fm op = false) ∧
      (selectTraits op = some .amx →
        ggmlCpuExtraWorkSize fm desiredWsize nThreads op size = (true, desiredWsize op) ∧
          (ggmlCpuExtraComputeForward fm op =
              (ggmlCpuExtraWorkSize fm desiredWsize nThreads op size).1 ↔ op.op = .mulMat)) ∧
      ∀ id, selectTraits op = some (.foreign id) →
        ggmlCpuExtraWorkSize fm desiredWsize nThreads op size = fm.workSize id nThreads op size ∧
          ggmlCpuExtraComputeForward fm op = fm.computeForward id op := by
  refine ⟨fun h => ?_, fun h => ?_, fun id h => ?_⟩
  · simp only [ggmlCpuExtraWorkSize, ggmlCpuExtraComputeForward, h, and_self]
  · rw [workSize_of_amx fm desiredWsize nThreads size h, computeForward_of_amx fm h]
    simp
  · simp only [ggmlCpuExtraWorkSize, ggmlCpuExtraComputeForward, h, tensorTraitsWorkSize,
      tensorTraitsComputeForward, and_self]

/-! ## From allocation to the kernel -/

/-- `ggml_backend_buffer_init_tensor(buffer, tensor)`: the routine in the buffer's `init_tensor`
    slot, the AMX one or the CPU buffer's (`cpuInitTensor`: `ggml-backend.c` is not among the
    sources). -/
def ggmlBackendBufferInitTensor (cpuInitTensor : Tensor → Tensor) (buffer : Buffer) (tensor : Tensor) :
    Tensor :=
  match buffer.iface.initTensor with
  | .amx => ggmlBackendAmxBufferInitTensor tensor
  | .cpu => cpuInitTensor tensor

/-- A buffer of either path reports the AMX type and has the AMX `init_tensor` and `set_tensor`. -/
theorem allocBuffer_spec {numaMirror : Bool} {cpuAllocBuffer : Option Buffer} {alignedMalloc : Int}
    {size : Nat} {buffer : Buffer}
    (hb : ggmlBackendAmxBufferTypeAllocBuffer numaMirror cpuAllocBuffer alignedMalloc size = some buffer) :
    buffer.buft = .amx ∧ buffer.iface = ggmlBackendAmxBufferInterface := by
  unfold ggmlBackendAmxBufferTypeAllocBuffer at hb
  split at hb
  · obtain ⟨b, -, rfl⟩ := Option.map_eq_some'.mp hb
    exact ⟨rfl, rfl⟩
  · split at hb
    · exact absurd hb nofun
    · cases hb
      exact ⟨rfl, rfl⟩

/-- **Both allocation paths send MUL_MAT to the AMX kernel.** Whichever path of
    `ggml_backend_amx_buffer_type_alloc_buffer` made a buffer (a NUMA mirror from the CPU buffer
    type, or fresh aligned memory), it reports the AMX buffer type and its `init_tensor` and
    `set_tensor` slots hold the AMX routines. A tensor placed in it and initialised through its
    `init_tensor` then carries the AMX traits and is in an AMX buffer, and a MUL_MAT with that
    tensor as `src[0]` is one `get_tensor_traits` hands the AMX traits, and one the dispatcher
    computes with the AMX kernel. -/
theorem alloc_buffer_dispatch (fm : ForeignMethods) (cpuInitTensor : Tensor → Tensor) (numaMirror : Bool)
    (cpuAllocBuffer : Option Buffer) (alignedMalloc : Int) (size : Nat) (buffer : Buffer)
    (hb : ggmlBackendAmxBufferTypeAllocBuffer numaMirror cpuAllocBuffer alignedMalloc size = some buffer)
    (tensor : Tensor) (ht : tensor.buffer = some buffer) (op : Tensor) (hop : op.op = .mulMat)
    (hsrc : op.srcAt 0 = some (ggmlBackendBufferInitTensor cpuInitTensor buffer tensor)) :
    buffer.iface = ⟨.amx, .amx⟩ ∧
      (ggmlBackendBufferInitTensor cpuInitTensor buffer tensor).extra = some .amx ∧
      inAmxBuffer true (ggmlBackendBufferInitTensor cpuInitTensor buffer tensor) = true ∧
      extraBufferTypeGetTensorTraits true op = some .amx ∧
      ggmlCpuExtraComputeForward fm op = true := by
  obtain ⟨hbuft, hiface⟩ := allocBuffer_spec hb
  have hinit : ggmlBackendBufferInitTensor cpuInitTensor buffer tensor =
      ggmlBackendAmxBufferInitTensor tensor := by
    rw [ggmlBackendBufferInitTensor, hiface]
    rfl
  have hin : inAmxBuffer true (ggmlBackendAmxBufferInitTensor tensor) = true := by
    simp [inAmxBuffer, ggmlBackendAmxBufferInitTensor, ggmlBackendAmxBufferType, ht, hbuft]
  have hsel : selectTraits op = some .amx := by
    rw [selectTraits_eq, hsrc, hinit, Option.some_bind]
    rfl
  rw [hinit] at hsrc ⊢
  refine ⟨hiface, rfl, hin, ?_, by rw [computeForward_of_amx fm hsel, hop]; rfl⟩
  simp only [extraBufferTypeGetTensorTraits, hsrc, hop, hin]
  rfl

/-- The CPU buffer a NUMA mirror comes from, and the AMX buffer the allocator makes of it. -/
def cpuMirrorBuffer : Buffer := ⟨.cpu, ⟨.cpu, .cpu⟩, 0x2000, 0x100⟩

def mirrorAmxBuffer : Buffer := { cpuMirrorBuffer with buft := .amx, iface := ⟨.amx, .amx⟩ }

/-- A Q4_0 weight in that buffer, and a MUL_MAT reading it once initialised. -/
def mirrorWeight : Tensor := ⟨.q4_0, .other 0, ne2 64 32, true, 0x2080, some mirrorAmxBuffer, none, []⟩

def mirrorMulMat : Tensor :=
  ⟨.f32, .mulMat, ne2 32 1, true, 0x9000, none, none,
    [some (ggmlBackendBufferInitTensor id mirrorAmxBuffer mirrorWeight)]⟩

theorem alloc_buffer_dispatch_mirror :
    ggmlBackendAmxBufferTypeAllocBuffer true (some cpuMirrorBuffer) 0 0x100 = some mirrorAmxBuffer ∧
      mirrorWeight.buffer = some mirrorAmxBuffer ∧ mirrorMulMat.op = .mulMat ∧
      mirrorMulMat.srcAt 0 = some (ggmlBackendBufferInitTensor id mirrorAmxBuffer mirrorWeight) ∧
      ggmlCpuExtraComputeForward .declineAll mirrorMulMat = true :=
  have hb : ggmlBackendAmxBufferTypeAllocBuffer true (some cpuMirrorBuffer) 0 0x100 =
      some mirrorAmxBuffer := rfl
  ⟨hb, rfl, rfl, rfl,
    (alloc_buffer_dispatch .declineAll id true _ 0 0x100 _ hb mirrorWeight rfl mirrorMulMat rfl rfl).2.2.2.2⟩

end AmxBackend
