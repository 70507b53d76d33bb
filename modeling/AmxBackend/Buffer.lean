import AmxBackend.Ggml

/-!
# `AmxBackend.Buffer` — the AMX buffer: allocation and `set_tensor`

An AMX buffer comes from one of two paths of `ggml_backend_amx_buffer_type_alloc_buffer`. Under
the NUMA mirror strategy the CPU buffer type allocates a mirror buffer, whose context is a
`struct ggml_numa_mirror_buffer` listing the replicas, and the AMX type only takes over its
`init_tensor` and `set_tensor`. Otherwise the buffer's context is the tensor memory itself,
from `ggml_aligned_malloc`.

`ggml_backend_amx_buffer_set_tensor` tells the two apart by reading a mirror header out of
`buffer->context`, whichever path made the buffer.

* `setTensor_of_not_mirror` — when the header does not pass the test (magic, more than one
  replica, read-only), the call is the plain pack-or-copy write at `tensor->data`;
* `set_tensor_raw_header` — a buffer of the plain path whose data begins with such a header
  has its write repeated at an address read out of the data; `set_tensor_after_clear` — no
  `ggml_backend_amx_buffer_clear` leaves such a header;
* `LoopState.step`, `replicateLoop_spec` — one round of the replication loop writes the
  relocated write into one replica, and the whole loop into all of them;
* `replicate_step`, `replicate_run`, `mirror_set_tensor` — over any sequence of calls on a
  well-formed read-only mirror the replicas keep agreeing and nothing outside them changes.
-/

namespace AmxBackend

/-! ## The buffer's operations -/

/-- `ggml_backend_amx_buffer_interface`, in the slots the model distinguishes. -/
def ggmlBackendAmxBufferInterface : BufferIface := ⟨.amx, .amx⟩

/-- `ggml_backend_amx_buffer_type_alloc_buffer(buft, size)` on Linux. `numaMirror` is whether
    `ggml_get_numa_strategy() == GGML_NUMA_STRATEGY_MIRROR`, `cpuAllocBuffer` what
    `ggml_backend_buft_alloc_buffer(ggml_backend_cpu_buffer_type(), size)` returns and
    `alignedMalloc` what `ggml_aligned_malloc(size)` returns (`0` for `NULL`). -/
def ggmlBackendAmxBufferTypeAllocBuffer (numaMirror : Bool) (cpuAllocBuffer : Option Buffer)
    (alignedMalloc : Int) (size : Nat) : Option Buffer :=
  if numaMirror then
    cpuAllocBuffer.map fun b =>
      { b with buft := .amx, iface := { b.iface with initTensor := .amx, setTensor := .amx } }
  else if alignedMalloc = 0 then none
  else some ⟨.amx, ggmlBackendAmxBufferInterface, alignedMalloc, size⟩

/-- `ggml_backend_amx_buffer_get_base(buffer)`. -/
def ggmlBackendAmxBufferGetBase (buffer : Buffer) : Int := buffer.context

/-- `ggml_backend_amx_buffer_init_tensor(buffer, tensor)`: `tensor->extra` becomes the AMX
    `tensor_traits`. -/
def ggmlBackendAmxBufferInitTensor (tensor : Tensor) : Tensor := { tensor with extra := some .amx }

/-- `ggml_backend_amx_buffer_memset_tensor(buffer, tensor, value, offset, size)`:
    `memset((char *) tensor->data + offset, value, size)`, whatever the tensor's type. -/
def ggmlBackendAmxBufferMemsetTensor (tensor : Tensor) (value : Byte) (offset size : Nat) (m : Mem) : Mem :=
  m.store (tensor.data + offset) (Patch.bytesAt 0 size fun _ => value)

/-- `ggml_backend_amx_buffer_clear(buffer, value)`: `memset(buffer->context, value, buffer->size)`. -/
def ggmlBackendAmxBufferClear (buffer : Buffer) (value : Byte) (m : Mem) : Mem :=
  m.store buffer.context (Patch.bytesAt 0 buffer.size fun _ => value)

/-- What `ggml_backend_amx_convert_weight(tensor, data, offset, size)` stores, relative to
    `tensor->data`, from the tensor's type and shape and the source bytes. The routine is in
    `mmq.cpp`, which is not among the sources. -/
abbrev ConvertWeight := GgmlType → (Fin 4 → Int) → (Nat → Byte) → Nat → Nat → Patch

/-- The pack-or-copy write of `set_tensor`, relative to `tensor->data`:
    `ggml_backend_amx_convert_weight` for a type with AMX kernels,
    `memcpy((char *) tensor->data + offset, data, size)` otherwise. -/
def packOrCopy (cw : ConvertWeight) (tensor : Tensor) (data : Nat → Byte) (offset size : Nat) : Patch :=
  if qtypeHasAmxKernels tensor.type then cw tensor.type tensor.ne data offset size
  else Patch.bytesAt offset size data

/-! ## `struct ggml_numa_mirror_buffer`

Its fields as the x86-64 layout places them: `magic` at 0, `n_replicas` at 4,
`active_nodes[8]` at 8, `replicas[8]` at 40, `size` at 104, `original_base` at 112 and
`read_only` at 120. `set_tensor` does not read `size`. -/

/-- `GGML_MIRROR_BUFFER_MAGIC`. -/
def ggmlMirrorBufferMagic : Nat := 0x4D49524E

/-- `GGML_NUMA_MAX_NODES`. -/
def ggmlNumaMaxNodes : Nat := 8

/-- `mirror->magic`. -/
def Mem.mirrorMagic (m : Mem) (ctx : Int) : Nat := m.read ctx 4

/-- `mirror->n_replicas`. -/
def Mem.mirrorNReplicas (m : Mem) (ctx : Int) : Nat := m.read (ctx + 4) 4

/-- `mirror->active_nodes[i]`. -/
def Mem.mirrorActiveNode (m : Mem) (ctx : Int) (i : Nat) : Nat := m.read (ctx + 8 + 4 * i) 4

/-- `mirror->replicas[k]`. -/
def Mem.mirrorReplica (m : Mem) (ctx : Int) (k : Nat) : Int := m.read (ctx + 40 + 8 * k) 8

/-- `mirror->original_base`. -/
def Mem.mirrorOriginalBase (m : Mem) (ctx : Int) : Int := m.read (ctx + 112) 8

/-- `mirror->read_only`. -/
def Mem.mirrorReadOnly (m : Mem) (ctx : Int) : Bool := m (ctx + 120) ≠ 0

/-- The test `set_tensor` makes of `buffer->context`: non-null, the magic, more than one
    replica, read-only. -/
def Mem.isMirror (m : Mem) (ctx : Int) : Prop :=
  ctx ≠ 0 ∧ m.mirrorMagic ctx = ggmlMirrorBufferMagic ∧ 1 < m.mirrorNReplicas ctx ∧
    m.mirrorReadOnly ctx = true

instance (m : Mem) (ctx : Int) : Decidable (m.isMirror ctx) :=
  inferInstanceAs (Decidable (_ ∧ _))

/-- `buffer_base`: `mirror->original_base`, or the replica of the first active node. -/
def Mem.mirrorBase (m : Mem) (ctx : Int) : Int :=
  if m.mirrorOriginalBase ctx ≠ 0 then m.mirrorOriginalBase ctx
  else m.mirrorReplica ctx (m.mirrorActiveNode ctx 0)

/-! ## `ggml_backend_amx_buffer_set_tensor` -/

/-- `for (uint32_t i = 0; i < mirror->n_replicas; i++)` from `i`, at most `fuel` more rounds:
    point `tensor->data` at `replicas[active_nodes[i]] + tensor_offset`, convert or copy there,
    and restore `tensor->data`. The header is read again at every round. -/
def replicateLoop (cw : ConvertWeight) (ctx tensorOffset : Int) (data : Nat → Byte)
    (offset size : Nat) : Nat → Nat → Mem × Tensor → Mem × Tensor
  | 0, _, st => st
  | fuel + 1, i, (m, tensor) =>
    if i < m.mirrorNReplicas ctx then
      let originalData := tensor.data
      let tensor := { tensor with data := m.mirrorReplica ctx (m.mirrorActiveNode ctx i) + tensorOffset }
      let m := m.store tensor.data (packOrCopy cw tensor data offset size)
      replicateLoop cw ctx tensorOffset data offset size fuel (i + 1) (m, { tensor with data := originalData })
    else (m, tensor)

/-- `ggml_backend_amx_buffer_set_tensor(buffer, tensor, data, offset, size)` on Linux: memory
    and tensor after it. `data` is the caller's source array. -/
def ggmlBackendAmxBufferSetTensor (cw : ConvertWeight) (buffer : Buffer) (tensor : Tensor)
    (data : Nat → Byte) (offset size : Nat) (m : Mem) : Mem × Tensor :=
  if m.isMirror buffer.context then
    replicateLoop cw buffer.context (tensor.data - m.mirrorBase buffer.context) data offset size
      (2 ^ 32) 0 (m, tensor)
  else (m.store tensor.data (packOrCopy cw tensor data offset size), tensor)

/-- **A context that fails the test gets the plain write.** -/
theorem setTensor_of_not_mirror (cw : ConvertWeight) (buffer : Buffer) (tensor : Tensor)
    (data : Nat → Byte) (offset size : Nat) {m : Mem} (h : ¬ m.isMirror buffer.context) :
    ggmlBackendAmxBufferSetTensor cw buffer tensor data offset size m =
      (m.store tensor.data (packOrCopy cw tensor data offset size), tensor) :=
  if_neg h

theorem packOrCopy_of_not_qtype (cw : ConvertWeight) {tensor : Tensor}
    (h : qtypeHasAmxKernels tensor.type = false) (data : Nat → Byte) (offset size : Nat) :
    packOrCopy cw tensor data offset size = Patch.bytesAt offset size data := by
  simp [packOrCopy, h]

/-- For a type without AMX kernels the loop never calls `ggml_backend_amx_convert_weight`. -/
theorem replicateLoop_convert_irrel (cw cw' : ConvertWeight) (ctx tensorOffset : Int)
    (data : Nat → Byte) (offset size : Nat) :
    ∀ (fuel i : Nat) (m : Mem) (tensor : Tensor), qtypeHasAmxKernels tensor.type = false →
      replicateLoop cw ctx tensorOffset data offset size fuel i (m, tensor) =
        replicateLoop cw' ctx tensorOffset data offset size fuel i (m, tensor)
  | 0, _, _, _, _ => rfl
  | fuel + 1, i, m, tensor, h => by
    simp only [replicateLoop, packOrCopy, h]
    split
    · exact replicateLoop_convert_irrel cw cw' ctx tensorOffset data offset size fuel _ _ _ h
    · rfl

/-! ## A plain buffer whose data looks like a mirror header -/

/-- Bytes of a plain buffer at `0x1000` that read as a mirror header: the magic, two replicas,
    `active_nodes = {0, 1}`, `replicas = {0x1000, 0x9000}`, `read_only` set. -/
def mirrorLookalike : Mem :=
  Mem.store (fun _ => 0) 0x1000
    ((((((Patch.bytesAt 0 4 (leByte ggmlMirrorBufferMagic)).andThen (Patch.bytesAt 4 4 (leByte 2))).andThen
      (Patch.bytesAt 12 4 (leByte 1))).andThen (Patch.bytesAt 40 8 (leByte 0x1000))).andThen
      (Patch.bytesAt 48 8 (leByte 0x9000))).andThen (Patch.bytesAt 120 1 (leByte 1)))

/-- The buffer `ggml_aligned_malloc` gives the plain path: 256 bytes at `0x1000`. -/
def lookalikeBuffer : Buffer := ⟨.amx, ggmlBackendAmxBufferInterface, 0x1000, 0x100⟩

/-- An F32 tensor at byte `0x80` of that buffer. -/
def lookalikeTensor : Tensor := ⟨.f32, .other 0, fun _ => 1, true, 0x1080, some lookalikeBuffer, some .amx, []⟩

/-- **The plain path's data is read as a mirror header.** `ggml_aligned_malloc` returns
    `0x1000` for a 256-byte buffer, whose bytes begin with a mirror header. Writing one byte `7`
    at offset `0` of the tensor at `0x1080` stores it at `0x1080` and again at `0x9080`, outside
    the buffer; the plain write leaves `0x9080` as it was. -/
theorem set_tensor_raw_header (cw : ConvertWeight) :
    ggmlBackendAmxBufferTypeAllocBuffer false none 0x1000 0x100 = some lookalikeBuffer ∧
      (ggmlBackendAmxBufferSetTensor cw lookalikeBuffer lookalikeTensor (fun _ => 7) 0 1
        mirrorLookalike).1 0x9080 = 7 ∧
      mirrorLookalike.store 0x1080 (packOrCopy cw lookalikeTensor (fun _ => 7) 0 1) 0x9080 = 0 := by
  have hf32 : qtypeHasAmxKernels lookalikeTensor.type = false := rfl
  refine ⟨rfl, ?_, ?_⟩
  · rw [ggmlBackendAmxBufferSetTensor, if_pos (by decide), replicateLoop_convert_irrel cw
      (fun _ _ _ _ _ => Patch.empty) _ _ _ _ _ _ _ _ lookalikeTensor hf32]
    decide
  · rw [packOrCopy_of_not_qtype cw hf32]
    decide

/-- **A cleared buffer is never taken for a mirror.** The magic has four different bytes, so no
    `memset` of the context yields it: after `ggml_backend_amx_buffer_clear` on a buffer of at
    least four bytes, `set_tensor` is the plain pack-or-copy write. -/
theorem set_tensor_after_clear (cw : ConvertWeight) (buffer : Buffer) (value : Byte) (m : Mem)
    (hsize : 4 ≤ buffer.size) (tensor : Tensor) (data : Nat → Byte) (offset size : Nat) :
    ggmlBackendAmxBufferSetTensor cw buffer tensor data offset size
        (ggmlBackendAmxBufferClear buffer value m) =
      ((ggmlBackendAmxBufferClear buffer value m).store tensor.data
        (packOrCopy cw tensor data offset size), tensor) := by
  have hmagic : (ggmlBackendAmxBufferClear buffer value m).mirrorMagic buffer.context =
      readLE (fun _ => value) 4 :=
    readLE_congr fun i hi => by
      rw [ggmlBackendAmxBufferClear, Mem.store_apply_add, Patch.bytesAt_of_mem (by omega) (by omega)]
      rfl
  have hv := value.isLt
  refine setTensor_of_not_mirror cw buffer tensor data offset size fun ⟨_, h, _⟩ => ?_
  rw [hmagic, ggmlMirrorBufferMagic] at h
  simp only [readLE, Nat.reducePow] at h hv
  omega

theorem set_tensor_after_clear_lookalike :
    4 ≤ lookalikeBuffer.size ∧
      ggmlBackendAmxBufferSetTensor (fun _ _ _ _ _ => Patch.empty) lookalikeBuffer lookalikeTensor
          (fun _ => 7) 0 1 (ggmlBackendAmxBufferClear lookalikeBuffer 0x4E mirrorLookalike) =
        ((ggmlBackendAmxBufferClear lookalikeBuffer 0x4E mirrorLookalike).store lookalikeTensor.data
          (packOrCopy (fun _ _ _ _ _ => Patch.empty) lookalikeTensor (fun _ => 7) 0 1), lookalikeTensor) :=
  have h : 4 ≤ lookalikeBuffer.size := by decide
  ⟨h, set_tensor_after_clear _ lookalikeBuffer 0x4E mirrorLookalike h lookalikeTensor _ 0 1⟩

/-! ## A well-formed read-only mirror -/

/-- Byte `B + r` after a write at `B + off` depends on `B` only through the byte it held. -/
theorem Mem.store_add_apply (m : Mem) (B off : Int) (p : Patch) (r : Nat) :
    m.store (B + off) p (B + r) =
      if off ≤ r then (p (r - off).toNat).getD (m (B + r)) else m (B + r) := by
  unfold Mem.store
  simp only [show B + r - (B + off) = r - off by omega, show B + off ≤ B + r ↔ off ≤ r by omega]

/-- The start of the `k`-th active replica, `replicas[active_nodes[k]]`. -/
def Mem.replicaOf (m : Mem) (ctx : Int) (k : Nat) : Int := m.mirrorReplica ctx (m.mirrorActiveNode ctx k)

/-- `a` lies in the region of `S` bytes of an active replica. -/
def Mem.InReplicas (m : Mem) (ctx : Int) (S : Nat) (a : Int) : Prop :=
  ∃ k < m.mirrorNReplicas ctx, m.replicaOf ctx k ≤ a ∧ a < m.replicaOf ctx k + S

/-- A mirror header at `ctx` that passes the test, with at most `GGML_NUMA_MAX_NODES` replicas
    on distinct nodes below it, whose regions of `S` bytes are pairwise disjoint. The header and
    the replicas are distinct allocations, so no region overlaps the header's 128 bytes. -/
structure MirrorCtx (m : Mem) (ctx : Int) (S : Nat) : Prop where
  isMirror : m.isMirror ctx
  replicas_le : m.mirrorNReplicas ctx ≤ ggmlNumaMaxNodes
  node_lt : ∀ i < m.mirrorNReplicas ctx, m.mirrorActiveNode ctx i < ggmlNumaMaxNodes
  node_inj : ∀ i < m.mirrorNReplicas ctx, ∀ j < m.mirrorNReplicas ctx,
    m.mirrorActiveNode ctx i = m.mirrorActiveNode ctx j → i = j
  disjoint : ∀ i < m.mirrorNReplicas ctx, ∀ j < m.mirrorNReplicas ctx, i ≠ j →
    m.replicaOf ctx i + S ≤ m.replicaOf ctx j ∨ m.replicaOf ctx j + S ≤ m.replicaOf ctx i
  apart : ∀ i < m.mirrorNReplicas ctx, m.replicaOf ctx i + S ≤ ctx ∨ ctx + 128 ≤ m.replicaOf ctx i

/-- The active replicas hold the same `S` bytes. -/
def ReplicasAgree (m : Mem) (ctx : Int) (S : Nat) : Prop :=
  ∀ i < m.mirrorNReplicas ctx, ∀ j < m.mirrorNReplicas ctx, ∀ r < S,
    m (m.replicaOf ctx i + r) = m (m.replicaOf ctx j + r)

instance (m : Mem) (ctx : Int) (S : Nat) : Decidable (ReplicasAgree m ctx S) := by
  unfold ReplicasAgree; infer_instance

/-- Every byte the write `p` at `tensor->data` stores lies in the base region
    `[buffer_base, buffer_base + S)`. -/
def InsideBase (m : Mem) (ctx : Int) (S : Nat) (p : Patch) (tensorData : Int) : Prop :=
  ∀ r, (p r).isSome → m.mirrorBase ctx ≤ tensorData + r ∧ tensorData + r < m.mirrorBase ctx + S

section Header

variable {m m' : Mem} {ctx : Int} (hh : ∀ q : Nat, q < 128 → m (ctx + q) = m' (ctx + q))
include hh

theorem read_header {o : Int} {w : Nat} (ho : 0 ≤ o) (how : o + w ≤ 128) :
    m.read (ctx + o) w = m'.read (ctx + o) w :=
  Mem.read_congr fun i hi => by
    have := hh (o + i).toNat (by omega)
    rwa [show ctx + ((o + i).toNat : Int) = ctx + o + i by omega] at this

theorem nReplicas_header : m.mirrorNReplicas ctx = m'.mirrorNReplicas ctx :=
  read_header hh (by decide) (by decide)

theorem activeNode_header {i : Nat} (hi : i < 8) : m.mirrorActiveNode ctx i = m'.mirrorActiveNode ctx i := by
  simp only [Mem.mirrorActiveNode, Int.add_assoc]
  exact read_header hh (by omega) (by omega)

theorem replica_header {k : Nat} (hk : k < 8) : m.mirrorReplica ctx k = m'.mirrorReplica ctx k := by
  simp only [Mem.mirrorReplica, Int.add_assoc]
  rw [read_header hh (by omega) (by omega)]

theorem isMirror_header : m.isMirror ctx ↔ m'.isMirror ctx := by
  have hmagic : m.mirrorMagic ctx = m'.mirrorMagic ctx := by
    simpa [Mem.mirrorMagic] using
      read_header hh (show (0 : Int) ≤ 0 by decide) (show (0 : Int) + ((4 : Nat) : Int) ≤ 128 by decide)
  have h120 : m (ctx + 120) = m' (ctx + 120) := hh 120 (by decide)
  simp only [Mem.isMirror, hmagic, nReplicas_header hh, Mem.mirrorReadOnly, h120]

theorem mirrorBase_header (h0 : m.mirrorActiveNode ctx 0 < 8) : m.mirrorBase ctx = m'.mirrorBase ctx := by
  have horig : m.mirrorOriginalBase ctx = m'.mirrorOriginalBase ctx := by
    simp only [Mem.mirrorOriginalBase]
    rw [read_header hh (by decide) (by decide)]
  simp only [Mem.mirrorBase, horig, ← activeNode_header hh (show 0 < 8 by decide), replica_header hh h0]

end Header

theorem replicaOf_header {m m' : Mem} {ctx : Int} {S : Nat} (hc : MirrorCtx m ctx S)
    (hh : ∀ q : Nat, q < 128 → m (ctx + q) = m' (ctx + q)) {i : Nat} (hi : i < m.mirrorNReplicas ctx) :
    m.replicaOf ctx i = m'.replicaOf ctx i := by
  have h8 := hc.replicas_le
  unfold ggmlNumaMaxNodes at h8
  rw [Mem.replicaOf, Mem.replicaOf, ← activeNode_header hh (by omega),
    replica_header hh (hc.node_lt i hi)]

/-- **The header is all a `MirrorCtx` reads.** -/
theorem MirrorCtx.of_header {m m' : Mem} {ctx : Int} {S : Nat} (hc : MirrorCtx m ctx S)
    (hh : ∀ q : Nat, q < 128 → m (ctx + q) = m' (ctx + q)) : MirrorCtx m' ctx S := by
  have h8 := hc.replicas_le
  unfold ggmlNumaMaxNodes at h8
  have hn := nReplicas_header hh
  have hnode : ∀ i < m.mirrorNReplicas ctx, m.mirrorActiveNode ctx i = m'.mirrorActiveNode ctx i :=
    fun i hi => activeNode_header hh (by omega)
  have hrep : ∀ i < m.mirrorNReplicas ctx, m.replicaOf ctx i = m'.replicaOf ctx i :=
    fun i hi => replicaOf_header hc hh hi
  refine ⟨(isMirror_header hh).mp hc.isMirror, hn ▸ hc.replicas_le, fun i hi => ?_,
    fun i hi j hj => ?_, fun i hi j hj hij => ?_, fun i hi => ?_⟩ <;> rw [← hn] at *
  · rw [← hnode i hi]; exact hc.node_lt i hi
  · rw [← hnode i hi, ← hnode j hj]; exact hc.node_inj i hi j hj
  · rw [← hrep i hi, ← hrep j hj]; exact hc.disjoint i hi j hj hij
  · rw [← hrep i hi]; exact hc.apart i hi

/-! ## The replication loop -/

section Replicate

variable {m : Mem} {ctx : Int} {S : Nat} {off : Int} {p : Patch}

/-- Memory after `i` rounds of the loop started on `m`: replica `k < i` has the write `p` at
    `off` in its region, every other byte is as in `m`. -/
def LoopState (m : Mem) (ctx : Int) (S : Nat) (off : Int) (p : Patch) (i : Nat) (m' : Mem) : Prop :=
  (∀ a, ¬ m.InReplicas ctx S a → m' a = m a) ∧
    ∀ k < m.mirrorNReplicas ctx, ∀ r < S, m' (m.replicaOf ctx k + r) =
      if k < i then m.store (m.replicaOf ctx k + off) p (m.replicaOf ctx k + r)
      else m (m.replicaOf ctx k + r)

theorem LoopState.start : LoopState m ctx S off p 0 m :=
  ⟨fun _ _ => rfl, fun _ _ _ _ => rfl⟩

/-- The loop never writes the header. -/
theorem LoopState.header (hc : MirrorCtx m ctx S) {i : Nat} {m' : Mem} (hs : LoopState m ctx S off p i m') :
    ∀ q : Nat, q < 128 → m (ctx + q) = m' (ctx + q) := fun q hq =>
  (hs.1 _ fun ⟨k, hk, h₁, h₂⟩ => by have := hc.apart k hk; omega).symm

/-- **Step lemma.** Round `i` writes `p` into replica `i`'s region and nowhere else. -/
theorem LoopState.step (hc : MirrorCtx m ctx S) (hp : ∀ r, (p r).isSome → 0 ≤ off + r ∧ off + r < S)
    {i : Nat} {m' : Mem} (hi : i < m.mirrorNReplicas ctx) (hs : LoopState m ctx S off p i m') :
    LoopState m ctx S off p (i + 1) (m'.store (m.replicaOf ctx i + off) p) := by
  have hframe : ∀ a, (∀ r, 0 ≤ off + r → off + r < S → m.replicaOf ctx i + off + r ≠ a) →
      m'.store (m.replicaOf ctx i + off) p a = m' a := fun a ha =>
    Mem.store_apply_of_none fun r hr => by
      cases h : p r with
      | none => rfl
      | some b =>
        obtain ⟨h₁, h₂⟩ := hp r (by simp [h])
        exact absurd hr (ha r h₁ h₂)
  refine ⟨fun a ha => ?_, fun k hk r hr => ?_⟩
  · rw [hframe a fun r h₁ h₂ h => ha ⟨i, hi, by omega, by omega⟩, hs.1 a ha]
  · by_cases hki : k = i
    · subst hki
      rw [Mem.store_add_apply, Mem.store_add_apply, if_pos (Nat.lt_succ_self k),
        hs.2 k hk r hr, if_neg (Nat.lt_irrefl k)]
    · have := hc.disjoint i hi k hk (Ne.symm hki)
      rw [hframe _ fun r' h₁ h₂ => by omega, hs.2 k hk r hr]
      simp only [show k < i + 1 ↔ k < i by omega]

/-- `convert_weight` and `memcpy` read the tensor's type and shape, not `tensor->data`. -/
@[simp] theorem packOrCopy_data (cw : ConvertWeight) (tensor : Tensor) (x : Int) (data : Nat → Byte)
    (offset size : Nat) :
    packOrCopy cw { tensor with data := x } data offset size = packOrCopy cw tensor data offset size :=
  rfl

/-- Restoring `tensor->data` gives back the tensor. -/
@[simp] theorem Tensor.update_data_self (t : Tensor) : { t with data := t.data } = t := by
  cases t; rfl

/-- **Run lemma.** From round `i ≤ n_replicas` with enough fuel, the loop finishes the remaining
    rounds, hands back the tensor it was given and ends in the state of `n_replicas` rounds. -/
theorem replicateLoop_spec (hc : MirrorCtx m ctx S) (cw : ConvertWeight) (tensor : Tensor)
    (data : Nat → Byte) (offset size : Nat)
    (hp : ∀ r, (packOrCopy cw tensor data offset size r).isSome → 0 ≤ off + r ∧ off + r < S) :
    ∀ fuel i m', i ≤ m.mirrorNReplicas ctx → m.mirrorNReplicas ctx ≤ i + fuel →
      LoopState m ctx S off (packOrCopy cw tensor data offset size) i m' →
      (replicateLoop cw ctx off data offset size fuel i (m', tensor)).2 = tensor ∧
        LoopState m ctx S off (packOrCopy cw tensor data offset size) (m.mirrorNReplicas ctx)
          (replicateLoop cw ctx off data offset size fuel i (m', tensor)).1
  | 0, i, m', hi, hf, hs => by
    obtain rfl : i = m.mirrorNReplicas ctx := by omega
    exact ⟨rfl, hs⟩
  | fuel + 1, i, m', hi, hf, hs => by
    have hh := hs.header hc
    rw [replicateLoop, ← nReplicas_header hh]
    by_cases hlt : i < m.mirrorNReplicas ctx
    · have hrep : m.replicaOf ctx i = m'.mirrorReplica ctx (m'.mirrorActiveNode ctx i) :=
        replicaOf_header hc hh hlt
      rw [if_pos hlt]
      dsimp only
      rw [packOrCopy_data, Tensor.update_data_self, ← hrep]
      exact replicateLoop_spec hc cw tensor data offset size hp fuel (i + 1) _ hlt (by omega)
        (hs.step hc hp hlt)
    · obtain rfl : i = m.mirrorNReplicas ctx := by omega
      rw [if_neg hlt]
      exact ⟨rfl, hs⟩

/-- After all rounds, replicas that agreed before agree again. -/
theorem LoopState.agree (hc : MirrorCtx m ctx S) (hagree : ReplicasAgree m ctx S) {m' : Mem}
    (hs : LoopState m ctx S off p (m.mirrorNReplicas ctx) m') : ReplicasAgree m' ctx S := by
  intro i hi j hj r hr
  have hh := hs.header hc
  rw [← nReplicas_header hh] at hi hj
  rw [← replicaOf_header hc hh hi, ← replicaOf_header hc hh hj, hs.2 i hi r hr, hs.2 j hj r hr,
    if_pos hi, if_pos hj, Mem.store_add_apply, Mem.store_add_apply, hagree i hi j hj r hr]

end Replicate

theorem inReplicas_header {m m' : Mem} {ctx : Int} {S : Nat} (hc : MirrorCtx m ctx S)
    (hh : ∀ q : Nat, q < 128 → m (ctx + q) = m' (ctx + q)) (a : Int) :
    m.InReplicas ctx S a ↔ m'.InReplicas ctx S a := by
  unfold Mem.InReplicas
  rw [← nReplicas_header hh]
  exact exists_congr fun k => and_congr_right fun hk => by rw [replicaOf_header hc hh hk]

/-- **`set_tensor` on a well-formed mirror.** With the write inside the base region, the call
    returns the tensor unchanged and leaves memory as after all `n_replicas` rounds. -/
theorem setTensor_mirror (cw : ConvertWeight) (buffer : Buffer) (tensor : Tensor)
    (data : Nat → Byte) (offset size : Nat) {m : Mem} {S : Nat} (hc : MirrorCtx m buffer.context S)
    (hin : InsideBase m buffer.context S (packOrCopy cw tensor data offset size) tensor.data) :
    (ggmlBackendAmxBufferSetTensor cw buffer tensor data offset size m).2 = tensor ∧
      LoopState m buffer.context S (tensor.data - m.mirrorBase buffer.context)
        (packOrCopy cw tensor data offset size) (m.mirrorNReplicas buffer.context)
        (ggmlBackendAmxBufferSetTensor cw buffer tensor data offset size m).1 := by
  have h8 := hc.replicas_le
  unfold ggmlNumaMaxNodes at h8
  rw [ggmlBackendAmxBufferSetTensor, if_pos hc.isMirror]
  exact replicateLoop_spec hc cw tensor data offset size (fun r hr => by have := hin r hr; omega)
    (2 ^ 32) 0 m (Nat.zero_le _) (by omega) .start

/-! ## Sequences of calls -/

/-- A call `ggml_backend_amx_buffer_set_tensor(buffer, tensor, data, offset, size)`. -/
structure SetTensorCall where
  tensor : Tensor
  data : Nat → Byte
  offset : Nat
  size : Nat

/-- The call's pack-or-copy write, relative to `tensor->data`. -/
def SetTensorCall.write (cw : ConvertWeight) (c : SetTensorCall) : Patch :=
  packOrCopy cw c.tensor c.data c.offset c.size

/-- Memory after the calls, in order. -/
def runSetTensor (cw : ConvertWeight) (buffer : Buffer) : List SetTensorCall → Mem → Mem
  | [], m => m
  | c :: cs, m => runSetTensor cw buffer cs (ggmlBackendAmxBufferSetTensor cw buffer c.tensor c.data c.offset c.size m).1

/-- What every call keeps, relative to the memory `m₀` before the first: the header, agreeing
    replicas, and every byte outside the replica regions. -/
structure MirrorRun (m₀ : Mem) (ctx : Int) (S : Nat) (m : Mem) : Prop where
  header : ∀ q : Nat, q < 128 → m₀ (ctx + q) = m (ctx + q)
  agree : ReplicasAgree m ctx S
  frame : ∀ a, ¬ m₀.InReplicas ctx S a → m a = m₀ a

section Run

variable (cw : ConvertWeight) (buffer : Buffer) {m₀ : Mem} {S : Nat} (hc : MirrorCtx m₀ buffer.context S)
include hc

/-- **Step lemma.** One call inside the base region returns its tensor, keeps `MirrorRun`, and
    leaves in every replica the write relocated there. -/
theorem replicate_step {m : Mem} (hr : MirrorRun m₀ buffer.context S m) (c : SetTensorCall)
    (hin : InsideBase m₀ buffer.context S (c.write cw) c.tensor.data) :
    (ggmlBackendAmxBufferSetTensor cw buffer c.tensor c.data c.offset c.size m).2 = c.tensor ∧
      MirrorRun m₀ buffer.context S (ggmlBackendAmxBufferSetTensor cw buffer c.tensor c.data c.offset c.size m).1 ∧
      ∀ k < m₀.mirrorNReplicas buffer.context, ∀ j < S,
        (ggmlBackendAmxBufferSetTensor cw buffer c.tensor c.data c.offset c.size m).1
            (m₀.replicaOf buffer.context k + j) =
          m.store (m₀.replicaOf buffer.context k + (c.tensor.data - m₀.mirrorBase buffer.context))
            (c.write cw) (m₀.replicaOf buffer.context k + j) := by
  have hc' := hc.of_header hr.header
  have hbase : m₀.mirrorBase buffer.context = m.mirrorBase buffer.context :=
    mirrorBase_header hr.header (hc.node_lt 0 (by have := hc.isMirror.2.2.1; omega))
  obtain ⟨ht, hs⟩ := setTensor_mirror cw buffer c.tensor c.data c.offset c.size hc'
    (fun r h => hbase ▸ hin r h)
  have hn := nReplicas_header hr.header
  refine ⟨ht, ⟨fun q hq => (hr.header q hq).trans (hs.header hc' q hq), hs.agree hc' hr.agree,
    fun a ha => ?_⟩, fun k hk j hj => ?_⟩
  · rw [hs.1 a ((inReplicas_header hc hr.header a).not.mp ha), hr.frame a ha]
  · rw [replicaOf_header hc hr.header hk, hs.2 k (hn ▸ hk) j hj, if_pos (hn ▸ hk), hbase]
    rfl

/-- **Run lemma.** Calls that write inside the base region keep `MirrorRun`. -/
theorem replicate_run : ∀ (calls : List SetTensorCall) (m : Mem), MirrorRun m₀ buffer.context S m →
    (∀ c ∈ calls, InsideBase m₀ buffer.context S (c.write cw) c.tensor.data) →
    MirrorRun m₀ buffer.context S (runSetTensor cw buffer calls m)
  | [], _, hr, _ => hr
  | c :: cs, _, hr, hin => replicate_run cs _ (replicate_step cw buffer hc hr c (hin c (List.mem_cons_self _ _))).2.1
      fun c' h => hin c' (List.mem_cons_of_mem _ h)

end Run

/-- **Writes to a read-only NUMA mirror.** For a well-formed mirror header at `buffer->context`
    whose replicas of `buffer->size` bytes agree, and calls whose writes lie in the base region:
    after every call the replicas agree, each replica holds the write relocated to it, the
    tensor is returned unchanged and no byte outside the replicas differs from the start. A
    context with `read_only` clear or at most one replica gets the plain write. -/
theorem mirror_set_tensor (cw : ConvertWeight) (buffer : Buffer) (m : Mem) (calls : List SetTensorCall)
    (hctx : MirrorCtx m buffer.context buffer.size) (hagree : ReplicasAgree m buffer.context buffer.size)
    (hin : ∀ c ∈ calls, InsideBase m buffer.context buffer.size (c.write cw) c.tensor.data) :
    (∀ pre c post, calls = pre ++ c :: post →
      (ggmlBackendAmxBufferSetTensor cw buffer c.tensor c.data c.offset c.size
          (runSetTensor cw buffer pre m)).2 = c.tensor ∧
        ReplicasAgree (ggmlBackendAmxBufferSetTensor cw buffer c.tensor c.data c.offset c.size
          (runSetTensor cw buffer pre m)).1 buffer.context buffer.size ∧
        (∀ k < m.mirrorNReplicas buffer.context, ∀ j < buffer.size,
          (ggmlBackendAmxBufferSetTensor cw buffer c.tensor c.data c.offset c.size
              (runSetTensor cw buffer pre m)).1 (m.replicaOf buffer.context k + j) =
            (runSetTensor cw buffer pre m).store
              (m.replicaOf buffer.context k + (c.tensor.data - m.mirrorBase buffer.context))
              (c.write cw) (m.replicaOf buffer.context k + j)) ∧
        ∀ a, ¬ m.InReplicas buffer.context buffer.size a →
          (ggmlBackendAmxBufferSetTensor cw buffer c.tensor c.data c.offset c.size
            (runSetTensor cw buffer pre m)).1 a = m a) ∧
    ∀ (m' : Mem) (tensor : Tensor) (data : Nat → Byte) (offset size : Nat),
      (m'.mirrorReadOnly buffer.context = false ∨ m'.mirrorNReplicas buffer.context ≤ 1) →
      ggmlBackendAmxBufferSetTensor cw buffer tensor data offset size m' =
        (m'.store tensor.data (packOrCopy cw tensor data offset size), tensor) := by
  refine ⟨fun pre c post hcalls => ?_, fun m' tensor data offset size h =>
    setTensor_of_not_mirror cw buffer tensor data offset size fun ⟨_, _, h₁, h₂⟩ => ?_⟩
  · subst hcalls
    have hr := replicate_run cw buffer hctx pre m ⟨fun _ _ => rfl, hagree, fun _ _ => rfl⟩
      fun c' h => hin c' (List.mem_append_left _ h)
    obtain ⟨ht, hr', hcont⟩ := replicate_step cw buffer hctx hr c
      (hin c (List.mem_append_right _ (List.mem_cons_self _ _)))
    exact ⟨ht, hr'.agree, hcont, hr'.frame⟩
  · rcases h with h | h
    · rw [h₂] at h; exact Bool.noConfusion h
    · omega

/-- A read-only mirror at `0x1000` with two replicas of 16 bytes at `0x2000` and `0x3000`, on
    nodes `0` and `1`, and no `original_base`; every other byte is `0`. -/
def twoReplicaMirror : Mem :=
  Mem.store (fun _ => 0) 0x1000
    ((((((Patch.bytesAt 0 4 (leByte ggmlMirrorBufferMagic)).andThen (Patch.bytesAt 4 4 (leByte 2))).andThen
      (Patch.bytesAt 12 4 (leByte 1))).andThen (Patch.bytesAt 40 8 (leByte 0x2000))).andThen
      (Patch.bytesAt 48 8 (leByte 0x3000))).andThen (Patch.bytesAt 120 1 (leByte 1)))

/-- The mirror's buffer: context `0x1000`, 16 bytes. -/
def mirrorBuffer : Buffer := ⟨.amx, ggmlBackendAmxBufferInterface, 0x1000, 16⟩

/-- Four bytes `7` at offset `0` of an F32 tensor at byte `4` of the base replica. -/
def mirrorCall : SetTensorCall :=
  ⟨⟨.f32, .other 0, fun _ => 1, true, 0x2004, some mirrorBuffer, some .amx, []⟩, fun _ => 7, 0, 4⟩

theorem mirror_set_tensor_two_replicas :
    MirrorCtx twoReplicaMirror 0x1000 16 ∧ ReplicasAgree twoReplicaMirror 0x1000 16 ∧
      (ggmlBackendAmxBufferSetTensor (fun _ _ _ _ _ => Patch.empty) mirrorBuffer mirrorCall.tensor
        mirrorCall.data mirrorCall.offset mirrorCall.size twoReplicaMirror).1 0x3005 = 7 := by
  have hctx : MirrorCtx twoReplicaMirror mirrorBuffer.context mirrorBuffer.size :=
    ⟨by decide, by decide, by decide, by decide, by decide, by decide⟩
  have hagree : ReplicasAgree twoReplicaMirror mirrorBuffer.context mirrorBuffer.size := by decide
  have hin : ∀ c ∈ [mirrorCall], InsideBase twoReplicaMirror mirrorBuffer.context mirrorBuffer.size
      (c.write fun _ _ _ _ _ => Patch.empty) c.tensor.data := by
    intro c hc r hr
    rw [List.mem_singleton] at hc
    subst hc
    rw [SetTensorCall.write, packOrCopy_of_not_qtype _
      (show qtypeHasAmxKernels mirrorCall.tensor.type = false from rfl)] at hr
    dsimp only [mirrorCall, mirrorBuffer] at hr ⊢
    have hr4 : r < 4 := by
      by_contra h
      rw [Patch.bytesAt_of_not_mem (by omega)] at hr
      exact absurd hr (by decide)
    have hb : twoReplicaMirror.mirrorBase 0x1000 = 0x2000 := by decide
    rw [hb]
    constructor <;> omega
  have hcont := ((mirror_set_tensor _ mirrorBuffer twoReplicaMirror [mirrorCall] hctx hagree hin).1
    [] mirrorCall [] rfl).2.2.1 1 (by decide) 5 (by decide)
  have hat : twoReplicaMirror.replicaOf mirrorBuffer.context 1 + ((5 : Nat) : Int) = 0x3005 := by decide
  rw [hat] at hcont
  exact ⟨hctx, hagree, hcont.trans (by decide)⟩

end AmxBackend
