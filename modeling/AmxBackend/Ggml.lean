import Mathlib.Data.Fintype.Basic
import AmxBackend.Memory

/-!
# `AmxBackend.Ggml` — the parts of the ggml data model the backend reads

The tensor library is an external collaborator; this module keeps only what the backend's code
reads of it:

* `GgmlType` / `GgmlOp` — the element types and operators the backend tells apart
  (`qtypeHasAmxKernels`, `ggmlAmxCanHandle`, `GGML_OP_MUL_MAT`);
* the three quantisation blocks the packer converts (`BlockQ4_0`, `BlockQ4_1`, `BlockQ8_0`),
  with their decoding from the bytes of a weight array (`(const block_q4_0 *) weights`);
* `Tensor` and `Buffer` — the fields of `ggml_tensor` and `ggml_backend_buffer` that
  `set_tensor`, `init_tensor`, `supports_op` and the dispatcher use. The opaque `extra` pointer
  is a closed variant `Traits`: the AMX `tensor_traits` or a foreign object.
-/

namespace AmxBackend

/-! ## Element types and operators -/

/-- `enum ggml_type`, with the types the backend names; every other type is `other`. -/
inductive GgmlType
  | f32 | f16 | q4_0 | q4_1 | q8_0 | q4_K | q5_K | q6_K | iq4_xs
  | other (id : Nat)
  deriving DecidableEq, Repr

/-- `qtype_has_amx_kernels` (common.h): the quantised types `set_tensor` converts instead of
    copying. -/
def qtypeHasAmxKernels (type : GgmlType) : Bool :=
  type = .q4_0 || type = .q4_1 || type = .q8_0 || type = .q4_K || type = .q5_K ||
    type = .q6_K || type = .iq4_xs

/-- `ggml_amx_can_handle`: the types with a `pack_B` routine. -/
def ggmlAmxCanHandle : GgmlType → Bool
  | .q4_0 | .q4_1 | .q8_0 => true
  | _ => false

/-- `enum ggml_op`; the backend only tests for `GGML_OP_MUL_MAT`. -/
inductive GgmlOp
  | mulMat | getRows
  | other (id : Nat)
  deriving DecidableEq, Repr

/-! ## Quantisation blocks

`ggml_half` is kept as its 16 bits: the packer moves scales without converting them. -/

/-- `block_q4_0`: a scale and 32 four-bit quants, two per byte (18 bytes). -/
@[ext]
structure BlockQ4_0 where
  d : BitVec 16
  qs : Fin 16 → Byte
  deriving DecidableEq

/-- `block_q4_1`: a scale, a min and 32 four-bit quants (20 bytes). -/
@[ext]
structure BlockQ4_1 where
  d : BitVec 16
  m : BitVec 16
  qs : Fin 16 → Byte
  deriving DecidableEq

/-- `block_q8_0`: a scale and 32 `int8_t` quants (34 bytes). -/
@[ext]
structure BlockQ8_0 where
  d : BitVec 16
  qs : Fin 32 → Byte
  deriving DecidableEq

/-- The `ggml_half` stored little-endian at `bs 0, bs 1`. -/
def halfAt (bs : Nat → Byte) : BitVec 16 := BitVec.ofNat 16 (readLE bs 2)

/-- Block `i` of a weight array read as `const block_q4_0 *`; `w` gives the array's bytes,
    indexed from the array's start. -/
def BlockQ4_0.ofBytes (w : Int → Byte) (i : Int) : BlockQ4_0 where
  d := halfAt fun j => w (18 * i + j)
  qs := fun j => w (18 * i + 2 + j)

/-- Block `i` of a weight array read as `const block_q4_1 *`. -/
def BlockQ4_1.ofBytes (w : Int → Byte) (i : Int) : BlockQ4_1 where
  d := halfAt fun j => w (20 * i + j)
  m := halfAt fun j => w (20 * i + 2 + j)
  qs := fun j => w (20 * i + 4 + j)

/-- Block `i` of a weight array read as `const block_q8_0 *`. -/
def BlockQ8_0.ofBytes (w : Int → Byte) (i : Int) : BlockQ8_0 where
  d := halfAt fun j => w (34 * i + j)
  qs := fun j => w (34 * i + 2 + j)

/-- `sizeof` of the block a type's weight array is read as; `0` for a type with no block the
    packer reads. -/
def blockBytes : GgmlType → Nat
  | .q4_0 => 18
  | .q4_1 => 20
  | .q8_0 => 34
  | _ => 0

/-! ## Buffers, tensors, traits -/

/-- The buffer type a buffer reports in `buffer->buft`: this backend's
    (`ggml_backend_amx_buffer_type()`), the CPU one, or another backend's, with what
    `ggml_backend_buft_is_host` answers for it. -/
inductive Buft
  | amx | cpu
  | other (id : Nat) (host : Bool)
  deriving DecidableEq, Repr

/-- `ggml_backend_buft_is_host`: the AMX buffer type answers `true`
    (`ggml_backend_amx_buffer_type_is_host`), as does the CPU one. -/
def Buft.isHost : Buft → Bool
  | .amx | .cpu => true
  | .other _ host => host

/-- The implementation an interface slot of a buffer points to. -/
inductive Impl
  | amx | cpu
  deriving DecidableEq, Repr

/-- The slots of `ggml_backend_buffer_i` that the mirror path of the allocator overrides. -/
structure BufferIface where
  initTensor : Impl
  setTensor : Impl
  deriving DecidableEq, Repr

/-- `ggml_backend_buffer`: its type, interface, context pointer and size. -/
structure Buffer where
  buft : Buft
  iface : BufferIface
  context : Int
  size : Nat
  deriving DecidableEq, Repr

/-- The object a tensor's `extra` pointer designates. The repository defines one
    `tensor_traits`, the AMX one; any other object the field may hold is `foreign`, and what its
    methods do is a parameter of the dispatcher. -/
inductive Traits
  | amx
  | foreign (id : Nat)
  deriving DecidableEq, Repr

/-- `ggml_tensor`, with the fields the backend reads. `contiguous` is what `ggml_is_contiguous`
    answers for it (it is computed by the tensor library from `ne`, `nb` and the type). -/
structure Tensor where
  type : GgmlType
  op : GgmlOp
  ne : Fin 4 → Int
  contiguous : Bool
  data : Int
  buffer : Option Buffer
  extra : Option Traits
  src : List (Option Tensor)

/-- `t->src[i]`, `NULL` past the sources the tensor has. -/
def Tensor.srcAt (t : Tensor) (i : Nat) : Option Tensor := (t.src[i]?).join

theorem Tensor.mem_src_of_srcAt {t s : Tensor} {i : Nat} (h : t.srcAt i = some s) : some s ∈ t.src := by
  unfold Tensor.srcAt at h
  cases h' : t.src[i]? with
  | none => rw [h'] at h; exact Option.noConfusion h
  | some o => rw [h'] at h; exact (show o = some s from h) ▸ List.getElem?_mem h'

end AmxBackend
