import Mathlib.Data.BitVec

/-!
# `AmxBackend.Memory` — byte memory, writes relative to a pointer, little-endian fields

The backend touches raw memory in three places: the weight packer stores a packed tile at
`packed_B`, the buffer's `set_tensor` stores a converted or copied tensor at `tensor->data`, and
`set_tensor` reads a `ggml_numa_mirror_buffer` out of `buffer->context`. This module fixes the
memory model they share.

* `Mem` — byte-addressed memory over integer addresses. The code only adds offsets to pointers
  and subtracts two pointers; over `Int` both are exact, and they agree with C's wrapping 64-bit
  pointer arithmetic wherever the result is an address the program may touch.
* `Patch` — a write described relative to its base pointer: the byte stored at each offset, or
  `none`. `Mem.store` performs one, `Patch.andThen` sequences two (the later byte wins) and
  `Patch.loop` is a counted loop of writes. Every store of the code is built from these, so
  one frame lemma (`Mem.store_apply_of_none`) and one read-back lemma (`Mem.store_apply_add`)
  serve all of them.
* `leByte` / `readLE` — little-endian encoding and decoding of multi-byte fields, with the
  round trip `readLE_leByte`.
-/

namespace AmxBackend

/-- One byte of memory, `uint8_t`. -/
abbrev Byte := BitVec 8

/-- Byte-addressed memory; addresses are integers. -/
abbrev Mem := Int → Byte

/-- A write relative to a base pointer: for each offset, the byte it stores there, or `none`. -/
abbrev Patch := Nat → Option Byte

namespace Patch

/-- The write that stores nothing. -/
def empty : Patch := fun _ => none

/-- `p` followed by `q`; where both store a byte, `q`'s is the one left in memory. -/
def andThen (p q : Patch) : Patch := fun r =>
  match q r with
  | some b => some b
  | none => p r

/-- The `n` bytes `bs 0, …, bs (n-1)` stored at offsets `o, …, o+n-1`: a `memcpy`, a vector
    store, or a scalar field. -/
def bytesAt (o n : Nat) (bs : Nat → Byte) : Patch := fun r =>
  if o ≤ r ∧ r < o + n then some (bs (r - o)) else none

/-- `for (i = 0; i < c; ++i)` performing the write `f i`. -/
def loop : Nat → (Nat → Patch) → Patch
  | 0, _ => empty
  | c + 1, f => (loop c f).andThen (f c)

/-- A local array (`int8_t tmp[...]`) holding `init` after the writes `p`. -/
def run (p : Patch) (init : Nat → Byte) : Nat → Byte := fun r => (p r).getD (init r)

variable {p q : Patch} {r : Nat}

@[simp] theorem empty_apply (r : Nat) : empty r = none := rfl

theorem andThen_apply_of_some {b : Byte} (h : q r = some b) : p.andThen q r = some b := by
  simp [andThen, h]

theorem andThen_apply_of_none (h : q r = none) : p.andThen q r = p r := by
  simp [andThen, h]

theorem bytesAt_of_mem {o n : Nat} {bs : Nat → Byte} (h₁ : o ≤ r) (h₂ : r < o + n) :
    bytesAt o n bs r = some (bs (r - o)) := if_pos ⟨h₁, h₂⟩

theorem bytesAt_of_not_mem {o n : Nat} {bs : Nat → Byte} (h : r < o ∨ o + n ≤ r) :
    bytesAt o n bs r = none := if_neg (by omega)

/-- A loop none of whose writes stores at `r` stores nothing there. -/
theorem loop_apply_none {f : Nat → Patch} :
    ∀ {c : Nat}, (∀ j < c, f j r = none) → loop c f r = none
  | 0, _ => rfl
  | c + 1, h => by
    rw [loop, andThen_apply_of_none (h c (by omega))]
    exact loop_apply_none fun j hj => h j (by omega)

/-- **A loop of disjoint writes.** If no iteration but `i` stores at `r`, the loop stores there
    what iteration `i` does. -/
theorem loop_apply_eq {f : Nat → Patch} {i : Nat} :
    ∀ {c : Nat}, i < c → (∀ j < c, j ≠ i → f j r = none) → loop c f r = f i r
  | 0, hi, _ => absurd hi (Nat.not_lt_zero _)
  | c + 1, hi, h => by
    rw [loop]
    by_cases hc : i = c
    · subst hc
      cases hf : f i r with
      | some b => exact andThen_apply_of_some hf
      | none =>
        rw [andThen_apply_of_none hf]
        exact loop_apply_none fun j hj => h j (by omega) (by omega)
    · rw [andThen_apply_of_none (h c (by omega) (Ne.symm hc))]
      exact loop_apply_eq (by omega) fun j hj hji => h j (by omega) hji

end Patch

namespace Mem

/-- `m` after the write `p` at the base pointer `base`. -/
def store (m : Mem) (base : Int) (p : Patch) : Mem := fun a =>
  if base ≤ a then (p (a - base).toNat).getD (m a) else m a

variable {m : Mem} {base a : Int} {p q : Patch}

/-- **Read-back.** The byte at offset `r` is the one the write stores there, if any. -/
theorem store_apply_add (r : Nat) : m.store base p (base + r) = (p r).getD (m (base + r)) := by
  have hr : (base + r - base).toNat = r := by omega
  simp only [store, if_pos (by omega : base ≤ base + r), hr]

/-- **Frame.** An address the write does not store to keeps its byte. -/
theorem store_apply_of_none (h : ∀ r : Nat, base + r = a → p r = none) : m.store base p a = m a := by
  unfold store
  split
  · have hr : base + ((a - base).toNat : Int) = a := by omega
    rw [h _ hr]
    rfl
  · rfl

theorem store_andThen : m.store base (p.andThen q) = (m.store base p).store base q := by
  funext a
  simp only [store]
  split
  · cases hq : q (a - base).toNat <;> simp [Patch.andThen, hq]
  · rfl

end Mem

/-! ## Little-endian fields -/

/-- Byte `i` of the little-endian encoding of `x`. -/
def leByte (x i : Nat) : Byte := BitVec.ofNat 8 (x / 256 ^ i)

/-- The `n`-byte little-endian number held in `bs 0, …, bs (n-1)`. -/
def readLE (bs : Nat → Byte) : Nat → Nat
  | 0 => 0
  | n + 1 => (bs 0).toNat + 256 * readLE (fun i => bs (i + 1)) n

theorem readLE_congr {bs bs' : Nat → Byte} :
    ∀ {n : Nat}, (∀ i < n, bs i = bs' i) → readLE bs n = readLE bs' n
  | 0, _ => rfl
  | n + 1, h => by
    simp only [readLE, h 0 (by omega), readLE_congr (n := n) fun i hi => h (i + 1) (by omega)]

/-- **Round trip.** Decoding the `n`-byte encoding of `x` gives `x` modulo `256 ^ n`. -/
theorem readLE_leByte : ∀ (x n : Nat), readLE (leByte x) n = x % 256 ^ n
  | x, 0 => by simp [readLE, Nat.mod_one]
  | x, n + 1 => by
    have hshift : (fun i => leByte x (i + 1)) = leByte (x / 256) := by
      funext i
      simp only [leByte, Nat.pow_succ', Nat.div_div_eq_div_mul]
    rw [readLE, hshift, readLE_leByte (x / 256) n, Nat.pow_succ', Nat.mod_mul]
    simp [leByte]

theorem readLE_lt (bs : Nat → Byte) : ∀ n : Nat, readLE bs n < 256 ^ n
  | 0 => by simp [readLE]
  | n + 1 => by
    have h₁ := (bs 0).isLt
    have h₂ := readLE_lt (fun i => bs (i + 1)) n
    simp only [readLE, Nat.pow_succ']
    simp only [Nat.reducePow] at h₁
    omega

/-- **Round trip, the other way.** Byte `i` of the encoding of a decoded field is byte `i` of
    the field. -/
theorem leByte_readLE (bs : Nat → Byte) : ∀ {n i : Nat}, i < n → leByte (readLE bs n) i = bs i
  | n + 1, 0, _ => by
    apply BitVec.eq_of_toNat_eq
    simpa [leByte, readLE] using (bs 0).isLt
  | n + 1, i + 1, hi => by
    have ih := leByte_readLE (fun i => bs (i + 1)) (Nat.lt_of_succ_lt_succ hi)
    have h₀ := (bs 0).isLt
    simp only [leByte] at ih ⊢
    rw [readLE, Nat.pow_succ', ← Nat.div_div_eq_div_mul,
      show ((bs 0).toNat + 256 * readLE (fun i => bs (i + 1)) n) / 256 =
        readLE (fun i => bs (i + 1)) n by omega, ih]

/-- The `n`-byte little-endian field at address `a`. -/
def Mem.read (m : Mem) (a : Int) (n : Nat) : Nat := readLE (fun i => m (a + i)) n

/-- A field read depends only on the bytes it covers. -/
theorem Mem.read_congr {m m' : Mem} {a : Int} {n : Nat} (h : ∀ i < n, m (a + i) = m' (a + i)) :
    m.read a n = m'.read a n :=
  readLE_congr h

end AmxBackend
