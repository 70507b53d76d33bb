import AmxBackend.Compensation

/-!
# `AmxBackend.Parallel` — `balance211` and `parallel_for_ggml`

The AMX matrix kernels split `n` rows among the `nth` threads of a graph computation with
`balance211`, in the partition of PyTorch's ATen that the code compiles (the oneDNN partition
stands under `#if 0`): every thread gets a block of `n_my = div_up(n, nth)` rows from
`ith · n_my`, cut at `n`, so the last blocks are shorter or empty. `parallel_for_ggml` hands
thread `params->ith` its block.

The arithmetic is on `int`. `balance211_partition` shows that with `n + nth ≤ 2^31 - 1` no
expression leaves `int`, so the model computes on `Int` without wrapping.

* `divUp_mul_bounds` — `nth` blocks of `div_up(n, nth)` rows hold the `n` rows, with fewer than
  `nth` rows to spare;
* `balance211_subset`, `balance211_apart`, `balance211_cover` — a block lies in `[0, n)`, a later
  thread's block starts where an earlier one may end, and every row is in some block;
* `balance211_partition` — the blocks of the `nth` threads partition `[0, n)`, and
  `parallel_for_ggml` gives every row to exactly one thread;
* `parallel_for_rows` — the OpenMP branch of `parallel_for` hands out the rows of the serial
  branch's one call `f(0, n)`: the threads' blocks, read in thread order, list `0, …, n - 1`.
-/

namespace AmxBackend

/-- `div_up(x, y)`: `(x + y - 1) / y`. -/
def divUp (x y : Int) : Int := (x + y - 1).tdiv y

/-- `balance211(n, nth, ith, n_start, n_end)`: `(n_start, n_end)` with `n_my = div_up(n, nth)`,
    `n_start = ith * n_my` and `n_end = std::min(n_start + n_my, n)`. -/
def balance211 (n nth ith : Int) : Int × Int :=
  let nMy := divUp n nth
  let nStart := ith * nMy
  (nStart, min (nStart + nMy) n)

/-- Five rows on four threads: blocks of two, the last one empty. -/
example : [0, 1, 2, 3].map (balance211 5 4) = [(0, 2), (2, 4), (4, 5), (6, 5)] := rfl

/-- `struct ggml_compute_params`, with the fields `parallel_for_ggml` reads. -/
structure ComputeParams where
  ith : Int
  nth : Int

/-- `parallel_for_ggml(params, n, f)`: `f(tbegin, tend)` on the block of thread `params->ith`. -/
def parallelForGgml {α : Type} (params : ComputeParams) (n : Int) (f : Int → Int → α) : α :=
  let r := balance211 n params.nth params.ith
  f r.1 r.2

/-- Row `x` is in the block `[r.1, r.2)`; the block is empty when `r.1 ≥ r.2`. -/
def InBlock (r : Int × Int) (x : Int) : Prop := r.1 ≤ x ∧ x < r.2

instance (r : Int × Int) (x : Int) : Decidable (InBlock r x) :=
  inferInstanceAs (Decidable (_ ∧ _))

/-! ## The partition -/

section Partition

variable {n nth : Int} (hn : 0 ≤ n) (hnth : 0 < nth)
include hn hnth

theorem divUp_eq : divUp n nth = (n + nth - 1) / nth :=
  Int.tdiv_eq_ediv (by omega) (by omega)

theorem divUp_nonneg : 0 ≤ divUp n nth := by
  rw [divUp_eq hn hnth]
  exact Int.ediv_nonneg (by omega) (by omega)

/-- `nth` blocks of `div_up(n, nth)` rows hold the `n` rows, with fewer than `nth` to spare. -/
theorem divUp_mul_bounds : n ≤ divUp n nth * nth ∧ divUp n nth * nth ≤ n + nth - 1 := by
  have h₁ := Int.lt_ediv_add_one_mul_self (n + nth - 1) hnth
  have h₂ := Int.ediv_mul_le (n + nth - 1) (show nth ≠ 0 by omega)
  rw [Int.add_mul, Int.one_mul] at h₁
  rw [divUp_eq hn hnth]
  constructor <;> omega

/-- Threads `ith ≤ nth` start at most `nth` blocks in. -/
theorem mul_divUp_le {ith : Int} (hith : ith ≤ nth) : ith * divUp n nth ≤ n + nth - 1 :=
  (Int.mul_le_mul_of_nonneg_right hith (divUp_nonneg hn hnth)).trans
    (Int.mul_comm nth _ ▸ (divUp_mul_bounds hn hnth).2)

/-- A block lies in `[0, n)`. -/
theorem balance211_subset {ith x : Int} (hith : 0 ≤ ith) (hx : InBlock (balance211 n nth ith) x) :
    0 ≤ x ∧ x < n := by
  have := Int.mul_nonneg hith (divUp_nonneg hn hnth)
  obtain ⟨h₁, h₂⟩ := hx
  simp only [balance211] at h₁ h₂
  omega

/-- An earlier thread's block ends where a later one's starts, or before. -/
theorem balance211_apart {i j x : Int} (hij : i < j) (hi : InBlock (balance211 n nth i) x) :
    ¬ InBlock (balance211 n nth j) x := by
  have h := Int.mul_le_mul_of_nonneg_right (show i + 1 ≤ j by omega) (divUp_nonneg hn hnth)
  rw [Int.add_mul, Int.one_mul] at h
  rintro ⟨hj, -⟩
  obtain ⟨-, hi⟩ := hi
  simp only [balance211] at hi hj
  omega

/-- Row `x` of `[0, n)` is in the block of thread `x / div_up(n, nth)`. -/
theorem balance211_cover {x : Int} (hx : 0 ≤ x) (hxn : x < n) :
    ∃ ith, 0 ≤ ith ∧ ith < nth ∧ InBlock (balance211 n nth ith) x := by
  have hb := divUp_mul_bounds hn hnth
  have hq : 0 < divUp n nth := by
    rcases (divUp_nonneg hn hnth).lt_or_eq with h | h
    · exact h
    · rw [← h, Int.zero_mul] at hb; omega
  have h₁ := Int.ediv_mul_le x (Int.ne_of_gt hq)
  have h₂ := Int.lt_ediv_add_one_mul_self x hq
  rw [Int.add_mul, Int.one_mul] at h₂
  refine ⟨x / divUp n nth, Int.ediv_nonneg hx hq.le,
    Int.ediv_lt_of_lt_mul hq (by rw [Int.mul_comm]; omega), ?_, ?_⟩ <;>
  simp only [balance211] <;> omega

end Partition

/-- **`balance211` partitions the rows among the threads.** For `n ≥ 0` rows and `nth ≥ 1`
    threads with `n + nth ≤ 2^31 - 1`: no `int` expression of `div_up` and `balance211`
    overflows; the blocks of threads `0, …, nth - 1` lie in `[0, n)`, are pairwise disjoint and
    cover `[0, n)`; so `parallel_for_ggml` hands every row of `[0, n)` to exactly one thread. -/
theorem balance211_partition (n nth : Int) (hn : 0 ≤ n) (hnth : 1 ≤ nth)
    (hfit : n + nth ≤ 2 ^ 31 - 1) :
    (IsInt32 (n + nth) ∧ IsInt32 (divUp n nth) ∧
      ∀ ith, 0 ≤ ith → ith < nth →
        IsInt32 (ith * divUp n nth) ∧ IsInt32 (ith * divUp n nth + divUp n nth)) ∧
    (∀ ith, 0 ≤ ith → ith < nth → ∀ x, InBlock (balance211 n nth ith) x → 0 ≤ x ∧ x < n) ∧
    (∀ i j, 0 ≤ i → i < nth → 0 ≤ j → j < nth → ∀ x,
      InBlock (balance211 n nth i) x → InBlock (balance211 n nth j) x → i = j) ∧
    (∀ x, 0 ≤ x → x < n → ∃ ith, 0 ≤ ith ∧ ith < nth ∧ InBlock (balance211 n nth ith) x) ∧
    ∀ x, 0 ≤ x → x < n → ∃! ith, (0 ≤ ith ∧ ith < nth) ∧
      parallelForGgml ⟨ith, nth⟩ n fun tbegin tend => tbegin ≤ x ∧ x < tend := by
  have hnth' : 0 < nth := by omega
  have hq := divUp_nonneg hn hnth'
  have hqle : divUp n nth ≤ n + nth - 1 := by
    rw [divUp_eq hn hnth']
    exact Int.ediv_le_self _ (by omega)
  have hdisj : ∀ i j x, InBlock (balance211 n nth i) x → InBlock (balance211 n nth j) x → i = j :=
    fun i j x hi hj => by
      rcases Int.lt_trichotomy i j with h | h | h
      · exact absurd hj (balance211_apart hn hnth' h hi)
      · exact h
      · exact absurd hi (balance211_apart hn hnth' h hj)
  refine ⟨⟨⟨by omega, by omega⟩, ⟨by omega, by omega⟩, fun ith h₀ h₁ => ?_⟩,
    fun ith h₀ _ x hx => balance211_subset hn hnth' h₀ hx,
    fun i j _ _ _ _ x => hdisj i j x, fun x hx hxn => balance211_cover hn hnth' hx hxn,
    fun x hx hxn => ?_⟩
  · have h₂ := Int.mul_nonneg h₀ hq
    have h₃ := mul_divUp_le hn hnth' (show ith + 1 ≤ nth by omega)
    rw [Int.add_mul, Int.one_mul] at h₃
    exact ⟨⟨by omega, by omega⟩, ⟨by omega, by omega⟩⟩
  · obtain ⟨ith, h₀, h₁, hin⟩ := balance211_cover hn hnth' hx hxn
    exact ⟨ith, ⟨⟨h₀, h₁⟩, hin⟩, fun j hj => hdisj j ith x hj.2 hin⟩

theorem balance211_partition_five_rows :
    0 ≤ (5 : Int) ∧ 1 ≤ (4 : Int) ∧ (5 : Int) + 4 ≤ 2 ^ 31 - 1 ∧
      ∃! ith, (0 ≤ ith ∧ ith < 4) ∧
        parallelForGgml ⟨ith, 4⟩ 5 fun tbegin tend => tbegin ≤ 4 ∧ 4 < tend :=
  have h₁ : 0 ≤ (5 : Int) := by decide
  have h₂ : 1 ≤ (4 : Int) := by decide
  have h₃ : (5 : Int) + 4 ≤ 2 ^ 31 - 1 := by decide
  ⟨h₁, h₂, h₃, (balance211_partition 5 4 h₁ h₂ h₃).2.2.2.2 4 (by decide) (by decide)⟩

/-! ## `parallel_for` -/

/-- `parallel_for(n, f)`: the results of the calls `f(tbegin, tend)` it makes, by thread number.
    Built with OpenMP (`omp = some nth`, `nth = omp_get_num_threads()`), thread `ith` of the team
    calls `f` on its `balance211` block; without OpenMP the one call is `f(0, n)`. -/
def parallelFor {α : Type} (omp : Option Int) (n : Int) (f : Int → Int → α) : List α :=
  match omp with
  | some nth => (List.range nth.toNat).map fun ith : Nat =>
      let r := balance211 n nth ith
      f r.1 r.2
  | none => [f 0 n]

/-- The rows `for (int i = tbegin; i < tend; ++i)` visits, in order. -/
def blockRows (tbegin tend : Int) : List Int :=
  (List.range (tend - tbegin).toNat).map fun i : Nat => tbegin + i

theorem blockRows_of_le {tbegin tend : Int} (h : tend ≤ tbegin) : blockRows tbegin tend = [] := by
  simp [blockRows, Int.toNat_eq_zero.mpr (show tend - tbegin ≤ 0 by omega)]

/-- Two adjacent blocks of rows are one block. -/
theorem blockRows_append {a b c : Int} (hab : a ≤ b) (hbc : b ≤ c) :
    blockRows a b ++ blockRows b c = blockRows a c := by
  rw [blockRows, blockRows, blockRows, show (c - a).toNat = (b - a).toNat + (c - b).toNat by omega,
    List.range_add, List.map_append, List.map_map]
  congr 1
  exact List.map_congr_left fun x _ => by simp only [Function.comp_apply]; omega

/-- The blocks of threads `0, …, T - 1`, in thread order, list the rows of
    `[0, min(T · div_up(n, nth), n))`. -/
theorem balance211_blocks (hn : 0 ≤ n) (hnth : 0 < nth) (T : Nat) :
    ((List.range T).map fun ith : Nat =>
        blockRows (balance211 n nth ith).1 (balance211 n nth ith).2).flatten =
      blockRows 0 (min (T * divUp n nth) n) := by
  have hq := divUp_nonneg hn hnth
  induction T with
  | zero => simp [blockRows_of_le]
  | succ T ih =>
    rw [List.range_succ, List.map_append, List.flatten_append, ih]
    simp only [List.map_cons, List.map_nil, List.flatten_cons, List.flatten_nil, List.append_nil,
      balance211]
    have hT : 0 ≤ (T : Int) * divUp n nth := Int.mul_nonneg (Int.ofNat_nonneg T) hq
    have hsucc : ((T + 1 : Nat) : Int) * divUp n nth = T * divUp n nth + divUp n nth := by
      rw [Nat.cast_succ, Int.add_mul, Int.one_mul]
    rw [hsucc]
    by_cases h : (T : Int) * divUp n nth ≤ n
    · rw [min_eq_left h, blockRows_append hT (le_min (by omega) h)]
    · have hmin : min ((T : Int) * divUp n nth) n = n := min_eq_right (by omega)
      have hmin' : min ((T : Int) * divUp n nth + divUp n nth) n = n := min_eq_right (by omega)
      rw [hmin, hmin', blockRows_of_le (show n ≤ (T : Int) * divUp n nth by omega), List.append_nil]

/-- **`parallel_for` hands out the same rows with and without OpenMP.** For `n ≥ 0` rows and a
    team of `nth ≥ 1` threads with `n + nth ≤ 2^31 - 1`, the bound under which the `int`
    arithmetic of `div_up` and `balance211` does not overflow (`balance211_partition`), the blocks
    `f` receives on threads `0, …, nth - 1`, read in thread order, list every row of `[0, n)` once
    and in increasing order: exactly the rows of the serial branch's one call `f(0, n)`. -/
theorem parallel_for_rows (n nth : Int) (hn : 0 ≤ n) (hnth : 1 ≤ nth) (hfit : n + nth ≤ 2 ^ 31 - 1) :
    (parallelFor (some nth) n blockRows).flatten = (parallelFor none n blockRows).flatten := by
  have hcover := (divUp_mul_bounds hn (show 0 < nth by omega)).1
  have hT : ((nth.toNat : Nat) : Int) = nth := Int.toNat_of_nonneg (by omega)
  simp only [parallelFor, List.flatten_cons, List.flatten_nil, List.append_nil]
  rw [balance211_blocks hn (by omega), hT, Int.mul_comm, min_eq_right hcover]

theorem parallel_for_rows_five :
    0 ≤ (5 : Int) ∧ 1 ≤ (4 : Int) ∧ (5 : Int) + 4 ≤ 2 ^ 31 - 1 ∧
      (parallelFor (some 4) 5 blockRows).flatten = [0, 1, 2, 3, 4] :=
  have h₁ : 0 ≤ (5 : Int) := by decide
  have h₂ : 1 ≤ (4 : Int) := by decide
  have h₃ : (5 : Int) + 4 ≤ 2 ^ 31 - 1 := by decide
  ⟨h₁, h₂, h₃, (parallel_for_rows 5 4 h₁ h₂ h₃).trans rfl⟩

end AmxBackend
