import Mathlib.Algebra.Order.Ring.Abs
import Mathlib.Algebra.Order.Ring.Int
import Mathlib.Data.List.Basic
import Mathlib.Tactic.Linarith
import Mathlib.Tactic.Ring

/-!
# Levels and rows

Two things that turning a picture into text needs. `Nearest` says which of `n` evenly spaced levels
is closest to a brightness between 0 and `M`; for an odd `M` there are no ties, and `level`, which
adds one half and truncates, computes it (`nearest_level`). `textRows` is a picture written row by
row, each row with an end mark; `getElem?_textRows` finds every cell in it.
-/

namespace Raster

/-! ## Levels -/

/-- How far the level `k` of `n` is from the brightness `p`, scaled by `M * (n - 1)`. -/
def distance (M n p k : Nat) : Int := |((p * (n - 1) : Nat) : Int) - ((M * k : Nat) : Int)|

/-- The level `k` of the `n` levels is closer to `p` than any other. -/
structure Nearest (M n p k : Nat) : Prop where
  lt : k < n
  closest : ∀ j < n, j ≠ k → distance M n p k < distance M n p j

/-- `p` in units of the distance between two levels, to the nearest integer. -/
def level (M n p : Nat) : Nat := (2 * (p * (n - 1)) + M) / (2 * M)

section Levels

variable {M n p q k l : Nat}

theorem Nearest.unique (hk : Nearest M n p k) (hl : Nearest M n p l) : k = l := by
  by_contra hne
  have h1 := hk.closest l hl.lt (Ne.symm hne)
  have h2 := hl.closest k hk.lt hne
  omega

theorem level_lt (hM : 0 < M) (hn : 0 < n) (hp : p ≤ M) : level M n p < n := by
  have hmul : p * (n - 1) ≤ M * (n - 1) := Nat.mul_le_mul_right _ hp
  have hcancel : M * (n - 1) + M = M * n := by
    rw [← Nat.mul_succ, Nat.succ_eq_add_one, Nat.sub_add_cancel hn]
  apply (Nat.div_lt_iff_lt_mul (by omega)).2
  have hassoc : n * (2 * M) = 2 * (M * n) := by ring
  omega

/-- Twice the distance is less than `M`: it is at most `M`, and even. -/
theorem two_distance_level_lt (hM : M % 2 = 1) : 2 * distance M n p (level M n p) < M := by
  have hpos : 0 < 2 * M := by omega
  have hdiv := Nat.div_add_mod (2 * (p * (n - 1)) + M) (2 * M)
  have hmod := Nat.mod_lt (2 * (p * (n - 1)) + M) hpos
  have hassoc : 2 * M * level M n p = 2 * (M * level M n p) := by ring
  unfold distance
  change 2 * M * level M n p + _ = _ at hdiv
  rw [hassoc] at hdiv
  generalize M * level M n p = b at *
  generalize p * (n - 1) = a at *
  generalize (2 * a + M) % (2 * M) = r at *
  rcases abs_cases ((a : Int) - (b : Int)) with ⟨habs, -⟩ | ⟨habs, -⟩
  · rw [habs]
    omega
  · rw [habs]
    omega

/-- Two levels are at least `M` apart. -/
theorem le_distance_add (hne : k ≠ l) : (M : Int) ≤ distance M n p k + distance M n p l := by
  unfold distance
  have htri := abs_sub_le ((M * k : Nat) : Int) ((p * (n - 1) : Nat) : Int) ((M * l : Nat) : Int)
  rw [abs_sub_comm ((M * k : Nat) : Int) ((p * (n - 1) : Nat) : Int)] at htri
  refine le_trans ?_ htri
  have hone : (1 : Int) ≤ |(k : Int) - l| := by
    have hsub : (k : Int) - l ≠ 0 := by omega
    exact Int.one_le_abs hsub
  have hfactor : ((M * k : Nat) : Int) - ((M * l : Nat) : Int) = M * ((k : Int) - l) := by
    push_cast
    ring
  rw [hfactor, abs_mul, Nat.abs_cast]
  exact le_mul_of_one_le_right (Int.natCast_nonneg M) hone

/-- **Adding one half and truncating** gives the nearest level, without ties. -/
theorem nearest_level (hM : M % 2 = 1) (hn : 0 < n) (hp : p ≤ M) :
    Nearest M n p (level M n p) := by
  refine ⟨level_lt (by omega) hn hp, fun j _ hj => ?_⟩
  have hsmall := two_distance_level_lt (n := n) (p := p) hM
  have hapart := le_distance_add (M := M) (n := n) (p := p) hj
  omega

theorem Nearest.eq_level (hM : M % 2 = 1) (hp : p ≤ M) (h : Nearest M n p k) :
    k = level M n p :=
  h.unique (nearest_level hM (Nat.zero_lt_of_lt h.lt) hp)

/-- More brightness, no earlier level. -/
theorem level_mono (h : p ≤ q) : level M n p ≤ level M n q :=
  Nat.div_le_div_right (Nat.add_le_add_right (Nat.mul_le_mul_left 2 (Nat.mul_le_mul_right _ h)) M)

theorem level_zero (hM : 0 < M) : level M n 0 = 0 := by
  unfold level
  apply Nat.div_eq_of_lt
  omega

theorem level_max (hM : 0 < M) : level M n M = n - 1 := by
  have hsplit : 2 * (M * (n - 1)) + M = M + 2 * M * (n - 1) := by ring
  unfold level
  rw [hsplit, Nat.add_mul_div_left _ _ (by omega), Nat.div_eq_of_lt (by omega), Nat.zero_add]

/-- Seen from the other end of the scale, the distances are the same. -/
theorem distance_complement (hp : p ≤ M) (hk : k < n) :
    distance M n (M - p) (n - 1 - k) = distance M n p k := by
  unfold distance
  have hk' : k ≤ n - 1 := by omega
  rw [abs_sub_comm]
  congr 1
  push_cast [Nat.cast_sub hp, Nat.cast_sub hk']
  ring

/-- Inverting the brightness inverts the level. -/
theorem Nearest.complement (hp : p ≤ M) (h : Nearest M n p k) :
    Nearest M n (M - p) (n - 1 - k) := by
  have hk := h.lt
  refine ⟨by omega, fun j hj hne => ?_⟩
  have hback : n - 1 - (n - 1 - j) = j := by omega
  rw [distance_complement hp hk, ← hback, distance_complement hp (by omega)]
  exact h.closest (n - 1 - j) (by omega) (by omega)

theorem level_complement (hM : M % 2 = 1) (hn : 0 < n) (hp : p ≤ M) :
    level M n (M - p) = n - 1 - level M n p :=
  ((nearest_level hM hn hp).complement hp).eq_level hM (Nat.sub_le M p) |>.symm

end Levels

/-! ## Rows -/

section Rows

variable {α : Type*}

/-- The cells of `height` rows of `width` cells, with `mark` at the end of each row. -/
def textRows (height width : Nat) (cell : Nat → Nat → α) (mark : α) : List α :=
  (List.range height).flatMap fun y => (List.range width).map (cell y) ++ [mark]

variable {height width : Nat} {cell : Nat → Nat → α} {mark : α}

theorem textRows_succ : textRows (height + 1) width cell mark =
    textRows height width cell mark ++ ((List.range width).map (cell height) ++ [mark]) := by
  rw [textRows, List.range_succ, List.flatMap_append, List.flatMap_singleton]
  rfl

theorem length_textRows : (textRows height width cell mark).length = height * (width + 1) := by
  induction height with
  | zero => rw [Nat.zero_mul]; rfl
  | succ height ih =>
    rw [textRows_succ, List.length_append, ih, List.length_append, List.length_map,
      List.length_range, List.length_singleton, Nat.succ_mul]

/-- Every row stands where the ones in front of it end. -/
theorem getElem?_textRows {y : Nat} (hy : y < height) {i : Nat} (hi : i ≤ width) :
    (textRows height width cell mark)[y * (width + 1) + i]? =
      ((List.range width).map (cell y) ++ [mark])[i]? := by
  induction height with
  | zero => exact absurd hy (Nat.not_lt_zero y)
  | succ height ih =>
    rw [textRows_succ]
    rcases Nat.lt_succ_iff_lt_or_eq.1 hy with hlt | rfl
    · have hin : y * (width + 1) + i < (textRows height width cell mark).length := by
        rw [length_textRows]
        have hrow : (y + 1) * (width + 1) ≤ height * (width + 1) := Nat.mul_le_mul_right _ hlt
        rw [Nat.succ_mul] at hrow
        omega
      rw [List.getElem?_append_left hin]
      exact ih hlt
    · rw [List.getElem?_append_right (by rw [length_textRows]; omega), length_textRows,
        Nat.add_sub_cancel_left]

theorem getElem?_textRows_mark {y : Nat} (hy : y < height) :
    (textRows height width cell mark)[y * (width + 1) + width]? = some mark := by
  have hlen : ((List.range width).map (cell y)).length = width := by
    rw [List.length_map, List.length_range]
  rw [getElem?_textRows hy (Nat.le_refl width),
    List.getElem?_append_right (Nat.le_of_eq hlen), hlen, Nat.sub_self]
  rfl

theorem getElem?_textRows_cell {x y : Nat} (hy : y < height) (hx : x < width) :
    (textRows height width cell mark)[y * (width + 1) + x]? = some (cell y x) := by
  rw [getElem?_textRows hy (Nat.le_of_lt hx),
    List.getElem?_append_left (by rwa [List.length_map, List.length_range]),
    List.getElem?_map, List.getElem?_range hx]
  rfl

theorem textRows_congr {cell' : Nat → Nat → α}
    (h : ∀ y < height, ∀ x < width, cell y x = cell' y x) :
    textRows height width cell mark = textRows height width cell' mark := by
  unfold textRows
  refine List.flatMap_congr fun y hy => ?_
  congr 1
  exact List.map_congr_left fun x hx => h y (List.mem_range.1 hy) x (List.mem_range.1 hx)

end Rows

end Raster
