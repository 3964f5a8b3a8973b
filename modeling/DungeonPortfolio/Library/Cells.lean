import Mathlib.Algebra.Order.Field.Basic
import Mathlib.Algebra.Order.Floor.Ring

/-!
# Cells of equal width

A line cut into cells `[index * size, (index + 1) * size)`. How far apart two
positions are decides, up to one cell, how far apart their cells are.
-/

namespace Library.Cells

set_option autoImplicit false

variable {Number : Type*} [Field Number] [LinearOrder Number] [IsStrictOrderedRing Number]
variable [FloorRing Number] {size first second : Number}

def cell (size position : Number) : ℤ := ⌊position / size⌋

theorem cell_eq_iff (positive : 0 < size) {position : Number} {index : ℤ} :
    cell size position = index ↔ index * size ≤ position ∧ position < (index + 1) * size := by
  rw [cell, Int.floor_eq_iff, le_div_iff₀ positive, div_lt_iff₀ positive]

theorem cell_mono (positive : 0 < size) (ordered : first ≤ second) :
    cell size first ≤ cell size second :=
  Int.floor_le_floor (div_le_div_of_nonneg_right ordered positive.le)

theorem cell_shift (positive : 0 < size) (position : Number) (count : ℤ) :
    cell size (position + count * size) = cell size position + count := by
  rw [cell, add_div, mul_div_cancel_right₀ _ positive.ne', Int.floor_add_intCast, cell]

theorem cell_le_of_le (positive : 0 < size) {count : ℤ}
    (ordered : first ≤ second + count * size) : cell size first ≤ cell size second + count := by
  rw [← cell_shift positive]
  exact cell_mono positive ordered

theorem le_cell_of_le (positive : 0 < size) {count : ℤ}
    (ordered : second + count * size ≤ first) : cell size second + count ≤ cell size first := by
  rw [← cell_shift positive]
  exact cell_mono positive ordered

theorem cells_near (positive : 0 < size) {count : ℤ} (near : |first - second| ≤ count * size) :
    |cell size first - cell size second| ≤ count := by
  rcases abs_le.mp near with ⟨lower, upper⟩
  have right := cell_le_of_le positive (sub_le_iff_le_add'.mp upper)
  have left : cell size second ≤ cell size first + count := by
    apply cell_le_of_le positive
    linarith
  rw [abs_le]
  constructor
  · omega
  · omega

theorem cells_far (positive : 0 < size) {count : ℤ}
    (far : (count + 1) * size ≤ |first - second|) :
    count < |cell size first - cell size second| := by
  have step : ((count + 1 : ℤ) : Number) = count + 1 := by push_cast; rfl
  rw [← step] at far
  rcases le_abs.mp far with ahead | behind
  · have apart := le_cell_of_le positive (le_sub_iff_add_le'.mp ahead)
    rw [lt_abs]
    left
    omega
  · rw [neg_sub] at behind
    have apart := le_cell_of_le positive (le_sub_iff_add_le'.mp behind)
    rw [lt_abs]
    right
    omega

end Library.Cells
