import Playfield.Geometry.Box

/-! The integer casts the rasterizers apply to scaled coordinates: truncation, floor and rounding. -/

namespace Playfield

variable {α : Type*} [LinearOrderedField α]

/-- The lower corner of the field, the constant `fieldMin` of every rasterizer. -/
def fieldMin : α := 0

@[simp] theorem fieldMin_eq : (fieldMin : α) = 0 := rfl

variable [FloorRing α]

/-- `static_cast<int>(v)` of a double: truncation toward zero. -/
def truncToInt (v : α) : ℤ :=
  if 0 ≤ v then ⌊v⌋ else ⌈v⌉

/-- `static_cast<int>(std::round(v))`: the nearest integer, halves rounded away from zero. -/
def roundToInt (v : α) : ℤ :=
  -- Below zero `std::round` mirrors the value, so `-2.5` goes to `-3` and not to `-2`.
  if 0 ≤ v then ⌊v + 1 / 2⌋ else -⌊-v + 1 / 2⌋

/-- The grid side `W`, and `H` equal to it: `static_cast<int>((fieldMax - fieldMin) / cellMeters) + 1`. -/
def gridWidth (fieldMax cellMeters : α) : ℤ :=
  truncToInt ((fieldMax - fieldMin) / cellMeters) + 1

/-- The cell index `std::floor((v - fieldMin) / cellMeters)` of a building bound. -/
def boxCell (cellMeters v : α) : ℤ :=
  ⌊(v - fieldMin) / cellMeters⌋

/-- The cell index `std::round((v - fieldMin) / cellMeters)` of a node coordinate. -/
def nodeCell (cellMeters v : α) : ℤ :=
  roundToInt ((v - fieldMin) / cellMeters)

/-- A nonnegative value truncates to its floor. -/
theorem truncToInt_of_nonneg {v : α} (nonneg : 0 ≤ v) : truncToInt v = ⌊v⌋ :=
  if_pos nonneg

/-- A node exactly on a cell boundary rounds up: `x = 5` in 10-metre cells lands in cell 1. -/
example : nodeCell (10 : ℚ) 5 = 1 := by
  norm_num [nodeCell, roundToInt, Int.floor_eq_iff]

/-- A value less than half a unit above its floor rounds down to it. -/
theorem roundToInt_eq_floor {v : α} (low : Int.fract v < 1 / 2) : roundToInt v = ⌊v⌋ := by
  rw [← Int.self_sub_floor] at low
  unfold roundToInt
  split
  · exact Int.floor_eq_iff.mpr ⟨by linarith [Int.floor_le v], by linarith⟩
  · -- The mirror image sits less than a unit above `-⌊v⌋`, and at least on it.
    have mirror : ⌊-v + 1 / 2⌋ = -⌊v⌋ :=
      Int.floor_eq_iff.mpr ⟨by push_cast; linarith, by push_cast; linarith [Int.floor_le v]⟩
    omega

section Field

variable {fieldMax cellMeters : α}

/-- On a field of nonnegative size the grid side is one more than the floored cell count. -/
theorem gridWidth_eq (field : 0 ≤ fieldMax) (cell : 0 < cellMeters) :
    gridWidth fieldMax cellMeters = ⌊fieldMax / cellMeters⌋ + 1 := by
  rw [gridWidth, fieldMin_eq, sub_zero, truncToInt_of_nonneg (div_nonneg field cell.le)]

/-- The scenarios' 400-metre field in 10-metre cells is 41 cells a side. -/
example : gridWidth (400 : ℚ) 10 = 41 := by
  norm_num [gridWidth, truncToInt, Int.floor_eq_iff]

/-- On a field of nonnegative size the grid has at least one cell a side. -/
theorem gridWidth_pos (field : 0 ≤ fieldMax) (cell : 0 < cellMeters) :
    0 < gridWidth fieldMax cellMeters := by
  have floored : 0 ≤ ⌊fieldMax / cellMeters⌋ := Int.floor_nonneg.mpr (div_nonneg field cell.le)
  rw [gridWidth_eq field cell]
  omega

end Field

end Playfield
