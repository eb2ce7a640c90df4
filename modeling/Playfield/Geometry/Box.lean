import Mathlib

/-! Positions and axis-aligned boxes, as the scenarios hand them to ns-3. -/

namespace Playfield

/-- The horizontal part of an ns-3 `Vector`; no geometry of the scenarios reads its `z`. -/
structure Vector (α : Type*) where
  /-- Easting, in metres. -/
  x : α
  /-- Northing, in metres. -/
  y : α
  deriving DecidableEq, Repr

/-- An ns-3 `Box`, its bounds in the order of the constructor's arguments. -/
structure Box (α : Type*) where
  xMin : α
  xMax : α
  yMin : α
  yMax : α
  zMin : α
  zMax : α
  deriving DecidableEq, Repr

namespace Box

variable {α : Type*} [LinearOrder α]

/-- Neither horizontal side of the box is inverted. -/
def Ordered (bx : Box α) : Prop :=
  -- Only the two horizontal axes are drawn and tested against nodes.
  bx.xMin ≤ bx.xMax ∧ bx.yMin ≤ bx.yMax

instance (bx : Box α) : Decidable bx.Ordered := inferInstanceAs (Decidable (_ ∧ _))

/-- The point lies in the box's closed horizontal rectangle, the test `overlapsMesh` makes. -/
def Contains (bx : Box α) (p : Vector α) : Prop :=
  -- Both ends of each range are inclusive, as in the source's `>=` and `<=`.
  bx.xMin ≤ p.x ∧ p.x ≤ bx.xMax ∧ bx.yMin ≤ p.y ∧ p.y ≤ bx.yMax

instance (bx : Box α) (p : Vector α) : Decidable (bx.Contains p) :=
  inferInstanceAs (Decidable (_ ∧ _))

end Box

end Playfield
