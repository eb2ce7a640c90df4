import Playfield.Grid.Raster

/-! What each cell of the single-list grid shows, and how the floored building cells meet the rounded node cells. -/

namespace Playfield

variable {α : Type*} [LinearOrderedField α] [FloorRing α]

/-- Node `i` has a mobility model, and its position rounds to the cell `(gx, gy)`. -/
def NodeAt (cellMeters : α) (nodes : List (Option (Vector α))) (i : ℕ) (gx gy : ℤ) : Prop :=
  ∃ p, nodes[i]? = some (some p) ∧ nodeCell cellMeters p.x = gx ∧ nodeCell cellMeters p.y = gy

/-- Node `i` is the last node of its list rounded to the cell `(gx, gy)`. -/
def LastAt (cellMeters : α) (nodes : List (Option (Vector α))) (i : ℕ) (gx gy : ℤ) : Prop :=
  NodeAt cellMeters nodes i gx gy ∧ ∀ j, i < j → ¬ NodeAt cellMeters nodes j gx gy

/-- No node of the list rounds to the cell `(gx, gy)`. -/
def Vacant (cellMeters : α) (nodes : List (Option (Vector α))) (gx gy : ℤ) : Prop :=
  ∀ i, ¬ NodeAt cellMeters nodes i gx gy

/-- A node standing on a cell has an index of the list. -/
theorem NodeAt.index_lt {cellMeters : α} {nodes : List (Option (Vector α))} {i : ℕ} {gx gy : ℤ}
    (here : NodeAt cellMeters nodes i gx gy) : i < nodes.length :=
  (List.getElem?_eq_some_iff.mp here.choose_spec.1).1

/-- Only one node is the last standing on a cell. -/
theorem LastAt.unique {cellMeters : α} {nodes : List (Option (Vector α))} {i j : ℕ} {gx gy : ℤ}
    (first : LastAt cellMeters nodes i gx gy) (second : LastAt cellMeters nodes j gx gy) : i = j := by
  -- A later one of the two would stand on the cell after the other's last.
  rcases Nat.lt_trichotomy i j with before | same | after
  · exact absurd second.1 (first.2 j before)
  · exact same
  · exact absurd first.1 (second.2 i after)

/-- Some node stands on a cell only if a last one does. -/
theorem exists_lastAt {cellMeters : α} {nodes : List (Option (Vector α))} {gx gy : ℤ}
    (occupied : ¬ Vacant cellMeters nodes gx gy) : ∃ i, LastAt cellMeters nodes i gx gy := by
  -- Every node index is below the list's length, so the greatest one standing there exists.
  classical
  let standing : ℕ → Prop := fun j => NodeAt cellMeters nodes j gx gy
  obtain ⟨i, here⟩ := not_forall_not.mp occupied
  have greatest : standing (Nat.findGreatest standing nodes.length) :=
    Nat.findGreatest_spec here.index_lt.le here
  exact ⟨_, greatest, fun j later there =>
    Nat.findGreatest_is_greatest later there.index_lt.le there⟩

section Overlay

variable {H : ℤ} {cellMeters : α} {nodeGlyph : ℕ → Glyph} {nodes : List (Option (Vector α))}
  {gx gy : ℤ}

/-- A node standing on `(gx, gy)` paints the flipped cell `(H - 1 - gy, gx)`. -/
theorem nodePaint_hit {g : Glyph} {p : Vector α} (col : nodeCell cellMeters p.x = gx)
    (row : nodeCell cellMeters p.y = gy) : nodePaint H cellMeters g (some p) (H - 1 - gy) gx = some g :=
  if_pos ⟨by rw [row], col.symm⟩

/-- A node standing elsewhere, or without a position, leaves the flipped cell of `(gx, gy)` alone. -/
theorem nodePaint_miss {g : Glyph} {node : Option (Vector α)}
    (away : ∀ p, node = some p → ¬ (nodeCell cellMeters p.x = gx ∧ nodeCell cellMeters p.y = gy)) :
    nodePaint H cellMeters g node (H - 1 - gy) gx = none := by
  cases node with
  | none => rfl
  | some p =>
    -- The flipped rows agree exactly when the unflipped ones do.
    refine if_neg fun ⟨row, col⟩ => away p rfl ⟨col.symm, ?_⟩
    omega

/-- The overlay shows, at a cell, the glyph of the last node standing there. -/
theorem overlayPaint_last {i : ℕ} (last : LastAt cellMeters nodes i gx gy) :
    overlayPaint H cellMeters nodeGlyph nodes (H - 1 - gy) gx = some (nodeGlyph i) := by
  obtain ⟨⟨p, found, col, row⟩, later⟩ := last
  obtain ⟨within, stored⟩ := List.getElem?_eq_some_iff.mp found
  refine lastPaint_enumFrom_last _ _ _ _ nodes 0 i within ?_ fun j within' beyond => ?_
  · rw [Nat.zero_add, stored]
    exact nodePaint_hit col row
  · -- A later node standing on the cell would contradict that `i` is the last one there.
    refine nodePaint_miss fun q stored' ⟨col', row'⟩ => later j beyond ⟨q, ?_, col', row'⟩
    rw [List.getElem?_eq_getElem within']
    exact congrArg some stored'

/-- The overlay leaves a cell alone when no node stands there. -/
theorem overlayPaint_none (vacant : Vacant cellMeters nodes gx gy) :
    overlayPaint H cellMeters nodeGlyph nodes (H - 1 - gy) gx = none := by
  refine lastPaint_enumFrom_none _ _ _ nodes 0 fun j within => ?_
  refine nodePaint_miss fun q stored ⟨col, row⟩ => vacant j ⟨q, ?_, col, row⟩
  rw [List.getElem?_eq_getElem within]
  exact congrArg some stored

/-- Over whatever lies beneath, an overlay shows its last node on the cell, and with none lets the layer beneath through. -/
theorem overlayPaint_or {below : Option Glyph} :
    (∀ i, LastAt cellMeters nodes i gx gy →
      (overlayPaint H cellMeters nodeGlyph nodes (H - 1 - gy) gx).or below = some (nodeGlyph i)) ∧
    (Vacant cellMeters nodes gx gy →
      (overlayPaint H cellMeters nodeGlyph nodes (H - 1 - gy) gx).or below = below) :=
  ⟨fun _ last => by rw [overlayPaint_last last]; rfl,
    fun vacant => by rw [overlayPaint_none vacant, Option.none_or]⟩

end Overlay

/-- Under the nodes, a flipped cell is `'#'` when some building's clamped floor ranges cover it, else `'.'`. -/
theorem buildingPaint_or_blank {cellMeters : α} {buildings : List (Box α)} {W : ℤ} {gx gy : ℤ} :
    (buildingPaint W W cellMeters buildings (W - 1 - gy) gx).or (some (glyph '.')) =
      some (if ∃ bx ∈ buildings, BoxCovers W W cellMeters bx gx gy then glyph '#' else glyph '.') := by
  rw [buildingPaint, show W - 1 - (W - 1 - gy) = gy by omega]
  split <;> rfl

/-- The single-list rasterizer's grid shows at each in-range cell the overlay, over the building pass's verdict. -/
theorem writeAsciiPositionGrid_overlay (nodes : List (Option (Vector α))) (buildings : List (Box α))
    {fieldMeters cellMeters : α} (field : 0 ≤ fieldMeters) (cell : 0 < cellMeters) {W : ℤ}
    (side : W = ⌊fieldMeters / cellMeters⌋ + 1) :
    ∃ grid, writeAsciiPositionGrid nodes buildings fieldMeters cellMeters = some grid ∧
      grid.Shaped W W ∧
      ∀ gx gy, 0 ≤ gx → gx < W → 0 ≤ gy → gy < W →
        grid.read (W - 1 - gy) gx =
          (overlayPaint W cellMeters (nodeChar nodes.length) nodes (W - 1 - gy) gx).or
            (some (if ∃ bx ∈ buildings, BoxCovers W W cellMeters bx gx gy then glyph '#' else glyph '.')) := by
  obtain ⟨grid, ran, shaped, cells⟩ := writeAsciiPositionGrid_paints nodes buildings field cell
  rw [gridWidth_eq field cell, ← side] at shaped cells
  refine ⟨grid, ran, shaped, fun gx gy left right low high => ?_⟩
  rw [cells _ _ ⟨by omega, by omega, left, right⟩, buildingPaint_or_blank]

section Meets

variable {cellMeters : α}

end Meets

end Playfield
