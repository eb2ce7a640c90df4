import Playfield.Grid.Raster

/-! Both rasterizers store only inside their grid; a node inside the field may still round off it. -/

namespace Playfield

variable {α : Type*} [LinearOrderedField α] [FloorRing α]

/--
On a field of nonnegative size and a positive cell size, whatever the boxes and nodes,
every store of either rasterizer lands inside the grid, which keeps its `W` rows of `W` cells.
-/
theorem writeAsciiPositionGrid_stores_inside
    (nodes meshNodes staNodes backhaulNodes sayedSadiaNodes : List (Option (Vector α)))
    (buildings : List (Box α)) {fieldMeters cellMeters : α} (field : 0 ≤ fieldMeters)
    (cell : 0 < cellMeters) :
    (∃ grid, writeAsciiPositionGrid nodes buildings fieldMeters cellMeters = some grid ∧
      grid.Shaped (gridWidth fieldMeters cellMeters) (gridWidth fieldMeters cellMeters)) ∧
    (∃ grid, Backhaul.writeAsciiPositionGrid meshNodes staNodes backhaulNodes sayedSadiaNodes
        buildings fieldMeters cellMeters = some grid ∧
      grid.Shaped (gridWidth fieldMeters cellMeters) (gridWidth fieldMeters cellMeters)) := by
  -- A store outside the grid would make the run fail, and both runs succeed.
  obtain ⟨grid, ran, shaped, -⟩ := writeAsciiPositionGrid_paints nodes buildings field cell
  obtain ⟨grid', ran', shaped', -⟩ := Backhaul.writeAsciiPositionGrid_paints meshNodes staNodes
    backhaulNodes sayedSadiaNodes buildings field cell
  exact ⟨⟨grid, ran, shaped⟩, ⟨grid', ran', shaped'⟩⟩

/-- The backhaul scenario's own field and buildings, with nodes at the field's corners and outside it. -/
theorem writeAsciiPositionGrid_stores_inside_scenario :
    (0 : ℚ) ≤ 400 ∧ (0 : ℚ) < 10 ∧
    ((∃ grid, writeAsciiPositionGrid [some ⟨0, 0⟩, none, some ⟨400, 400⟩] [⟨0, 60, 96, 104, 0, 10⟩,
        ⟨340, 400, 96, 104, 0, 10⟩, ⟨-50, 500, -3, 2, 0, 10⟩] (400 : ℚ) 10 = some grid ∧
      grid.Shaped (gridWidth (400 : ℚ) 10) (gridWidth (400 : ℚ) 10)) ∧
    (∃ grid, Backhaul.writeAsciiPositionGrid [some ⟨50, 50⟩] [some ⟨-20, 410⟩] [some ⟨30, 200⟩]
        [some ⟨55, 55⟩, some ⟨345, 195⟩] [⟨0, 60, 96, 104, 0, 10⟩, ⟨340, 400, 96, 104, 0, 10⟩,
          ⟨-50, 500, -3, 2, 0, 10⟩] (400 : ℚ) 10 = some grid ∧
      grid.Shaped (gridWidth (400 : ℚ) 10) (gridWidth (400 : ℚ) 10))) :=
  ⟨by norm_num, by norm_num, writeAsciiPositionGrid_stores_inside _ _ _ _ _ _ (by norm_num) (by norm_num)⟩

end Playfield
