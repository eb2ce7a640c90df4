import Playfield.Geometry.Discretise
import Playfield.Grid.Canvas

/-! Both `WriteAsciiPositionGrid`s, up to the grid they print: the building pass, then the node overlays. -/

namespace Playfield

variable {α : Type*} [LinearOrderedField α] [FloorRing α]

/-- The values `lo, lo + 1, ..., hi` of a loop `for (int v = lo; v <= hi; ++v)`, none when `hi < lo`. -/
def intRange (lo hi : ℤ) : List ℤ :=
  (List.range (hi + 1 - lo).toNat).map fun k : ℕ => lo + k

/-- The inner loop of the building pass: `grid[H - 1 - gy][gx] = '#'` for `gx` from `x0` to `x1`. -/
def markRow (H gy x0 x1 : ℤ) (grid : Grid) : Option Grid :=
  (intRange x0 x1).foldlM (fun grid gx => grid.store (H - 1 - gy) gx (glyph '#')) grid

/-- One box of the building pass: `'#'` over its floored cell ranges, each clamped on one side. -/
def markBox (W H : ℤ) (cellMeters : α) (grid : Grid) (bx : Box α) : Option Grid :=
  let x0 := max 0 (boxCell cellMeters bx.xMin)
  let x1 := min (W - 1) (boxCell cellMeters bx.xMax)
  let y0 := max 0 (boxCell cellMeters bx.yMin)
  let y1 := min (H - 1) (boxCell cellMeters bx.yMax)
  (intRange y0 y1).foldlM (fun grid gy => markRow H gy x0 x1 grid) grid

/-- The building pass `// Mark buildings as '#'`, box after box. -/
def markBuildings (W H : ℤ) (cellMeters : α) (grid : Grid) (buildings : List (Box α)) :
    Option Grid :=
  buildings.foldlM (markBox W H cellMeters) grid

/-- One pass of an overlay loop: a node with a mobility model, rounded into the grid, is drawn there. -/
def overlayNode (W H : ℤ) (cellMeters : α) (g : Glyph) (grid : Grid) :
    Option (Vector α) → Option Grid
  -- `if (!mm) continue;`
  | none => some grid
  | some p =>
    let gx := nodeCell cellMeters p.x
    let gy := nodeCell cellMeters p.y
    if gx < 0 ∨ gx ≥ W ∨ gy < 0 ∨ gy ≥ H then some grid
    else grid.store (H - 1 - gy) gx g

/-- An overlay loop `for (uint32_t i = 0; i < nodes.GetN(); ++i)`, drawing node `i` as `nodeGlyph i`. -/
def overlayNodes (W H : ℤ) (cellMeters : α) (nodeGlyph : ℕ → Glyph) (grid : Grid)
    (nodes : List (Option (Vector α))) : Option Grid :=
  nodes.enum.foldlM (fun grid node => overlayNode W H cellMeters (nodeGlyph node.1) grid node.2) grid

/-- The single-list `nodeChar`: `S` for the first of `count` nodes, `D` for the last, then digits and letters. -/
def nodeChar (count i : ℕ) : Glyph :=
  -- Character arithmetic wraps modulo 256, as `static_cast<char>` does.
  if i = 0 then glyph 'S'
  else if i + 1 = count then glyph 'D'
  else if i < 10 then glyph '0' + i.toUInt8
  else glyph 'a' + (i - 10).toUInt8

/-- The single-list `WriteAsciiPositionGrid`, up to the grid it prints; nodes without a mobility model are `none`. -/
def writeAsciiPositionGrid (nodes : List (Option (Vector α))) (buildings : List (Box α))
    (fieldMeters cellMeters : α) : Option Grid := do
  let W := gridWidth fieldMeters cellMeters
  let H := W
  let grid ← Grid.blank W H
  let grid ← markBuildings W H cellMeters grid buildings
  overlayNodes W H cellMeters (nodeChar nodes.length) grid nodes

/-- An `int` loop visits exactly the values between its bounds. -/
theorem mem_intRange {lo hi v : ℤ} : v ∈ intRange lo hi ↔ lo ≤ v ∧ v ≤ hi := by
  simp only [intRange, List.mem_map, List.mem_range]
  constructor
  · rintro ⟨k, below, rfl⟩
    omega
  · rintro ⟨low, high⟩
    exact ⟨(v - lo).toNat, by omega, by omega⟩

/-- The cells `(gx, gy)` one box marks: inside its floored ranges, clamped to the grid. -/
def BoxCovers (W H : ℤ) (cellMeters : α) (bx : Box α) (gx gy : ℤ) : Prop :=
  max 0 (boxCell cellMeters bx.xMin) ≤ gx ∧ gx ≤ min (W - 1) (boxCell cellMeters bx.xMax) ∧
    max 0 (boxCell cellMeters bx.yMin) ≤ gy ∧ gy ≤ min (H - 1) (boxCell cellMeters bx.yMax)

instance (W H : ℤ) (cellMeters : α) (bx : Box α) (gx gy : ℤ) :
    Decidable (BoxCovers W H cellMeters bx gx gy) :=
  inferInstanceAs (Decidable (_ ∧ _))

/-- A row of the building pass inside the grid paints `'#'` from `x0` to `x1` along row `H - 1 - gy`. -/
theorem markRow_paints {W H gy x0 x1 : ℤ} (low : 0 ≤ gy) (high : gy < H) (left : 0 ≤ x0)
    (right : x1 < W) :
    Paints W H (markRow H gy x0 x1) fun r c =>
      if r = H - 1 - gy ∧ x0 ≤ c ∧ c ≤ x1 then some (glyph '#') else none := by
  -- Every column the loop visits lies between the clamped ends, so each store lands inside.
  refine (Paints.foldlM (intRange x0 x1) fun gx member => Paints.store ?_ (glyph '#')).congr
    fun r c _ => ?_
  · have col := mem_intRange.mp member
    exact ⟨by omega, by omega, by omega, by omega⟩
  · rw [lastPaint_const (fun (gx r c : ℤ) => r = H - 1 - gy ∧ c = gx)]
    refine if_congr ?_ rfl rfl
    simp only [mem_intRange]
    exact ⟨fun ⟨_, range, same, column⟩ => ⟨same, column ▸ range⟩, fun ⟨same, range⟩ => ⟨c, range, same, rfl⟩⟩

/-- One box paints `'#'` on the cells it covers, with row `H - 1 - gy` for `gy`. -/
theorem markBox_paints (W H : ℤ) (cellMeters : α) (bx : Box α) :
    Paints W H (fun grid => markBox W H cellMeters grid bx) fun r c =>
      if BoxCovers W H cellMeters bx c (H - 1 - r) then some (glyph '#') else none := by
  -- Each range is clamped on its inner side, so every row of the loop lies inside the grid.
  have rows : ∀ gy ∈ intRange (max 0 (boxCell cellMeters bx.yMin)) (min (H - 1) (boxCell cellMeters bx.yMax)),
      Paints W H (markRow H gy (max 0 (boxCell cellMeters bx.xMin)) (min (W - 1) (boxCell cellMeters bx.xMax)))
        fun r c => if r = H - 1 - gy ∧ max 0 (boxCell cellMeters bx.xMin) ≤ c ∧
          c ≤ min (W - 1) (boxCell cellMeters bx.xMax) then some (glyph '#') else none := by
    intro gy member
    have row := mem_intRange.mp member
    exact markRow_paints (by omega) (by omega) (le_max_left _ _) (by omega)
  refine (Paints.foldlM _ rows).congr fun r c _ => ?_
  rw [lastPaint_const (fun (gy r c : ℤ) => r = H - 1 - gy ∧ max 0 (boxCell cellMeters bx.xMin) ≤ c ∧
    c ≤ min (W - 1) (boxCell cellMeters bx.xMax))]
  -- The loops hit `(r, c)` exactly when `c` and the unflipped row `H - 1 - r` are both in range.
  refine if_congr ?_ rfl rfl
  simp only [mem_intRange, BoxCovers]
  exact ⟨fun ⟨_, ⟨low, high⟩, row, left, right⟩ => ⟨left, right, by omega, by omega⟩,
    fun ⟨left, right, low, high⟩ => ⟨H - 1 - r, ⟨low, high⟩, by omega, left, right⟩⟩

/-- What the building pass paints: `'#'` on the cells some box covers, with row `H - 1 - gy` for `gy`. -/
def buildingPaint (W H : ℤ) (cellMeters : α) (buildings : List (Box α)) (r c : ℤ) : Option Glyph :=
  if ∃ bx ∈ buildings, BoxCovers W H cellMeters bx c (H - 1 - r) then some (glyph '#') else none

/-- The building pass paints `'#'` on the cells some box covers. -/
theorem markBuildings_paints (W H : ℤ) (cellMeters : α) (buildings : List (Box α)) :
    Paints W H (fun grid => markBuildings W H cellMeters grid buildings)
      (buildingPaint W H cellMeters buildings) :=
  (Paints.foldlM buildings fun bx _ => markBox_paints W H cellMeters bx).congr fun r c _ =>
    lastPaint_const (fun bx r c => BoxCovers W H cellMeters bx c (H - 1 - r)) _ _ r c

/-- What drawing one node as `g` paints: its rounded cell, flipped to row `H - 1 - gy`; nothing without a position. -/
def nodePaint (H : ℤ) (cellMeters : α) (g : Glyph) : Option (Vector α) → ℤ → ℤ → Option Glyph
  | none, _, _ => none
  | some p, r, c =>
    if r = H - 1 - nodeCell cellMeters p.y ∧ c = nodeCell cellMeters p.x then some g else none

/-- One overlay pass paints the node's glyph on its cell, and skips a node rounded off the grid. -/
theorem overlayNode_paints (W H : ℤ) (cellMeters : α) (g : Glyph) (node : Option (Vector α)) :
    Paints W H (fun grid => overlayNode W H cellMeters g grid node) (nodePaint H cellMeters g node) := by
  cases node with
  | none => exact Paints.skip
  | some p =>
    by_cases off : nodeCell cellMeters p.x < 0 ∨ nodeCell cellMeters p.x ≥ W ∨
        nodeCell cellMeters p.y < 0 ∨ nodeCell cellMeters p.y ≥ H
    · -- A cell off the grid is skipped, and no cell inside the grid is its flipped cell.
      simp only [overlayNode, if_pos off]
      refine Paints.skip.congr fun r c ⟨_, _, _, _⟩ => (if_neg ?_).symm
      rintro ⟨rfl, rfl⟩
      omega
    · -- A cell on the grid is stored at its flipped row.
      simp only [overlayNode, if_neg off]
      exact Paints.store (by unfold InRange; omega) g

/-- What an overlay loop paints: at each cell, the glyph of the last node drawn there. -/
def overlayPaint (H : ℤ) (cellMeters : α) (nodeGlyph : ℕ → Glyph) (nodes : List (Option (Vector α))) :
    ℤ → ℤ → Option Glyph :=
  lastPaint (fun node => nodePaint H cellMeters (nodeGlyph node.1) node.2) nodes.enum

/-- An overlay loop paints each node's glyph on its cell, later nodes over earlier ones. -/
theorem overlayNodes_paints (W H : ℤ) (cellMeters : α) (nodeGlyph : ℕ → Glyph)
    (nodes : List (Option (Vector α))) :
    Paints W H (fun grid => overlayNodes W H cellMeters nodeGlyph grid nodes)
      (overlayPaint H cellMeters nodeGlyph nodes) :=
  Paints.foldlM nodes.enum fun node _ => overlayNode_paints W H cellMeters (nodeGlyph node.1) node.2

/-- On a field of nonnegative size, the single-list rasterizer paints its nodes over its buildings over `'.'`. -/
theorem writeAsciiPositionGrid_paints (nodes : List (Option (Vector α))) (buildings : List (Box α))
    {fieldMeters cellMeters : α} (field : 0 ≤ fieldMeters) (cell : 0 < cellMeters) :
    ∃ grid, writeAsciiPositionGrid nodes buildings fieldMeters cellMeters = some grid ∧
      grid.Shaped (gridWidth fieldMeters cellMeters) (gridWidth fieldMeters cellMeters) ∧
      ∀ r c, InRange (gridWidth fieldMeters cellMeters) (gridWidth fieldMeters cellMeters) r c →
        grid.read r c =
          (overlayPaint (gridWidth fieldMeters cellMeters) cellMeters (nodeChar nodes.length) nodes r c).or
            ((buildingPaint (gridWidth fieldMeters cellMeters) (gridWidth fieldMeters cellMeters)
              cellMeters buildings r c).or (some (glyph '.'))) := by
  -- The blank grid exists, and the two passes paint over it in turn.
  have side := (gridWidth_pos field cell).le
  obtain ⟨blank, made, shaped, dots⟩ := Grid.blank_eq side side
  obtain ⟨grid, ran, kept, cells⟩ :=
    ((markBuildings_paints _ _ cellMeters buildings).bind
      (overlayNodes_paints _ _ cellMeters (nodeChar nodes.length) nodes)) blank shaped
  refine ⟨grid, ?_, kept, fun r c inside => by
    simp only [cells r c inside, dots r c inside, Option.or_assoc]⟩
  simp only [writeAsciiPositionGrid, made]
  exact ran

namespace Backhaul

/-- The four-group `nodeChar`, by node type: backhaul, mesh, STA, Sayed and Sadia. -/
def nodeChar (type : Char) (i : ℕ) : Glyph :=
  match type with
  | 'B' => glyph 'B'
  | 'M' => glyph '0' + i.toUInt8
  | 'S' => glyph 'A' + i.toUInt8
  | 'Y' => glyph 'Y'
  | 'D' => glyph 'D'
  | _ => glyph '?'

/-- The glyph of the Sayed and Sadia loop, `(i == 0) ? 'Y' : 'D'`, which bypasses `nodeChar`. -/
def sayedSadiaChar (i : ℕ) : Glyph :=
  if i = 0 then glyph 'Y' else glyph 'D'

/-- The four-group `WriteAsciiPositionGrid` of the backhaul scenario, up to the grid it prints. -/
def writeAsciiPositionGrid (meshNodes staNodes backhaulNodes sayedSadiaNodes : List (Option (Vector α)))
    (buildings : List (Box α)) (fieldMeters cellMeters : α) : Option Grid := do
  let W := gridWidth fieldMeters cellMeters
  let H := W
  let grid ← Grid.blank W H
  let grid ← markBuildings W H cellMeters grid buildings
  let grid ← overlayNodes W H cellMeters (nodeChar 'B') grid backhaulNodes
  let grid ← overlayNodes W H cellMeters (nodeChar 'M') grid meshNodes
  let grid ← overlayNodes W H cellMeters (nodeChar 'S') grid staNodes
  overlayNodes W H cellMeters sayedSadiaChar grid sayedSadiaNodes

/-- On a field of nonnegative size, the four-group rasterizer paints its groups in turn over its buildings over `'.'`. -/
theorem writeAsciiPositionGrid_paints
    (meshNodes staNodes backhaulNodes sayedSadiaNodes : List (Option (Vector α)))
    (buildings : List (Box α)) {fieldMeters cellMeters : α} (field : 0 ≤ fieldMeters)
    (cell : 0 < cellMeters) :
    ∃ grid, writeAsciiPositionGrid meshNodes staNodes backhaulNodes sayedSadiaNodes buildings
        fieldMeters cellMeters = some grid ∧
      grid.Shaped (gridWidth fieldMeters cellMeters) (gridWidth fieldMeters cellMeters) ∧
      ∀ r c, InRange (gridWidth fieldMeters cellMeters) (gridWidth fieldMeters cellMeters) r c →
        grid.read r c =
          (overlayPaint (gridWidth fieldMeters cellMeters) cellMeters sayedSadiaChar sayedSadiaNodes r c).or
          ((overlayPaint (gridWidth fieldMeters cellMeters) cellMeters (nodeChar 'S') staNodes r c).or
          ((overlayPaint (gridWidth fieldMeters cellMeters) cellMeters (nodeChar 'M') meshNodes r c).or
          ((overlayPaint (gridWidth fieldMeters cellMeters) cellMeters (nodeChar 'B') backhaulNodes r c).or
          ((buildingPaint (gridWidth fieldMeters cellMeters) (gridWidth fieldMeters cellMeters)
              cellMeters buildings r c).or (some (glyph '.')))))) := by
  -- The blank grid exists, and the five passes paint over it in turn.
  have side := (gridWidth_pos field cell).le
  obtain ⟨blank, made, shaped, dots⟩ := Grid.blank_eq side side
  obtain ⟨grid, ran, kept, cells⟩ :=
    (((((markBuildings_paints _ _ cellMeters buildings).bind
      (overlayNodes_paints _ _ cellMeters (nodeChar 'B') backhaulNodes)).bind
      (overlayNodes_paints _ _ cellMeters (nodeChar 'M') meshNodes)).bind
      (overlayNodes_paints _ _ cellMeters (nodeChar 'S') staNodes)).bind
      (overlayNodes_paints _ _ cellMeters sayedSadiaChar sayedSadiaNodes)) blank shaped
  refine ⟨grid, ?_, kept, fun r c inside => by
    simp only [cells r c inside, dots r c inside, Option.or_assoc]⟩
  simp only [writeAsciiPositionGrid, made]
  simpa only [bind_assoc] using ran

end Backhaul

end Playfield
