import Playfield.Grid.Raster
import Playfield.Text.Stream

/-! The sections of `position_grid.txt` both `WriteAsciiPositionGrid`s write alike, statement by statement, and the lines each appends. -/

namespace Playfield

open OStream

variable {α : Type*} (format : DoubleFormat α)

section Listing

/-- `ofs << "Grid " << W << "x" << H << " (cell=" << cellMeters << "m). Top=+Y, Right=+X\n"`. -/
def writeHeader (W H : ℤ) (cellMeters : α) (os : OStream) : OStream :=
  os.putStr "Grid " |>.putInt W |>.putStr "x" |>.putInt H |>.putStr " (cell="
    |>.putReal format cellMeters |>.putStr "m). Top=+Y, Right=+X\n"

/-- A listed node: its title, `" (node " << id << "): (" << std::fixed << std::setprecision(1) << p.x << ", " << p.y << ")\n"`. -/
def writeListed (title : OStream → OStream) (id : ℕ) (p : Vector α) (os : OStream) : OStream :=
  title os |>.putStr " (node " |>.putInt id |>.putStr "): (" |>.setFixed |>.setprecision 1
    |>.putReal format p.x |>.putStr ", " |>.putReal format p.y |>.putStr ")\n"

/-- One pass of a listing loop: `if (!mm) continue;`, else node `i` under its title and id. -/
def writeMember (title : ℕ → OStream → OStream) (nodeId : ℕ → ℕ) (os : OStream) :
    ℕ × Option (Vector α) → OStream
  | (_, none) => os
  | (i, some p) => writeListed format (title i) (nodeId i) p os

/-- A listing loop `for (uint32_t i = 0; i < nodes.GetN(); ++i)` over one container. -/
def writeListing (title : ℕ → OStream → OStream) (nodeId : ℕ → ℕ) (nodes : List (Option (Vector α)))
    (os : OStream) : OStream :=
  nodes.enum.foldl (writeMember format title nodeId) os

/-- `ofs << " - B" << b << ": x[" << bx.xMin << "," << bx.xMax << "], y[" << bx.yMin << "," << bx.yMax << "]\n"`. -/
def writeBuilding (os : OStream) (building : ℕ × Box α) : OStream :=
  os.putStr " - B" |>.putInt building.1 |>.putStr ": x[" |>.putReal format building.2.xMin
    |>.putStr "," |>.putReal format building.2.xMax |>.putStr "], y["
    |>.putReal format building.2.yMin |>.putStr "," |>.putReal format building.2.yMax
    |>.putStr "]\n"

/-- The building listing, in the notation the stream holds when it starts. -/
def writeBuildings (buildings : List (Box α)) (os : OStream) : OStream :=
  buildings.enum.foldl (writeBuilding format) (os.putStr "\nBuildings (xMin..xMax, yMin..yMax):\n")

/-- The header line, with the cell size in the notation of a fresh stream. -/
def headerLine (W H : ℤ) (cellMeters : α) : List Glyph :=
  text "Grid " ++ text (toString W) ++ text "x" ++ text (toString H) ++ text " (cell=" ++
    format.render false 6 cellMeters ++ text "m). Top=+Y, Right=+X"

/-- The line of a listed node, coordinates in fixed notation with one decimal. -/
def listedLine (title : List Glyph) (id : ℕ) (p : Vector α) : List Glyph :=
  title ++ text " (node " ++ text (toString (id : ℤ)) ++ text "): (" ++ format.render true 1 p.x ++
    text ", " ++ format.render true 1 p.y ++ text ")"

/-- The line of node `i` of a listing, when it has a position. -/
def memberLine (titleText : ℕ → List Glyph) (nodeId : ℕ → ℕ) : ℕ × Option (Vector α) → Option (List Glyph)
  | (i, node) => node.map (listedLine format (titleText i) (nodeId i))

/-- A listing's lines, one per node with a position, in index order. -/
def listingLines (titleText : ℕ → List Glyph) (nodeId : ℕ → ℕ) (nodes : List (Option (Vector α))) :
    List (List Glyph) :=
  nodes.enum.filterMap (memberLine format titleText nodeId)

/-- The line of building `b`, its coordinates in the given notation and precision. -/
def buildingLine (fixed : Bool) (precision : ℕ) (building : ℕ × Box α) : List Glyph :=
  text " - B" ++ text (toString (building.1 : ℤ)) ++ text ": x[" ++
    format.render fixed precision building.2.xMin ++ text "," ++
    format.render fixed precision building.2.xMax ++ text "], y[" ++
    format.render fixed precision building.2.yMin ++ text "," ++
    format.render fixed precision building.2.yMax ++ text "]"

/-- The building listing's lines, under a blank line and its title. -/
def buildingLines (fixed : Bool) (precision : ℕ) (buildings : List (Box α)) : List (List Glyph) :=
  [[], text "Buildings (xMin..xMax, yMin..yMax):"] ++ buildings.enum.map (buildingLine format fixed precision)

variable {os : OStream}

/-- From a fresh stream the header appends its line, the cell size in the default notation. -/
theorem writeHeader_fresh (W H : ℤ) (cellMeters : α) :
    writeHeader format W H cellMeters .fresh =
      { OStream.fresh with out := headerLine format W H cellMeters ++ [newline] } := by
  ext <;> simp [writeHeader, headerLine, putStr, putInt, putReal, padLeft, fresh, newline, text]

/-- Each building appends its line, in the notation the stream holds, and a newline. -/
theorem writeBuilding_settled (settled : os.Settled) (building : ℕ × Box α) :
    writeBuilding format os building =
      { os with out := os.out ++ (buildingLine format os.fixed os.precision building ++ [newline]) } := by
  obtain ⟨unset, spaced⟩ := settled
  ext <;> simp [writeBuilding, buildingLine, putStr, putInt, putReal, padLeft, unset, newline, text]

/-- The building listing appends its lines, every coordinate in the notation the stream holds. -/
theorem writeBuildings_settled (buildings : List (Box α)) (settled : os.Settled) :
    writeBuildings format buildings os =
      { os with out := os.out ++ (buildingLines format os.fixed os.precision buildings).flatMap (· ++ [newline]) } := by
  have listing := @foldl_appends _ (writeBuilding format)
    (fun fixed precision building => buildingLine format fixed precision building ++ [newline])
    (fun _ building settled => writeBuilding_settled format settled building)
  rw [writeBuildings, putStr_settled settled, listing]
  · simp [buildingLines, newline, text, List.append_assoc, List.flatMap_map]
  · exact settled

/-- A listed node appends its line and leaves the stream in fixed notation with one decimal. -/
theorem writeListed_settled {title : OStream → OStream} {titleText : List Glyph}
    (titled : ∀ os : OStream, os.Settled → title os = { os with out := os.out ++ titleText })
    (id : ℕ) (p : Vector α) (settled : os.Settled) :
    writeListed format title id p os =
      { os with
        out := os.out ++ (listedLine format titleText id p ++ [newline])
        fixed := true
        precision := 1 } := by
  obtain ⟨unset, spaced⟩ := settled
  ext <;> simp [writeListed, listedLine, titled os ⟨unset, spaced⟩, putStr, putInt, putReal, padLeft,
    unset, newline, text]

section Members

variable {title : ℕ → OStream → OStream} {titleText : ℕ → List Glyph}
  (titled : ∀ i (os : OStream), os.Settled → title i os = { os with out := os.out ++ titleText i })
  (nodeId : ℕ → ℕ)

include titled

/-- A listing loop appends the line of each node with a position, in order, and turns fixed notation on at the first. -/
theorem foldl_writeMember :
    ∀ (xs : List (ℕ × Option (Vector α))) (os : OStream), os.Settled →
      xs.foldl (writeMember format title nodeId) os =
        { os with
          out := os.out ++ (xs.filterMap (memberLine format titleText nodeId)).flatMap (· ++ [newline])
          fixed := os.fixed || xs.any (·.2.isSome)
          precision := bif xs.any (·.2.isSome) then 1 else os.precision }
  | [], os, _ => by simp
  | (i, none) :: rest, os, settled => by
    rw [List.foldl_cons, writeMember, foldl_writeMember rest os settled]
    simp [memberLine]
  | (i, some p) :: rest, os, settled => by
    -- The listed node sets the notation, and the rest of the listing keeps it.
    rw [List.foldl_cons, writeMember, writeListed_settled format (titled i) _ p settled,
      foldl_writeMember rest]
    · simp [memberLine, List.append_assoc]
    · exact settled

/-- A listing appends its lines, and leaves fixed notation on exactly when some node had a position. -/
theorem writeListing_settled (nodes : List (Option (Vector α))) (settled : os.Settled) :
    writeListing format title nodeId nodes os =
      { os with
        out := os.out ++ (listingLines format titleText nodeId nodes).flatMap (· ++ [newline])
        fixed := os.fixed || nodes.any Option.isSome
        precision := bif nodes.any Option.isSome then 1 else os.precision } := by
  -- The loop runs over the enumerated nodes, which have a position exactly where the nodes do.
  have listed : nodes.enum.any (·.2.isSome) = nodes.any Option.isSome := by
    rw [Bool.eq_iff_iff, List.any_eq_true, List.any_eq_true]
    constructor
    · rintro ⟨x, member, positioned⟩
      exact ⟨x.2, List.snd_mem_of_mem_enum member, positioned⟩
    · rintro ⟨x, member, positioned⟩
      obtain ⟨i, at_i⟩ := List.mem_iff_getElem?.mp member
      exact ⟨(i, x), List.mem_enum_iff_getElem?.mpr at_i, positioned⟩
  rw [writeListing, foldl_writeMember format titled nodeId _ _ settled, listed, listingLines]

end Members

end Listing

section Map

variable [LinearOrderedField α] [FloorRing α]

/-- The label of column `gx`: `(gx * static_cast<int>(cellMeters)) / 10 % 100` in C++ integer arithmetic. -/
def rulerLabel (cellMeters : α) (gx : ℤ) : ℤ :=
  ((gx * truncToInt cellMeters).tdiv 10).tmod 100

/-- One column of the ruler: a label two wide on every fifth column, a space on the others. -/
def writeRulerColumn (cellMeters : α) (os : OStream) (gx : ℤ) : OStream :=
  if gx.tmod 5 = 0 then (os.setw 2 |>.setfill ' ').putInt (rulerLabel cellMeters gx)
  else os.putStr " "

/-- The ruler `// X-axis header every 5 cells`, behind five spaces. -/
def writeRuler (W : ℤ) (cellMeters : α) (os : OStream) : OStream :=
  ((intRange 0 (W - 1)).foldl (writeRulerColumn cellMeters) (os.putStr "     ")).putStr "\n"

/-- The `yMeters` of row `gy`: `static_cast<int>((H - 1 - gy) * cellMeters)`. -/
def yLabel (H : ℤ) (cellMeters : α) (gy : ℤ) : ℤ :=
  truncToInt (((H - 1 - gy : ℤ) : α) * cellMeters)

/-- One map line: `ofs << std::setw(4) << yMeters << " " << grid[gy] << "\n"`. -/
def writeRow (H : ℤ) (cellMeters : α) (grid : Grid) (os : OStream) (gy : ℤ) : OStream :=
  (os.setw 4).putInt (yLabel H cellMeters gy) |>.putStr " " |>.put (grid.getD gy.toNat [])
    |>.putStr "\n"

/-- The map, top row first. -/
def writeRows (H : ℤ) (cellMeters : α) (grid : Grid) (os : OStream) : OStream :=
  (intRange 0 (H - 1)).foldl (writeRow H cellMeters grid) os

/-- The map part both rasterizers share: header, then legend, then ruler and rows. -/
def writeMap (W : ℤ) (cellMeters : α) (legend : OStream → OStream) (grid : Grid) : OStream :=
  writeRows W cellMeters grid (writeRuler W cellMeters (legend (writeHeader format W W cellMeters .fresh)))

/-- What the ruler writes for column `gx`. -/
def rulerCell (cellMeters : α) (gx : ℤ) : List Glyph :=
  if gx.tmod 5 = 0 then padLeft 2 (glyph ' ') (text (toString (rulerLabel cellMeters gx))) else text " "

/-- The ruler line. -/
def rulerLine (W : ℤ) (cellMeters : α) : List Glyph :=
  text "     " ++ (intRange 0 (W - 1)).flatMap (rulerCell cellMeters)

/-- The map line of row `gy`: its y coordinate right-aligned in four, a space, the row. -/
def rowLine (H : ℤ) (cellMeters : α) (grid : Grid) (gy : ℤ) : List Glyph :=
  padLeft 4 (glyph ' ') (text (toString (yLabel H cellMeters gy))) ++ text " " ++ grid.getD gy.toNat []

/-- The map part's lines: header, legend, blank, ruler, and one line per row. -/
def mapLines (W : ℤ) (cellMeters : α) (legend : List Glyph) (grid : Grid) : List (List Glyph) :=
  [headerLine format W W cellMeters, legend, [], rulerLine W cellMeters] ++
    (intRange 0 (W - 1)).map (rowLine W cellMeters grid)

variable {os : OStream}

/-- Each column of the ruler appends what the ruler line has there. -/
theorem writeRulerColumn_settled (cellMeters : α) (settled : os.Settled) (gx : ℤ) :
    writeRulerColumn cellMeters os gx = { os with out := os.out ++ rulerCell cellMeters gx } := by
  obtain ⟨unset, spaced⟩ := settled
  unfold writeRulerColumn rulerCell
  split
  · ext <;> simp [putInt, unset, spaced]
  · exact putStr_settled ⟨unset, spaced⟩ " "

/-- The ruler appends its line. -/
theorem writeRuler_settled (W : ℤ) (cellMeters : α) (settled : os.Settled) :
    writeRuler W cellMeters os = { os with out := os.out ++ (rulerLine W cellMeters ++ [newline]) } := by
  have columns := @foldl_appends _ (writeRulerColumn cellMeters) (fun _ _ gx => rulerCell cellMeters gx)
    (fun _ gx settled => writeRulerColumn_settled cellMeters settled gx)
  rw [writeRuler, putStr_settled settled, columns, putStr_settled]
  · simp [rulerLine, newline, text, List.append_assoc]
  all_goals exact settled

/-- Each row appends its map line and a newline. -/
theorem writeRow_settled (H : ℤ) (cellMeters : α) (grid : Grid) (settled : os.Settled) (gy : ℤ) :
    writeRow H cellMeters grid os gy =
      { os with out := os.out ++ (rowLine H cellMeters grid gy ++ [newline]) } := by
  obtain ⟨unset, spaced⟩ := settled
  ext <;> simp [writeRow, rowLine, putStr, putInt, padLeft, unset, spaced, newline, text]

/-- The rows append one map line each, top row first. -/
theorem writeRows_settled (H : ℤ) (cellMeters : α) (grid : Grid) (settled : os.Settled) :
    writeRows H cellMeters grid os =
      { os with out := os.out ++ ((intRange 0 (H - 1)).map (rowLine H cellMeters grid)).flatMap (· ++ [newline]) } := by
  have rows := @foldl_appends _ (writeRow H cellMeters grid)
    (fun _ _ gy => rowLine H cellMeters grid gy ++ [newline])
    (fun _ gy settled => writeRow_settled H cellMeters grid settled gy)
  rw [writeRows, rows _ _ settled, List.flatMap_map]

/-- The map part writes its lines, given a legend that appends its own line and a blank one. -/
theorem writeMap_lines (W : ℤ) (cellMeters : α) {legend : OStream → OStream} {legendText : List Glyph}
    (legendWrites : ∀ os : OStream, os.Settled →
      legend os = { os with out := os.out ++ (legendText ++ [newline] ++ [newline]) })
    (grid : Grid) :
    writeMap format W cellMeters legend grid =
      { OStream.fresh with out := (mapLines format W cellMeters legendText grid).flatMap (· ++ [newline]) } := by
  rw [writeMap, writeHeader_fresh, legendWrites, writeRuler_settled, writeRows_settled]
  · simp [mapLines, List.append_assoc]
  -- Every statement leaves the stream as settled as a fresh one.
  all_goals exact ⟨rfl, rfl⟩

end Map

end Playfield
