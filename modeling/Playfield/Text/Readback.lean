import Playfield.Grid.Legend
import Playfield.Obstacle.Store
import Playfield.Text.Artifact

/-! Reading the map back out of `position_grid.txt`: where the file's lines fall, and the glyph and label bounds under which the rows between the ruler and the first blank line are the grid. -/

namespace Playfield

/--
The map a reader takes from `position_grid.txt`: the lines after the header, the legend, the blank
line and the ruler, up to the next empty line, each without the five characters before its cells.
-/
def readMap (file : List Glyph) : Grid :=
  (((file.splitOn newline).drop 4).takeWhile fun line => !line.isEmpty).map (List.drop 5)

/-- Lines free of newlines, each written with its newline, split back into themselves in front of what follows. -/
theorem splitOn_flatMap_append (rest : List Glyph) :
    ∀ lines : List (List Glyph), (∀ line ∈ lines, newline ∉ line) →
      (lines.flatMap (· ++ [newline]) ++ rest).splitOn newline = lines ++ rest.splitOn newline
  | [], _ => rfl
  | line :: more, clean => by
    -- The first newline ends the first line, and the lines after it split as before.
    have free : ∀ g ∈ line, ¬ (g == newline) = true := fun g member same =>
      clean line (List.mem_cons_self _ _) (eq_of_beq same ▸ member)
    have later := splitOn_flatMap_append rest more fun l member => clean l (List.mem_cons_of_mem _ member)
    rw [List.flatMap_cons, List.append_assoc, List.append_assoc, List.singleton_append, List.cons_append,
      ← later]
    simp only [List.splitOn]
    exact List.splitOnP_first _ line free newline (beq_self_eq_true _) _

section Clean

variable {α : Type*} (format : DoubleFormat α)

/-- Padding with spaces adds no newline. -/
theorem newline_not_mem_padLeft {width : ℕ} {s : List Glyph} (clean : newline ∉ s) :
    newline ∉ padLeft width (glyph ' ') s := by
  simp only [padLeft, List.mem_append, List.mem_replicate, not_or]
  exact ⟨fun ⟨_, same⟩ => absurd same (by decide), clean⟩

/-- The header line holds no newline. -/
theorem newline_not_mem_headerLine (W H : ℤ) (cellMeters : α) :
    newline ∉ headerLine format W H cellMeters := by
  simp only [headerLine, List.mem_append, newline_not_mem_int, format.no_newline, or_false, false_or]
  decide

/-- The single-list legend line holds no newline. -/
theorem newline_not_mem_legendLine (count : ℕ) : newline ∉ legendLine count := by
  simp only [legendLine, List.mem_append, newline_not_mem_int, or_false, false_or]
  decide

variable [LinearOrderedField α] [FloorRing α]

/-- The ruler line holds no newline, only labels and spaces. -/
theorem newline_not_mem_rulerLine (W : ℤ) (cellMeters : α) : newline ∉ rulerLine W cellMeters := by
  simp only [rulerLine, List.mem_append, List.mem_flatMap, not_or, not_exists, not_and]
  refine ⟨by decide, fun gx _ => ?_⟩
  unfold rulerCell
  split
  · exact newline_not_mem_padLeft (newline_not_mem_int _)
  · decide

/-- A map line holds no newline when no row of the grid does. -/
theorem newline_not_mem_rowLine (H : ℤ) (cellMeters : α) {grid : Grid}
    (clean : ∀ row ∈ grid, newline ∉ row) (gy : ℤ) : newline ∉ rowLine H cellMeters grid gy := by
  simp only [rowLine, List.mem_append, not_or, List.getD_eq_getElem?_getD]
  refine ⟨⟨newline_not_mem_padLeft (newline_not_mem_int _), by decide⟩, fun member => ?_⟩
  -- Row `gy` is a row of the grid, or the empty default past its end.
  cases found : grid[gy.toNat]? with
  | none => simp [found] at member
  | some row => exact clean row (List.getElem?_mem found) (by simpa [found] using member)

end Clean

section Rows

variable {α : Type*} [LinearOrderedField α] [FloorRing α] (format : DoubleFormat α)

/-- A row label from `0` to `9999` fills the four characters `std::setw(4)` reserves, and the space makes five. -/
theorem length_rowLabel {z : ℤ} (nonneg : 0 ≤ z) (small : z < 10 ^ 4) :
    (padLeft 4 (glyph ' ') (text (toString z)) ++ text " ").length = 5 := by
  have digits := length_text_int_le (by norm_num) nonneg small
  have space : (text " ").length = 1 := rfl
  simp only [List.length_append, length_padLeft, space]
  omega

/-- A map line whose label fits its four characters holds its row after five characters. -/
theorem drop_rowLine {H : ℤ} {cellMeters : α} (grid : Grid) {gy : ℤ} (nonneg : 0 ≤ yLabel H cellMeters gy)
    (small : yLabel H cellMeters gy < 10 ^ 4) : (rowLine H cellMeters grid gy).drop 5 = grid.getD gy.toNat [] :=
  List.drop_left' (length_rowLabel nonneg small)

/-- The loop `for (int gy = 0; gy < H; ++gy)` reads every row of a grid of `H` rows, in order. -/
theorem map_getD_intRange (grid : Grid) :
    (intRange 0 ((grid.length : ℤ) - 1)).map (fun gy => grid.getD gy.toNat []) = grid := by
  apply List.ext_getElem
  · simp [intRange]
  · intro k _ within
    simp [intRange, within]

/-- A field below 10000 metres gives every row a label from `0` to `9999`. -/
theorem yLabel_bounds {fieldMeters cellMeters : α} (field : 0 ≤ fieldMeters) (bounded : fieldMeters < 10000)
    (cell : 0 < cellMeters) {gy : ℤ} (member : gy ∈ intRange 0 (gridWidth fieldMeters cellMeters - 1)) :
    0 ≤ yLabel (gridWidth fieldMeters cellMeters) cellMeters gy ∧
      yLabel (gridWidth fieldMeters cellMeters) cellMeters gy < 10 ^ 4 := by
  -- Row `gy` is `H - 1 - gy` cells up, at most `⌊F / c⌋` cells, which is at most `F` metres.
  obtain ⟨low, high⟩ := mem_intRange.mp member
  rw [gridWidth_eq field cell] at high ⊢
  have up : (0 : ℤ) ≤ ⌊fieldMeters / cellMeters⌋ + 1 - 1 - gy := by omega
  have below : ⌊fieldMeters / cellMeters⌋ + 1 - 1 - gy ≤ ⌊fieldMeters / cellMeters⌋ := by omega
  have meters : (0 : α) ≤ ((⌊fieldMeters / cellMeters⌋ + 1 - 1 - gy : ℤ) : α) * cellMeters :=
    mul_nonneg (by exact_mod_cast up) cell.le
  have top : ((⌊fieldMeters / cellMeters⌋ + 1 - 1 - gy : ℤ) : α) * cellMeters ≤ fieldMeters :=
    calc ((⌊fieldMeters / cellMeters⌋ + 1 - 1 - gy : ℤ) : α) * cellMeters
        ≤ (⌊fieldMeters / cellMeters⌋ : α) * cellMeters :=
          mul_le_mul_of_nonneg_right (by exact_mod_cast below) cell.le
      _ ≤ fieldMeters / cellMeters * cellMeters := mul_le_mul_of_nonneg_right (Int.floor_le _) cell.le
      _ = fieldMeters := div_mul_cancel₀ _ cell.ne'
  rw [yLabel, truncToInt_of_nonneg meters]
  exact ⟨Int.floor_nonneg.mpr meters, Int.floor_lt.mpr (top.trans_lt (by push_cast; linarith))⟩

/--
The map part, followed by a blank line, reads back as its grid.

The caller supplies a legend and rows free of newlines, a grid of `W` rows, and row labels from
`0` to `9999`, so that each map line keeps its cells after exactly five characters.
-/
theorem readMap_mapLines {W : ℤ} {cellMeters : α} {legend : List Glyph} (cleanLegend : newline ∉ legend)
    {grid : Grid} (rows : (grid.length : ℤ) = W) (cleanRows : ∀ row ∈ grid, newline ∉ row)
    (labels : ∀ gy ∈ intRange 0 (W - 1), 0 ≤ yLabel W cellMeters gy ∧ yLabel W cellMeters gy < 10 ^ 4)
    (more : List (List Glyph)) :
    readMap ((mapLines format W cellMeters legend grid ++ [] :: more).flatMap (· ++ [newline])) = grid := by
  have clean : ∀ line ∈ mapLines format W cellMeters legend grid ++ [[]], newline ∉ line := by
    simp only [mapLines, List.mem_append, List.mem_cons, List.mem_map, List.mem_singleton, List.not_mem_nil,
      or_false]
    rintro line (((rfl | rfl | rfl | rfl) | ⟨gy, _, rfl⟩) | rfl)
    · exact newline_not_mem_headerLine format W W cellMeters
    · exact cleanLegend
    · exact List.not_mem_nil _
    · exact newline_not_mem_rulerLine W cellMeters
    · exact newline_not_mem_rowLine W cellMeters cleanRows gy
    · exact List.not_mem_nil _
  -- Every map line is at least its five-character label, so none ends the map early.
  have filled : ∀ line ∈ (intRange 0 (W - 1)).map (rowLine W cellMeters grid), !line.isEmpty := by
    simp only [List.mem_map]
    rintro line ⟨gy, member, rfl⟩
    have long : 5 ≤ (rowLine W cellMeters grid gy).length := by
      rw [rowLine, List.length_append, length_rowLabel (labels gy member).1 (labels gy member).2]
      omega
    have present : rowLine W cellMeters grid gy ≠ [] := fun empty => by simp [empty] at long
    simpa [List.isEmpty_iff] using present
  have unlabelled : ∀ gy ∈ intRange 0 (W - 1), (rowLine W cellMeters grid gy).drop 5 = grid.getD gy.toNat [] :=
    fun gy member => drop_rowLine grid (labels gy member).1 (labels gy member).2
  rw [List.append_cons (mapLines format W cellMeters legend grid) [] more, List.flatMap_append, readMap,
    splitOn_flatMap_append _ _ clean, mapLines]
  simp only [List.append_assoc, List.cons_append, List.nil_append, List.drop_succ_cons, List.drop_zero,
    List.takeWhile_append_of_pos filled, List.takeWhile_cons, List.isEmpty_nil, Bool.not_true,
    Bool.false_eq_true, if_false, List.append_nil, List.map_map]
  subst rows
  exact (List.map_congr_left unlabelled).trans (map_getD_intRange grid)

end Rows

section Glyphs

variable {α : Type*} [LinearOrderedField α] [FloorRing α]

/-- A glyph stands in a row of a shaped grid only where some in-range cell reads it. -/
theorem Grid.exists_read_of_mem {grid : Grid} {W H : ℤ} (shaped : grid.Shaped W H) {row : List Glyph}
    (present : row ∈ grid) {g : Glyph} (member : g ∈ row) :
    ∃ r c, InRange W H r c ∧ grid.read r c = some g := by
  obtain ⟨i, below, rfl⟩ := List.getElem_of_mem present
  obtain ⟨j, across, rfl⟩ := List.getElem_of_mem member
  have height := shaped.1
  have width := shaped.2 _ present
  refine ⟨i, j, ⟨by omega, by omega, by omega, by omega⟩, ?_⟩
  simp [Grid.read, below, across]

/-- A shaped grid none of whose in-range cells reads the newline byte has no newline in any row. -/
theorem Grid.newline_not_mem_rows {grid : Grid} {W H : ℤ} (shaped : grid.Shaped W H)
    (cells : ∀ r c, InRange W H r c → grid.read r c ≠ some newline) : ∀ row ∈ grid, newline ∉ row :=
  fun _ present member =>
    let ⟨r, c, inside, shown⟩ := Grid.exists_read_of_mem shaped present member
    cells r c inside shown

/-- A layer over another shows the newline only if one of them does. -/
theorem or_ne_some_newline {top below : Option Glyph} (upper : top ≠ some newline)
    (lower : below ≠ some newline) : top.or below ≠ some newline := by
  cases top with
  | none => exact lower
  | some _ => exact upper

/-- What a loop paints at a cell is what one of its passes painted there. -/
theorem lastPaint_eq_some {β : Type*} {paint : β → ℤ → ℤ → Option Glyph} {r c : ℤ} {g : Glyph} :
    ∀ {xs : List β}, lastPaint paint xs r c = some g → ∃ x ∈ xs, paint x r c = some g
  | [], shown => nomatch shown
  | x :: rest, shown => by
    rw [lastPaint] at shown
    cases later : lastPaint paint rest r c with
    | none =>
      rw [later, Option.none_or] at shown
      exact ⟨x, List.mem_cons_self _ _, shown⟩
    | some _ =>
      rw [later, Option.or_some] at shown
      obtain ⟨y, member, painted⟩ := lastPaint_eq_some (later.trans shown)
      exact ⟨y, List.mem_cons_of_mem _ member, painted⟩

/-- An overlay shows, wherever it shows anything, the glyph of one of its nodes. -/
theorem overlayPaint_eq_some {H : ℤ} {cellMeters : α} {nodeGlyph : ℕ → Glyph}
    {nodes : List (Option (Vector α))} {r c : ℤ} {g : Glyph}
    (shown : overlayPaint H cellMeters nodeGlyph nodes r c = some g) : ∃ i < nodes.length, nodeGlyph i = g := by
  obtain ⟨⟨i, node⟩, member, painted⟩ := lastPaint_eq_some shown
  refine ⟨i, List.fst_lt_of_mem_enum member, ?_⟩
  cases node with
  | none => exact nomatch painted
  | some p =>
    simp only [nodePaint] at painted
    split_ifs at painted
    exact Option.some.inj painted

/-- An overlay whose nodes' glyphs are not the newline never shows it. -/
theorem overlayPaint_ne_newline {H : ℤ} {cellMeters : α} {nodeGlyph : ℕ → Glyph}
    {nodes : List (Option (Vector α))} (glyphs : ∀ i < nodes.length, nodeGlyph i ≠ newline) (r c : ℤ) :
    overlayPaint H cellMeters nodeGlyph nodes r c ≠ some newline := fun shown =>
  let ⟨i, within, same⟩ := overlayPaint_eq_some shown
  glyphs i within same

/-- The building pass paints `'#'` or nothing, never the newline. -/
theorem buildingPaint_ne_newline (W H : ℤ) (cellMeters : α) (buildings : List (Box α)) (r c : ℤ) :
    buildingPaint W H cellMeters buildings r c ≠ some newline := by
  unfold buildingPaint
  split <;> decide

/-- Below 181 nodes no single-list glyph is the newline byte; from 181 on, node 179 is `'a' + 169 = '\n'`. -/
theorem nodeChar_ne_newline {count i : ℕ} (small : count ≤ 180) (within : i < count) :
    nodeChar count i ≠ newline := by
  intro same
  have code := congrArg UInt8.toNat same
  rw [nodeChar_toNat, show newline.toNat = 10 from rfl] at code
  split_ifs at code <;> omega

/-- The character `c + i` is the newline byte only when its code wraps around to 10. -/
theorem glyph_add_ne_newline {c : Char} {i : ℕ} (clear : (c.toNat % 256 + i) % 256 ≠ 10) :
    glyph c + i.toUInt8 ≠ newline := fun same => clear (by
  simpa [glyph, newline, UInt8.toNat_add, UInt8.size] using congrArg UInt8.toNat same)

/-- The four-group glyphs: the mesh digits `'0' + i` reach the newline byte only at node 218, the STA letters `'A' + i` only at node 201. -/
theorem Backhaul.nodeChar_ne_newline {i : ℕ} :
    Backhaul.nodeChar 'B' i ≠ newline ∧ (i < 218 → Backhaul.nodeChar 'M' i ≠ newline) ∧
      (i < 201 → Backhaul.nodeChar 'S' i ≠ newline) := by
  -- `'0'` is 48 and `'A'` is 65, and no smaller index wraps to 10.
  refine ⟨show glyph 'B' ≠ newline by decide, fun small => glyph_add_ne_newline ?_,
    fun small => glyph_add_ne_newline ?_⟩
  · change (48 % 256 + i) % 256 ≠ 10
    omega
  · change (65 % 256 + i) % 256 ≠ 10
    omega

/-- Sayed's `'Y'` and Sadia's `'D'` are not the newline. -/
theorem Backhaul.sayedSadiaChar_ne_newline (i : ℕ) : Backhaul.sayedSadiaChar i ≠ newline := by
  unfold Backhaul.sayedSadiaChar
  split <;> decide

end Glyphs

/-- A notation printing a value's floor, enough to run the writers on exact rationals. -/
def floorFormat : DoubleFormat ℚ :=
  ⟨fun _ _ v => text (toString ⌊v⌋), fun _ _ v => newline_not_mem_int ⌊v⌋⟩

section Readback

variable {α : Type*} [LinearOrderedField α] [FloorRing α] (format : DoubleFormat α)

/--
The map reads back out of the single-list file: the lines between the ruler and the first blank
line, each without its label, are the rows of the grid the rasterizer drew.

The caller supplies at most 180 nodes, so that no glyph wraps around to the newline byte, and a
field from 0 to below 10000 metres, so that every row label fits the four characters of `std::setw(4)`.
-/
theorem readMap_writeAsciiPositionGridOutput (nodes : List (Option (Vector α))) (buildings : List (Box α))
    (small : nodes.length ≤ 180) {fieldMeters cellMeters : α} (field : 0 ≤ fieldMeters)
    (bounded : fieldMeters < 10000) (cell : 0 < cellMeters) :
    ∃ grid file, writeAsciiPositionGrid nodes buildings fieldMeters cellMeters = some grid ∧
      writeAsciiPositionGridOutput format nodes buildings fieldMeters cellMeters = some file ∧
      readMap file = grid := by
  -- The file is the map part and a blank line in front of the listings, and no row holds a newline.
  obtain ⟨grid, ran, shaped, cells⟩ := writeAsciiPositionGrid_paints nodes buildings field cell
  have clean := Grid.newline_not_mem_rows shaped fun r c inside => by
    rw [cells r c inside]
    exact or_ne_some_newline (overlayPaint_ne_newline (fun i within => nodeChar_ne_newline small within) r c)
      (or_ne_some_newline (buildingPaint_ne_newline _ _ _ _ r c) (by decide))
  refine ⟨grid, (fileLines format nodes buildings (gridWidth fieldMeters cellMeters) cellMeters grid).flatMap
    (· ++ [newline]), ran, writeAsciiPositionGridOutput_of_grid format ran, ?_⟩
  simp only [fileLines, List.append_assoc]
  exact readMap_mapLines format (newline_not_mem_legendLine _) shaped.1 clean
    (fun gy member => yLabel_bounds field bounded cell member) _

/-- Sayed and Sadia at opposite corners of the scenarios' field, with one building, read back from the file. -/
theorem readMap_writeAsciiPositionGridOutput_corners :
    [some (⟨0, 0⟩ : Vector ℚ), some ⟨400, 400⟩].length ≤ 180 ∧ (0 : ℚ) ≤ 400 ∧ (400 : ℚ) < 10000 ∧
      (0 : ℚ) < 10 ∧
      ∃ grid file, writeAsciiPositionGrid [some ⟨0, 0⟩, some ⟨400, 400⟩] [⟨0, 60, 96, 104, 0, 10⟩]
          (400 : ℚ) 10 = some grid ∧
        writeAsciiPositionGridOutput floorFormat [some ⟨0, 0⟩, some ⟨400, 400⟩] [⟨0, 60, 96, 104, 0, 10⟩]
          400 10 = some file ∧
        readMap file = grid :=
  ⟨by decide, by norm_num, by norm_num, by norm_num,
    readMap_writeAsciiPositionGridOutput floorFormat _ _ (by decide) (by norm_num) (by norm_num) (by norm_num)⟩

/-- A map line whose last cell is the newline is cut there, and the empty line after the cut ends the map. -/
theorem readMap_cut {lines : List (List Glyph)} (four : lines.length = 4) (clean : ∀ line ∈ lines, newline ∉ line)
    {cut : List Glyph} (cutClean : newline ∉ cut) (filled : cut ≠ []) (more : List (List Glyph)) :
    readMap ((lines ++ (cut ++ [newline]) :: more).flatMap (· ++ [newline])) = [cut.drop 5] := by
  have shape : (lines ++ (cut ++ [newline]) :: more).flatMap (· ++ [newline]) =
      (lines ++ [cut]).flatMap (· ++ [newline]) ++ newline :: more.flatMap (· ++ [newline]) := by
    simp [List.flatMap_append, List.append_assoc]
  have split := splitOn_flatMap_append (newline :: more.flatMap (· ++ [newline])) (lines ++ [cut])
    fun line member => by
      rcases List.mem_append.mp member with early | last
      · exact clean line early
      · rw [List.mem_singleton.mp last]
        exact cutClean
  obtain ⟨a, b, c, d, rfl⟩ : ∃ a b c d, lines = [a, b, c, d] := by
    match lines, four with
    | [a, b, c, d], _ => exact ⟨a, b, c, d, rfl⟩
  cases cut with
  | nil => exact absurd rfl filled
  | cons g cells =>
    rw [shape, readMap, split]
    simp [List.splitOn]

/-- A grid of one cell is the row of that cell. -/
theorem Grid.eq_single_of_shaped {grid : Grid} (shaped : grid.Shaped 1 1) {g : Glyph}
    (shown : grid.read 0 0 = some g) : grid = [[g]] := by
  obtain ⟨rows, cols⟩ := shaped
  obtain ⟨row, rfl⟩ := List.length_eq_one.mp (by exact_mod_cast rows)
  obtain ⟨cell, rfl⟩ := List.length_eq_one.mp (by exact_mod_cast cols row (List.mem_singleton_self _))
  simp_all [Grid.read]

/-- A file whose one-cell map holds the newline reads back as one empty row: the newline cuts the map line after its label. -/
theorem readMap_fileLines_newline (nodes : List (Option (Vector α))) (buildings : List (Box α)) :
    readMap ((fileLines format nodes buildings 1 1 [[newline]]).flatMap (· ++ [newline])) = [[]] := by
  have label : yLabel 1 (1 : α) 0 = 0 := by simp [yLabel, truncToInt]
  have labelled := length_rowLabel (le_refl (0 : ℤ)) (by norm_num)
  have row : (intRange 0 (1 - 1)).map (rowLine 1 (1 : α) [[newline]]) =
      [(padLeft 4 (glyph ' ') (text (toString (0 : ℤ))) ++ text " ") ++ [newline]] := by
    simp [intRange, rowLine, label, List.range_succ]
  have clean : ∀ line ∈ [headerLine format 1 1 (1 : α), legendLine nodes.length, [], rulerLine 1 (1 : α)],
      newline ∉ line := by
    simp [newline_not_mem_headerLine, newline_not_mem_legendLine, newline_not_mem_rulerLine]
  have cutClean : newline ∉ padLeft 4 (glyph ' ') (text (toString (0 : ℤ))) ++ text " " :=
    List.not_mem_append (newline_not_mem_padLeft (newline_not_mem_int 0)) (by decide)
  have filled : padLeft 4 (glyph ' ') (text (toString (0 : ℤ))) ++ text " " ≠ [] := fun empty => by
    simp [empty] at labelled
  have read := readMap_cut (show [headerLine format 1 1 (1 : α), legendLine nodes.length, [],
      rulerLine 1 (1 : α)].length = 4 from rfl) clean cutClean filled
    ([[], text "Nodes:"] ++ listingLines format (nodeTitleText nodes.length) id nodes ++
      buildingLines format (nodes.any Option.isSome) (if nodes.any Option.isSome then 1 else 6) buildings)
  simp only [fileLines, mapLines, row, List.append_assoc, List.cons_append, List.nil_append] at read ⊢
  rw [read, List.drop_eq_nil_of_le labelled.le]

/--
Past 180 nodes the read-back fails, for every node count: node 179, alone on the one cell of an
empty field, is drawn as `'a' + 169`, the newline byte, and the reader takes its map line as empty.
-/
theorem readMap_writeAsciiPositionGridOutput_wraps {count : ℕ} (many : 181 ≤ count) :
    ∃ nodes : List (Option (Vector α)), nodes.length = count ∧ ∃ grid file,
      writeAsciiPositionGrid nodes [] 0 1 = some grid ∧
      writeAsciiPositionGridOutput format nodes [] 0 1 = some file ∧ readMap file ≠ grid := by
  -- Only node 179 has a mobility model, at the origin, which rounds to cell `(0, 0)`.
  set nodes : List (Option (Vector α)) := (List.replicate count none).set 179 (some ⟨0, 0⟩) with named
  have length : nodes.length = count := by simp [nodes]
  have corner : nodeCell (1 : α) 0 = 0 := by norm_num [nodeCell, roundToInt, Int.floor_eq_iff]
  have last : LastAt (1 : α) nodes 179 0 0 := by
    refine ⟨⟨⟨0, 0⟩, ?_, corner, corner⟩, fun j later ⟨p, found, _⟩ => ?_⟩
    · rw [named, List.getElem?_set_self (by rw [List.length_replicate]; omega)]
    · rw [named, List.getElem?_set_ne later.ne, List.getElem?_replicate] at found
      split_ifs at found
      simp at found
  have wraps : nodeChar count 179 = newline := by
    rw [UInt8.ext_iff, nodeChar_toNat, if_neg (by omega), if_neg (by omega), if_neg (by omega)]
    rfl
  -- The one cell shows the newline, so the grid is the single row `[newline]`.
  obtain ⟨grid, ran, shaped, cells⟩ := writeAsciiPositionGrid_overlay nodes [] le_rfl one_pos
    (show (1 : ℤ) = ⌊(0 : α) / 1⌋ + 1 by simp)
  have shown := cells 0 0 le_rfl one_pos le_rfl one_pos
  rw [overlayPaint_or.1 179 last, length, wraps] at shown
  obtain rfl := Grid.eq_single_of_shaped shaped shown
  have width : gridWidth (0 : α) 1 = 1 := by rw [gridWidth_eq le_rfl one_pos]; simp
  refine ⟨nodes, length, [[newline]], _, ran, writeAsciiPositionGridOutput_of_grid format ran, ?_⟩
  rw [width, readMap_fileLines_newline]
  simp

/-- With 181 nodes, node 179 on an empty field already breaks the read-back. -/
theorem readMap_writeAsciiPositionGridOutput_wraps_181 :
    181 ≤ 181 ∧ ∃ nodes : List (Option (Vector ℚ)), nodes.length = 181 ∧ ∃ grid file,
      writeAsciiPositionGrid nodes [] 0 1 = some grid ∧
      writeAsciiPositionGridOutput floorFormat nodes [] 0 1 = some file ∧ readMap file ≠ grid :=
  ⟨le_rfl, readMap_writeAsciiPositionGridOutput_wraps floorFormat le_rfl⟩

/--
The map reads back out of the four-group file as the grid the rasterizer drew.

The caller supplies at most 218 mesh nodes and 201 STAs, so that neither `'0' + i` nor `'A' + i`
wraps around to the newline byte, and a field from 0 to below 10000 metres.
-/
theorem Backhaul.readMap_writeAsciiPositionGridOutput_groups
    (meshNodes staNodes backhaulNodes sayedSadiaNodes : NodeContainer α) (buildings : List (Box α))
    (meshSmall : meshNodes.positions.length ≤ 218) (staSmall : staNodes.positions.length ≤ 201)
    {fieldMeters cellMeters : α} (field : 0 ≤ fieldMeters) (bounded : fieldMeters < 10000)
    (cell : 0 < cellMeters) :
    ∃ grid file, Backhaul.writeAsciiPositionGrid meshNodes.positions staNodes.positions
        backhaulNodes.positions sayedSadiaNodes.positions buildings fieldMeters cellMeters = some grid ∧
      Backhaul.writeAsciiPositionGridOutput format meshNodes staNodes backhaulNodes sayedSadiaNodes
        buildings fieldMeters cellMeters = some file ∧
      readMap file = grid := by
  -- Each layer's glyphs stay off the newline, so no row holds one.
  obtain ⟨grid, ran, shaped, cells⟩ := Backhaul.writeAsciiPositionGrid_paints meshNodes.positions
    staNodes.positions backhaulNodes.positions sayedSadiaNodes.positions buildings field cell
  have clean := Grid.newline_not_mem_rows shaped fun r c inside => by
    rw [cells r c inside]
    refine or_ne_some_newline (overlayPaint_ne_newline (fun i _ => Backhaul.sayedSadiaChar_ne_newline i) r c) ?_
    refine or_ne_some_newline (overlayPaint_ne_newline
      (fun i within => Backhaul.nodeChar_ne_newline.2.2 (by omega)) r c) ?_
    refine or_ne_some_newline (overlayPaint_ne_newline
      (fun i within => Backhaul.nodeChar_ne_newline.2.1 (by omega)) r c) ?_
    exact or_ne_some_newline (overlayPaint_ne_newline (fun i _ => Backhaul.nodeChar_ne_newline.1) r c)
      (or_ne_some_newline (buildingPaint_ne_newline _ _ _ _ r c) (by decide))
  refine ⟨grid, (Backhaul.fileLines format meshNodes staNodes backhaulNodes sayedSadiaNodes buildings
    (gridWidth fieldMeters cellMeters) cellMeters grid).flatMap (· ++ [newline]), ran,
    Backhaul.writeAsciiPositionGridOutput_of_grid format ran, ?_⟩
  simp only [Backhaul.fileLines, Backhaul.nodesLines, List.append_assoc]
  exact readMap_mapLines format (by decide) shaped.1 clean
    (fun gy member => yLabel_bounds field bounded cell member) _

/-- The backhaul scenario's four mesh APs, one STA, one backhaul node and Sayed and Sadia, read back from the file. -/
theorem Backhaul.readMap_writeAsciiPositionGridOutput_scenario :
    (backhaulMesh : List (Option (Vector ℚ))).length ≤ 218 ∧ [some (⟨200, 200⟩ : Vector ℚ)].length ≤ 201 ∧
      (0 : ℚ) ≤ 400 ∧ (400 : ℚ) < 10000 ∧ (0 : ℚ) < 10 ∧
      ∃ grid file, Backhaul.writeAsciiPositionGrid backhaulMesh [some ⟨200, 200⟩] [some ⟨0, 200⟩]
          [some ⟨0, 0⟩, some ⟨400, 400⟩] [⟨0, 60, 96, 104, 0, 10⟩] (400 : ℚ) 10 = some grid ∧
        Backhaul.writeAsciiPositionGridOutput floorFormat ⟨backhaulMesh, (· + 1)⟩ ⟨[some ⟨200, 200⟩], (· + 5)⟩
          ⟨[some ⟨0, 200⟩], fun _ => 0⟩ ⟨[some ⟨0, 0⟩, some ⟨400, 400⟩], (· + 6)⟩ [⟨0, 60, 96, 104, 0, 10⟩]
          400 10 = some file ∧
        readMap file = grid :=
  ⟨by simp [backhaulMesh], by decide, by norm_num, by norm_num, by norm_num,
    Backhaul.readMap_writeAsciiPositionGridOutput_groups floorFormat ⟨backhaulMesh, (· + 1)⟩
      ⟨[some ⟨200, 200⟩], (· + 5)⟩ ⟨[some ⟨0, 200⟩], fun _ => 0⟩ ⟨[some ⟨0, 0⟩, some ⟨400, 400⟩], (· + 6)⟩ _
      (by simp [backhaulMesh]) (by decide) (by norm_num) (by norm_num) (by norm_num)⟩

end Readback

section Ruler

variable {α : Type*} [LinearOrderedField α] [FloorRing α]

end Ruler


end Playfield
