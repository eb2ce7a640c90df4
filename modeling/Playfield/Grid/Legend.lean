import Playfield.Grid.Cells

/-! The glyphs the legends promise against the ones `nodeChar` draws, whose character arithmetic wraps at 256, and the grid read back while they agree. -/

namespace Playfield

/-- A byte built from a natural number keeps its value modulo 256. -/
@[simp] theorem toNat_toUInt8 (n : ℕ) : n.toUInt8.toNat = n % 256 := by
  simp [Nat.toUInt8, UInt8.ofNat, UInt8.toNat]

/-- The single-list `nodeChar` as a byte value: `S`, `D`, then `'0' + i` and `'a' + (i - 10)`, modulo 256. -/
theorem nodeChar_toNat (count i : ℕ) :
    (nodeChar count i).toNat =
      if i = 0 then 83 else if i + 1 = count then 68 else if i < 10 then (48 + i) % 256
      else (87 + i) % 256 := by
  -- The literals are `'S' = 83`, `'D' = 68`, `'0' = 48` and `'a' = 97`.
  have zero : (glyph '0').toNat = 48 := by decide
  have letter : (glyph 'a').toNat = 97 := by decide
  unfold nodeChar
  split_ifs with first last digit
  · decide
  · decide
  · rw [UInt8.toNat_add, zero, toNat_toUInt8]
    simp [UInt8.size]
  · rw [UInt8.toNat_add, letter, toNat_toUInt8]
    simp only [UInt8.size, Nat.add_mod_mod]
    congr 1
    omega

/-- The glyph classes the single-list legend names: `S`, `D`, a digit or a lowercase letter. -/
def LegendGlyph (g : Glyph) : Prop :=
  g = glyph 'S' ∨ g = glyph 'D' ∨ (48 ≤ g.toNat ∧ g.toNat ≤ 57) ∨ (97 ≤ g.toNat ∧ g.toNat ≤ 122)

/-- No glyph of the legend's node classes is the free-cell `'.'` or the building `'#'`. -/
theorem LegendGlyph.ne_free_building {g : Glyph} (legend : LegendGlyph g) :
    g ≠ glyph '.' ∧ g ≠ glyph '#' := by
  -- As bytes, `'.' = 46` and `'#' = 35` are neither `'S' = 83` nor `'D' = 68`, and lie below the digits.
  have dot : (glyph '.').toNat = 46 := by decide
  have hash : (glyph '#').toNat = 35 := by decide
  have ess : (glyph 'S').toNat = 83 := by decide
  have dee : (glyph 'D').toNat = 68 := by decide
  rw [LegendGlyph, UInt8.ext_iff, UInt8.ext_iff, ess, dee] at legend
  constructor <;> rintro rfl
  · rw [dot] at legend
    omega
  · rw [hash] at legend
    omega

/--
With at most 37 nodes, the single-list glyphs name distinct nodes, and each is `S`, `D`,
a digit or a lowercase letter as the legend says, so never `'.'` or `'#'`.
-/
theorem nodeChar_decodable {count : ℕ} (small : count ≤ 37) :
    (∀ i < count, LegendGlyph (nodeChar count i)) ∧
      ∀ i < count, ∀ j < count, nodeChar count i = nodeChar count j → i = j := by
  -- Every index below 36 that is neither first nor last stays inside the digits or the letters.
  have ess : (glyph 'S').toNat = 83 := by decide
  have dee : (glyph 'D').toNat = 68 := by decide
  refine ⟨fun i within => ?_, fun i within j within' same => ?_⟩
  · have code := nodeChar_toNat count i
    unfold LegendGlyph
    rw [UInt8.ext_iff, UInt8.ext_iff, code, ess, dee]
    split_ifs <;> omega
  · have codes := congrArg UInt8.toNat same
    rw [nodeChar_toNat, nodeChar_toNat] at codes
    split_ifs at codes <;> omega

section Decode

variable {α : Type*} [LinearOrderedField α] [FloorRing α]

/--
With at most 37 nodes the single-list grid reads back: an in-range cell shows node `i`'s glyph
exactly when node `i` is the last node rounded there, and `'.'` or `'#'` exactly when none is.
-/
theorem writeAsciiPositionGrid_decodable (nodes : List (Option (Vector α))) (buildings : List (Box α))
    (small : nodes.length ≤ 37) {fieldMeters cellMeters : α} (field : 0 ≤ fieldMeters)
    (cell : 0 < cellMeters) {W : ℤ} (side : W = ⌊fieldMeters / cellMeters⌋ + 1) :
    ∃ grid, writeAsciiPositionGrid nodes buildings fieldMeters cellMeters = some grid ∧
      grid.Shaped W W ∧
      ∀ gx gy, 0 ≤ gx → gx < W → 0 ≤ gy → gy < W →
        (∀ i < nodes.length, grid.read (W - 1 - gy) gx = some (nodeChar nodes.length i) ↔
          LastAt cellMeters nodes i gx gy) ∧
        (grid.read (W - 1 - gy) gx = some (glyph '.') ∨ grid.read (W - 1 - gy) gx = some (glyph '#') ↔
          Vacant cellMeters nodes gx gy) := by
  -- A node glyph names one node and is neither background glyph, so each reading has one cause.
  obtain ⟨legend, distinct⟩ := nodeChar_decodable small
  obtain ⟨grid, ran, shaped, cells⟩ := writeAsciiPositionGrid_overlay nodes buildings field cell side
  refine ⟨grid, ran, shaped, fun gx gy left right low high => ?_⟩
  rw [cells gx gy left right low high]
  by_cases vacant : Vacant cellMeters nodes gx gy
  · -- No node stands there: the building pass's verdict shows, and no node glyph is one.
    rw [overlayPaint_or.2 vacant]
    refine ⟨fun i within => ⟨fun shown => ?_, fun last => absurd last.1 (vacant i)⟩,
      fun _ => vacant, fun _ => by split <;> simp⟩
    obtain ⟨dot, hash⟩ := (legend i within).ne_free_building
    have drawn := Option.some.inj shown
    split_ifs at drawn
    · exact absurd drawn.symm hash
    · exact absurd drawn.symm dot
  · -- The last node standing there shows, and its glyph names it alone.
    obtain ⟨j, last⟩ := exists_lastAt vacant
    obtain ⟨dot, hash⟩ := (legend j last.1.index_lt).ne_free_building
    rw [overlayPaint_or.1 j last]
    refine ⟨fun i within => ⟨fun shown => ?_, fun other => by rw [last.unique other]⟩,
      fun shown => ?_, fun gone => absurd gone vacant⟩
    · rw [distinct i within j last.1.index_lt (Option.some.inj shown).symm]
      exact last
    · rcases shown with same | same
      · exact absurd (Option.some.inj same) dot
      · exact absurd (Option.some.inj same) hash

/-- Sayed and Sadia at opposite corners of the scenarios' field, with one building, read back from the grid. -/
theorem writeAsciiPositionGrid_decodable_corners :
    [some (⟨0, 0⟩ : Vector ℚ), some ⟨400, 400⟩].length ≤ 37 ∧ (0 : ℚ) ≤ 400 ∧ (0 : ℚ) < 10 ∧
    (41 : ℤ) = ⌊(400 : ℚ) / 10⌋ + 1 ∧
    ∃ grid, writeAsciiPositionGrid [some ⟨0, 0⟩, some ⟨400, 400⟩] [⟨0, 60, 96, 104, 0, 10⟩]
        (400 : ℚ) 10 = some grid ∧
      grid.Shaped 41 41 ∧
      ∀ gx gy, 0 ≤ gx → gx < 41 → 0 ≤ gy → gy < 41 →
        (∀ i < 2, grid.read (41 - 1 - gy) gx = some (nodeChar 2 i) ↔
          LastAt (10 : ℚ) [some ⟨0, 0⟩, some ⟨400, 400⟩] i gx gy) ∧
        (grid.read (41 - 1 - gy) gx = some (glyph '.') ∨ grid.read (41 - 1 - gy) gx = some (glyph '#') ↔
          Vacant (10 : ℚ) [some ⟨0, 0⟩, some ⟨400, 400⟩] gx gy) := by
  have side : (41 : ℤ) = ⌊(400 : ℚ) / 10⌋ + 1 := by norm_num [Int.floor_eq_iff]
  exact ⟨by decide, by norm_num, by norm_num, side,
    writeAsciiPositionGrid_decodable _ _ (by decide) (by norm_num) (by norm_num) side⟩

end Decode

/-- Past 37 nodes the letters run out: node 36 of 38 is `'{'`, node 204 of 206 the building glyph `'#'`, and nodes 10 and 266 of 268 share `'a'`. -/
theorem nodeChar_leaves_legend :
    nodeChar 38 36 = glyph '{' ∧ nodeChar 206 204 = glyph '#' ∧ nodeChar 268 10 = nodeChar 268 266 := by
  decide

/-- In the backhaul scenario's own groups, STA 1 is drawn as the backhaul's `'B'`, STA 3 as Sadia's `'D'`, and STA 24 would be Sayed's `'Y'`. -/
theorem Backhaul.nodeChar_sta_collides :
    Backhaul.nodeChar 'S' 1 = Backhaul.nodeChar 'B' 0 ∧
      Backhaul.nodeChar 'S' 3 = Backhaul.sayedSadiaChar 1 ∧
      Backhaul.nodeChar 'S' 24 = Backhaul.sayedSadiaChar 0 := by
  decide

end Playfield
