import Playfield.Geometry.Box

/-! The character grid the rasterizers draw on, its bounds-checked stores, and what a loop of stores paints. -/

namespace Playfield

/-- One cell of the grid: a C++ `char`, that is a byte. -/
abbrev Glyph := UInt8

/-- The byte of a character literal of the source. -/
def glyph (c : Char) : Glyph := c.toNat.toUInt8

/-- `std::vector<std::string> grid`: the rows from top to bottom, each a string of cells. -/
abbrev Grid := List (List Glyph)

namespace Grid

/-- The cell `grid[row][col]`, when both indices land inside. -/
def read (grid : Grid) (row col : ℤ) : Option Glyph :=
  if 0 ≤ row ∧ 0 ≤ col then (grid[row.toNat]?).bind (fun cells => cells[col.toNat]?) else none

/-- `grid[row][col] = g` on a cell that exists: the row is rebuilt with the one cell replaced. -/
def write (grid : Grid) (row col : ℤ) (g : Glyph) : Grid :=
  grid.set row.toNat ((grid.getD row.toNat []).set col.toNat g)

/-- The store `grid[row][col] = g`; an index past either end is undefined behaviour, which fails here. -/
def store (grid : Grid) (row col : ℤ) (g : Glyph) : Option Grid :=
  if 0 ≤ row ∧ 0 ≤ col ∧ row.toNat < grid.length ∧ col.toNat < (grid.getD row.toNat []).length then
    some (grid.write row col g)
  else none

/-- `std::vector<std::string> grid(H, std::string(W, '.'))`; a negative size throws, which fails here. -/
def blank (W H : ℤ) : Option Grid :=
  if 0 ≤ W ∧ 0 ≤ H then some (List.replicate H.toNat (List.replicate W.toNat (glyph '.'))) else none

/-- The grid has `H` rows of `W` cells each. -/
def Shaped (grid : Grid) (W H : ℤ) : Prop :=
  (grid.length : ℤ) = H ∧ ∀ cells ∈ grid, (cells.length : ℤ) = W

end Grid

/-- The cell `(row, col)` lies inside a grid of `H` rows of `W` cells. -/
def InRange (W H row col : ℤ) : Prop :=
  0 ≤ row ∧ row < H ∧ 0 ≤ col ∧ col < W

instance (W H row col : ℤ) : Decidable (InRange W H row col) :=
  inferInstanceAs (Decidable (_ ∧ _))

namespace Grid

variable {grid : Grid} {W H row col : ℤ}

/-- A store inside a shaped grid succeeds. -/
theorem store_eq (shaped : grid.Shaped W H) (inside : InRange W H row col) (g : Glyph) :
    grid.store row col g = some (grid.write row col g) := by
  -- The row exists, and like every row it has `W` cells.
  obtain ⟨rows, cols⟩ := shaped
  obtain ⟨top, bottom, left, right⟩ := inside
  have present : row.toNat < grid.length := by omega
  have width := cols _ (List.getElem_mem present)
  have long : col.toNat < (grid.getD row.toNat []).length := by
    rw [List.getD_eq_getElem?_getD, List.getElem?_eq_getElem present, Option.getD_some]
    omega
  exact if_pos ⟨top, left, present, long⟩

/-- Replacing one cell keeps the grid's shape. -/
theorem Shaped.write (shaped : grid.Shaped W H) (inside : InRange W H row col) (g : Glyph) :
    (grid.write row col g).Shaped W H := by
  -- The replaced row keeps its length, and every other row is untouched.
  obtain ⟨rows, cols⟩ := shaped
  obtain ⟨top, bottom, left, right⟩ := inside
  refine ⟨by simpa [Grid.write] using rows, fun cells member => ?_⟩
  rcases List.mem_or_eq_of_mem_set member with old | rfl
  · exact cols cells old
  · have present : row.toNat < grid.length := by omega
    rw [List.length_set, List.getD_eq_getElem?_getD, List.getElem?_eq_getElem present,
      Option.getD_some]
    exact cols _ (List.getElem_mem present)

/-- Replacing one cell changes what that cell reads and nothing else. -/
theorem read_write (shaped : grid.Shaped W H) (inside : InRange W H row col) (g : Glyph) (r c : ℤ) :
    (grid.write row col g).read r c = if r = row ∧ c = col then some g else grid.read r c := by
  obtain ⟨rows, cols⟩ := shaped
  obtain ⟨top, bottom, left, right⟩ := inside
  have present : row.toNat < grid.length := by omega
  have width := cols _ (List.getElem_mem present)
  unfold read write
  by_cases natural : 0 ≤ r ∧ 0 ≤ c
  · -- Inside the nonnegative quadrant, compare the indices as natural numbers.
    have rowIff : row.toNat = r.toNat ↔ r = row := by omega
    have colIff : col.toNat = c.toNat ↔ c = col := by omega
    simp only [natural, and_self, if_true, List.getElem?_set, rowIff, colIff,
      List.getD_eq_getElem?_getD, List.getElem?_eq_getElem present, Option.getD_some]
    by_cases sameRow : r = row
    · subst sameRow
      by_cases sameCol : c = col
      · simp [sameCol, present, show col.toNat < grid[r.toNat].length by omega]
      · simp [sameCol, present, List.getElem?_set_ne fun same => sameCol (colIff.mp same)]
    · simp [sameRow]
  · rw [if_neg natural, if_neg fun ⟨_, _⟩ => natural ⟨by omega, by omega⟩, if_neg natural]

/-- The blank grid of a nonnegative size has its shape, with `'.'` in every cell. -/
theorem blank_eq (wide : 0 ≤ W) (tall : 0 ≤ H) :
    ∃ grid, blank W H = some grid ∧ grid.Shaped W H ∧
      ∀ r c, InRange W H r c → grid.read r c = some (glyph '.') := by
  refine ⟨_, if_pos ⟨wide, tall⟩, ⟨by simpa using tall, fun cells member => ?_⟩,
    fun r c ⟨top, bottom, left, right⟩ => ?_⟩
  · rw [(List.mem_replicate.mp member).2, List.length_replicate]
    omega
  · have notNeg : 0 ≤ r ∧ 0 ≤ c := ⟨top, left⟩
    simp only [read, notNeg, and_self, if_true, List.getElem?_replicate,
      show r.toNat < H.toNat by omega, show c.toNat < W.toNat by omega, if_true, Option.some_bind]

end Grid

section Paint

variable {β : Type*} {W H : ℤ}

/--
A loop body that, on every grid of `H` rows of `W` cells, succeeds and keeps that shape,
leaving each cell as `paint` says: the glyph it names, or the old content where it names none.
-/
def Paints (W H : ℤ) (body : Grid → Option Grid) (paint : ℤ → ℤ → Option Glyph) : Prop :=
  ∀ grid : Grid, grid.Shaped W H → ∃ after, body grid = some after ∧ after.Shaped W H ∧
    ∀ r c, InRange W H r c → after.read r c = (paint r c).or (grid.read r c)

/-- What a loop of bodies paints: each cell shows the glyph written there last. -/
def lastPaint (paint : β → ℤ → ℤ → Option Glyph) : List β → ℤ → ℤ → Option Glyph
  | [], _, _ => none
  | x :: rest, r, c => (lastPaint paint rest r c).or (paint x r c)

namespace Paints

/-- A store inside the grid paints its one cell. -/
theorem store {row col : ℤ} (inside : InRange W H row col) (g : Glyph) :
    Paints W H (fun grid => grid.store row col g)
      (fun r c => if r = row ∧ c = col then some g else none) := by
  intro grid shaped
  refine ⟨_, Grid.store_eq shaped inside g, shaped.write inside g, fun r c _ => ?_⟩
  rw [Grid.read_write shaped inside]
  by_cases here : r = row ∧ c = col <;> simp [here, Option.or]

/-- A body that leaves the grid alone paints nothing. -/
theorem skip : Paints W H some fun _ _ => none :=
  fun grid shaped => ⟨grid, rfl, shaped, fun _ _ _ => rfl⟩

/-- Only the cells inside the grid matter to what a body paints. -/
theorem congr {body : Grid → Option Grid} {paint paint' : ℤ → ℤ → Option Glyph}
    (paints : Paints W H body paint) (same : ∀ r c, InRange W H r c → paint r c = paint' r c) :
    Paints W H body paint' := by
  intro grid shaped
  obtain ⟨after, ran, kept, cells⟩ := paints grid shaped
  exact ⟨after, ran, kept, fun r c inside => by rw [cells r c inside, same r c inside]⟩

/-- Running one body after another paints the second over the first. -/
theorem bind {first second : Grid → Option Grid} {paint paint' : ℤ → ℤ → Option Glyph}
    (before : Paints W H first paint) (after : Paints W H second paint') :
    Paints W H (fun grid => first grid >>= second) fun r c => (paint' r c).or (paint r c) := by
  intro grid shaped
  obtain ⟨middle, ran, kept, cells⟩ := before grid shaped
  obtain ⟨last, ran', kept', cells'⟩ := after middle kept
  refine ⟨last, by simp [ran, ran'], kept', fun r c inside => ?_⟩
  rw [cells' r c inside, cells r c inside, Option.or_assoc]

/-- A loop whose every pass paints gives the last glyph written to each cell. -/
theorem foldlM {body : β → Grid → Option Grid} {paint : β → ℤ → ℤ → Option Glyph} :
    ∀ xs : List β, (∀ x ∈ xs, Paints W H (body x) (paint x)) →
      Paints W H (fun grid => xs.foldlM (fun grid x => body x grid) grid) (lastPaint paint xs)
  | [], _ => skip
  | x :: rest, passes => by
    -- The first pass, then the rest of the loop over what it left.
    have rest_paints := foldlM rest fun y member => passes y (List.mem_cons_of_mem x member)
    have both := bind (passes x (List.mem_cons_self x rest)) rest_paints
    simpa only [List.foldlM_cons] using both

end Paints

/-- A loop writing one glyph shows it exactly where some pass hit. -/
theorem lastPaint_const (hit : β → ℤ → ℤ → Prop) [∀ x r c, Decidable (hit x r c)] (g : Glyph)
    (xs : List β) (r c : ℤ) :
    lastPaint (fun x r c => if hit x r c then some g else none) xs r c =
      if ∃ x ∈ xs, hit x r c then some g else none := by
  induction xs with
  | nil => simp [lastPaint]
  | cons x rest ih =>
    rw [lastPaint, ih]
    by_cases later : ∃ y ∈ rest, hit y r c
    · simp [later, Option.or]
    · by_cases here : hit x r c <;> simp [later, here, Option.or]

/-- A pass-indexed loop paints nothing where no pass writes. -/
theorem lastPaint_enumFrom_none (paint : ℕ × β → ℤ → ℤ → Option Glyph) (r c : ℤ) :
    ∀ (xs : List β) (k : ℕ), (∀ j (within : j < xs.length), paint (k + j, xs[j]) r c = none) →
      lastPaint paint (xs.enumFrom k) r c = none
  | [], _, _ => rfl
  | x :: rest, k, silent => by
    have later := lastPaint_enumFrom_none paint r c rest (k + 1) fun j within => by
      simpa [Nat.add_right_comm, Nat.add_assoc] using silent (j + 1) (Nat.succ_lt_succ within)
    simpa [lastPaint, later] using silent 0 (Nat.succ_pos _)

/-- A pass-indexed loop shows, at each cell, what its last pass writing there wrote. -/
theorem lastPaint_enumFrom_last (paint : ℕ × β → ℤ → ℤ → Option Glyph) (r c : ℤ) (g : Glyph) :
    ∀ (xs : List β) (k i : ℕ) (within : i < xs.length), paint (k + i, xs[i]) r c = some g →
      (∀ j (within' : j < xs.length), i < j → paint (k + j, xs[j]) r c = none) →
      lastPaint paint (xs.enumFrom k) r c = some g
  | [], _, _, within, _, _ => absurd within (Nat.not_lt_zero _)
  | x :: rest, k, 0, _, wrote, silent => by
    -- The head wrote last: nothing after it writes here.
    have later := lastPaint_enumFrom_none paint r c rest (k + 1) fun j within => by
      simpa [Nat.add_right_comm, Nat.add_assoc] using
        silent (j + 1) (Nat.succ_lt_succ within) (Nat.succ_pos _)
    simpa [lastPaint, later] using wrote
  | x :: rest, k, i + 1, within, wrote, silent => by
    -- A later pass wrote last, and what it wrote covers the head's.
    have later := lastPaint_enumFrom_last paint r c g rest (k + 1) i (Nat.lt_of_succ_lt_succ within)
      (by simpa [Nat.add_right_comm, Nat.add_assoc] using wrote)
      fun j within' before => by
        simpa [Nat.add_right_comm, Nat.add_assoc] using
          silent (j + 1) (Nat.succ_lt_succ within') (Nat.succ_lt_succ before)
    simp [lastPaint, later, Option.or]

end Paint

end Playfield
