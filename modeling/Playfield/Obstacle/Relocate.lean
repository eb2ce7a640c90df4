import Playfield.Geometry.Box

/-! Relocating a building: `UpdateBuildingPosition`, and the nudging loop of `scheduleMoveAvoidingMesh`. -/

namespace Playfield

variable {α : Type*} [LinearOrderedField α]

/-- `UpdateBuildingPosition`: the box of the given width and height whose lower corner is `newPosition`. -/
def updateBuildingPosition (newPosition : Vector α) (width height : α) : Box α :=
  ⟨newPosition.x, newPosition.x + width, newPosition.y, newPosition.y + height, 0, 10⟩

/-- `overlapsMesh`: some mesh node that has a mobility model stands in the box's closed rectangle. -/
def overlapsMesh (meshNodes : List (Option (Vector α))) (bx : Box α) : Bool :=
  meshNodes.any fun node =>
    -- A node without a mobility model is skipped, as `if (!mm) continue;` does.
    match node with
    | none => false
    | some p => decide (bx.Contains p)

/-- The retry bound `guard < 50` of the nudging loop. -/
def nudgeGuard : ℕ := 50

/--
The loop `while (overlapsMesh() && guard < 50)`, entered with `left = 50 - guard` passes allowed.

Each pass moves `desired.x` twenty metres right, capped at `field - w - 1`,
and rebuilds the box's x-range from it.
-/
def nudge (field w : α) (meshNodes : List (Option (Vector α))) :
    ℕ → Vector α → Box α → Vector α × Box α
  | 0, desired, bx => (desired, bx)
  | left + 1, desired, bx =>
    if overlapsMesh meshNodes bx then
      let x := min (field - w - 1) (desired.x + 20)
      nudge field w meshNodes left { desired with x := x } { bx with xMin := x, xMax := x + w }
    else (desired, bx)

/-- The action `scheduleMoveAvoidingMesh` schedules: the box it hands to `SetBoundaries`. -/
def moveAvoidingMesh (field : α) (meshNodes : List (Option (Vector α))) (desired : Vector α)
    (w h : α) : Box α :=
  -- The initial box is built from the desired corner before the loop runs.
  let bx : Box α := ⟨desired.x, desired.x + w, desired.y, desired.y + h, 0, 10⟩
  (nudge field w meshNodes nudgeGuard desired bx).2

/-- A box is hit by the mesh exactly when some present node lies in it. -/
theorem overlapsMesh_iff (meshNodes : List (Option (Vector α))) (bx : Box α) :
    overlapsMesh meshNodes bx = true ↔ ∃ p, some p ∈ meshNodes ∧ bx.Contains p := by
  -- Absent nodes contribute nothing, and present ones are tested by their position.
  simp only [overlapsMesh, List.any_eq_true]
  constructor
  · rintro ⟨node, member, hit⟩
    cases node with
    | none => cases hit
    | some p => exact ⟨p, member, of_decide_eq_true hit⟩
  · rintro ⟨p, member, inside⟩
    exact ⟨some p, member, decide_eq_true inside⟩

/-- The x origin of the `k`-th box tried: the desired one, then `k` shifts of twenty capped at `field - w - 1`. -/
def candidateX (field w x0 : α) (k : ℕ) : α :=
  if k = 0 then x0 else min (field - w - 1) (x0 + 20 * k)

/-- The `k`-th box the loop tries: the candidate origin, with the width and y-range left as asked. -/
def candidateBox (field : α) (desired : Vector α) (w h : α) (k : ℕ) : Box α :=
  ⟨candidateX field w desired.x k, candidateX field w desired.x k + w,
    desired.y, desired.y + h, 0, 10⟩

/-- One capped shift of a candidate origin is the next candidate origin. -/
theorem candidateX_succ (field w x0 : α) (k : ℕ) :
    min (field - w - 1) (candidateX field w x0 k + 20) = candidateX field w x0 (k + 1) := by
  -- Shifting an origin that was already capped cannot pass the cap again.
  rcases Nat.eq_zero_or_pos k with rfl | positive
  · simp [candidateX]
  · simp only [candidateX, Nat.pos_iff_ne_zero.mp positive, if_false, Nat.succ_ne_zero,
      Nat.cast_add, Nat.cast_one]
    rw [← min_add_add_right, ← min_assoc, min_eq_left (le_add_of_nonneg_right (by norm_num : (0 : α) ≤ 20))]
    congr 1
    ring

/--
From the `j`-th candidate, the loop stops at the first candidate no present node lies in,
or when its passes run out.
-/
theorem nudge_candidates (field w h : α) (meshNodes : List (Option (Vector α)))
    (desired : Vector α) :
    ∀ left j, ∃ k, j ≤ k ∧ k ≤ j + left ∧
      nudge field w meshNodes left ⟨candidateX field w desired.x j, desired.y⟩
          (candidateBox field desired w h j) =
        (⟨candidateX field w desired.x k, desired.y⟩, candidateBox field desired w h k) ∧
      (∀ i, j ≤ i → i < k → overlapsMesh meshNodes (candidateBox field desired w h i) = true) ∧
      (k < j + left → overlapsMesh meshNodes (candidateBox field desired w h k) = false) := by
  intro left
  induction left with
  | zero => exact fun j => ⟨j, le_rfl, le_rfl, rfl, fun i low high => absurd high (by omega),
      fun stop => absurd stop (by omega)⟩
  | succ left ih =>
    intro j
    cases hit : overlapsMesh meshNodes (candidateBox field desired w h j) with
    | false =>
      -- A clear candidate ends the loop where it is.
      refine ⟨j, le_rfl, by omega, by simp [nudge, hit], fun i low high => absurd high (by omega),
        fun _ => hit⟩
    | true =>
      -- A hit candidate is shifted into the next one, and the rest of the run starts there.
      obtain ⟨k, low, high, run, hits, clear⟩ := ih (j + 1)
      have shifted := candidateX_succ field w desired.x j
      refine ⟨k, by omega, by omega, ?_, fun i lower upper => ?_, fun stop => clear (by omega)⟩
      · simp only [nudge, hit, if_true]
        simp only [candidateBox, shifted] at run ⊢
        exact run
      · rcases Nat.eq_or_lt_of_le lower with rfl | later
        · exact hit
        · exact hits i later upper

/-- The scheduled action hands `SetBoundaries` the first clear candidate, or the last one the guard allows. -/
theorem moveAvoidingMesh_eq_candidate (field : α) (meshNodes : List (Option (Vector α)))
    (desired : Vector α) (w h : α) :
    ∃ k ≤ nudgeGuard, moveAvoidingMesh field meshNodes desired w h = candidateBox field desired w h k ∧
      (∀ j < k, overlapsMesh meshNodes (candidateBox field desired w h j) = true) ∧
      (k < nudgeGuard → overlapsMesh meshNodes (candidateBox field desired w h k) = false) := by
  -- The loop starts on the zeroth candidate, whose origin is the desired corner itself.
  obtain ⟨k, -, high, run, hits, clear⟩ :=
    nudge_candidates field w h meshNodes desired nudgeGuard 0
  have start : candidateBox field desired w h 0 =
      ⟨desired.x, desired.x + w, desired.y, desired.y + h, 0, 10⟩ := by
    simp [candidateBox, candidateX]
  have corner : (⟨candidateX field w desired.x 0, desired.y⟩ : Vector α) = desired := by
    simp [candidateX]
  rw [corner, start] at run
  exact ⟨k, by omega, by simp only [moveAvoidingMesh, run], fun j => hits j (Nat.zero_le j),
    fun stop => clear (by omega)⟩

/-- Every candidate box keeps the requested width and height, so nonnegative ones give an ordered box. -/
theorem candidateBox_ordered (field : α) (desired : Vector α) {w h : α} (wide : 0 ≤ w)
    (tall : 0 ≤ h) (k : ℕ) : (candidateBox field desired w h k).Ordered :=
  ⟨le_add_of_nonneg_right wide, le_add_of_nonneg_right tall⟩

/-- The box lies in the square field `[0, field] × [0, field]` the scenarios draw. -/
def Box.InField (field : α) (bx : Box α) : Prop :=
  0 ≤ bx.xMin ∧ bx.xMax ≤ field ∧ 0 ≤ bx.yMin ∧ bx.yMax ≤ field

/--
When the desired box lies in the field and its width leaves the one-metre margin, every candidate
does: a shifted origin is capped at `field - w - 1`, and the margin keeps that cap at zero or more.
-/
theorem candidateBox_inField {field w h : α} {desired : Vector α}
    (requested : (candidateBox field desired w h 0).InField field) (margin : w + 1 ≤ field) (k : ℕ) :
    (candidateBox field desired w h k).InField field := by
  obtain ⟨left, right, bottom, top⟩ := requested
  simp only [Box.InField, candidateBox, candidateX, if_pos] at left right bottom top ⊢
  split_ifs with first
  · exact ⟨left, right, bottom, top⟩
  · -- Both arguments of the cap are at least zero, and the cap itself ends a metre short of the edge.
    have shift : (0 : α) ≤ 20 * k := by positivity
    have capped := min_le_left (field - w - 1) (desired.x + 20 * k)
    exact ⟨le_min (by linarith) (by linarith), by linarith, bottom, top⟩

/-- `UpdateBuildingPosition` with nonnegative extents builds an ordered box. -/
theorem updateBuildingPosition_ordered (newPosition : Vector α) {width height : α}
    (wide : 0 ≤ width) (tall : 0 ≤ height) :
    (updateBuildingPosition newPosition width height).Ordered :=
  ⟨le_add_of_nonneg_right wide, le_add_of_nonneg_right tall⟩

/-- The avoiding move with nonnegative extents builds an ordered box, whichever candidate it stops on. -/
theorem moveAvoidingMesh_ordered (field : α) (meshNodes : List (Option (Vector α)))
    (desired : Vector α) {w h : α} (wide : 0 ≤ w) (tall : 0 ≤ h) :
    (moveAvoidingMesh field meshNodes desired w h).Ordered := by
  obtain ⟨k, -, chosen, -⟩ := moveAvoidingMesh_eq_candidate field meshNodes desired w h
  rw [chosen]
  exact candidateBox_ordered field desired wide tall k

/-- The avoiding move keeps a desired box that lies in the field, with its margin, inside the field, whichever candidate it stops on. -/
theorem moveAvoidingMesh_inField (field : α) (meshNodes : List (Option (Vector α)))
    (desired : Vector α) {w h : α} (requested : (candidateBox field desired w h 0).InField field)
    (margin : w + 1 ≤ field) : (moveAvoidingMesh field meshNodes desired w h).InField field := by
  obtain ⟨k, -, chosen, -⟩ := moveAvoidingMesh_eq_candidate field meshNodes desired w h
  rw [chosen]
  exact candidateBox_inField requested margin k

/-- Without the margin the cap lies below zero: a 400-metre box over an AP at the origin of a 400-metre field is pushed to `xMin = -1`. -/
example : (moveAvoidingMesh (400 : ℚ) [some ⟨0, 0⟩] ⟨0, 0⟩ 400 8).xMin = -1 := by
  -- The desired box is hit, so the loop shifts at least once, onto the cap `400 - 400 - 1`.
  obtain ⟨k, -, chosen, -, clear⟩ := moveAvoidingMesh_eq_candidate (400 : ℚ) [some ⟨0, 0⟩] ⟨0, 0⟩ 400 8
  have shifted : k ≠ 0 := by
    rintro rfl
    norm_num [overlapsMesh, candidateBox, candidateX, Box.Contains, nudgeGuard] at clear
  have far : (0 : ℚ) ≤ 20 * k := by positivity
  rw [chosen]
  simp only [candidateBox, candidateX, if_neg shifted]
  rw [min_eq_left (by linarith)]
  norm_num

/--
For every desired corner, extent and mesh layout, the scheduled action hands `SetBoundaries`
the `k`-th candidate box for the least `k ≤ 50` that no present mesh node lies in,
or for `k = 50` when every earlier candidate is hit.
-/
theorem moveAvoidingMesh_first_clear (field : α) (meshNodes : List (Option (Vector α)))
    (desired : Vector α) (w h : α) :
    ∃ k ≤ 50, moveAvoidingMesh field meshNodes desired w h = candidateBox field desired w h k ∧
      (∀ j < k, ∃ p, some p ∈ meshNodes ∧ (candidateBox field desired w h j).Contains p) ∧
      (k < 50 → ∀ p, some p ∈ meshNodes → ¬ (candidateBox field desired w h k).Contains p) := by
  -- The Boolean test of the loop reads as the existence of a node inside the box.
  obtain ⟨k, bound, chosen, hits, clear⟩ := moveAvoidingMesh_eq_candidate field meshNodes desired w h
  refine ⟨k, bound, chosen, fun j early => (overlapsMesh_iff _ _).mp (hits j early),
    fun stop p member inside => ?_⟩
  simpa [clear stop] using (overlapsMesh_iff meshNodes _).mpr ⟨p, member, inside⟩

/-- The box `(40, 100, 40, 60)` over the anchor `(50, 50)` is shifted once, to `(60, 120, 40, 60)`, and kept there. -/
example : moveAvoidingMesh (400 : ℚ) [some ⟨50, 50⟩] ⟨40, 40⟩ 60 20 = ⟨60, 120, 40, 60, 0, 10⟩ := by
  -- The first pass finds the anchor inside and shifts; the second finds the box clear.
  rw [moveAvoidingMesh, nudgeGuard, show (50 : ℕ) = 48 + 1 + 1 from rfl, nudge,
    if_pos (by norm_num [overlapsMesh, Box.Contains]), nudge,
    if_neg (by norm_num [overlapsMesh, Box.Contains])]
  norm_num

end Playfield
