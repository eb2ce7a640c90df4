import Playfield.Geometry.Box

/-! Attaching each UE to its nearest eNB: the scan keeps the earliest eNB of least squared distance. -/

namespace Playfield

variable {α : Type*} [LinearOrderedField α]

/-- `std::numeric_limits<double>::max()`, the distance the scan starts from. -/
def dblMax : α := 2 ^ 1024 - 2 ^ 971

/-- The squared horizontal distance `dx * dx + dy * dy` the scan compares. -/
def dist2 (uePos ep : Vector α) : α :=
  (uePos.x - ep.x) * (uePos.x - ep.x) + (uePos.y - ep.y) * (uePos.y - ep.y)

/-- One pass over eNB `e`: a strictly nearer eNB takes over `bestDist` and `bestEnbIdx`. -/
def scanStep (uePos : Vector α) (best : α × ℕ) (enb : ℕ × Vector α) : α × ℕ :=
  if dist2 uePos enb.2 < best.1 then (dist2 uePos enb.2, enb.1) else best

/-- The inner loop of the attach loop: `bestEnbIdx` once every eNB was visited in index order. -/
def bestEnbIdx (uePos : Vector α) (enbPositions : List (Vector α)) : ℕ :=
  (enbPositions.enum.foldl (scanStep uePos) (dblMax, 0)).2

/-- The attach loop: the eNB each UE is attached to, in UE order. -/
def attachToNearest (uePositions enbPositions : List (Vector α)) : List ℕ :=
  uePositions.map fun uePos => bestEnbIdx uePos enbPositions

/-- `j` is the earliest index among the eNBs at least squared distance from the UE. -/
structure LeastNearest (uePos : Vector α) (enbPositions : List (Vector α)) (j : ℕ) : Prop where
  index_lt : j < enbPositions.length
  nearest : ∀ k (within : k < enbPositions.length),
    dist2 uePos enbPositions[j] ≤ dist2 uePos enbPositions[k]
  earliest : ∀ k (before : k < j), dist2 uePos enbPositions[j] < dist2 uePos enbPositions[k]

namespace LeastNearest

variable {uePos : Vector α}

/-- An eNB no farther than every later one is the earliest nearest of the list it heads. -/
theorem head {ep : Vector α} {rest : List (Vector α)}
    (closest : ∀ other ∈ rest, dist2 uePos ep ≤ dist2 uePos other) :
    LeastNearest uePos (ep :: rest) 0 where
  index_lt := Nat.succ_pos _
  nearest k within := by
    -- The head is compared with itself or with one of the later eNBs.
    cases k with
    | zero => exact le_rfl
    | succ k => exact closest _ (List.getElem_mem _)
  earliest k before := absurd before (Nat.not_lt_zero k)

/-- The earliest nearest of a tail stays so behind a head that is strictly farther. -/
theorem cons {ep : Vector α} {rest : List (Vector α)} {j : ℕ} (least : LeastNearest uePos rest j)
    (nearer : dist2 uePos (rest.get ⟨j, least.index_lt⟩) < dist2 uePos ep) :
    LeastNearest uePos (ep :: rest) (j + 1) where
  index_lt := Nat.succ_lt_succ least.index_lt
  nearest k within := by
    cases k with
    | zero => exact nearer.le
    | succ k => exact least.nearest k (Nat.lt_of_succ_lt_succ within)
  earliest k before := by
    cases k with
    | zero => exact nearer
    | succ k => exact least.earliest k (Nat.lt_of_succ_lt_succ before)

/-- The earliest nearest index is unique. -/
theorem unique {enbPositions : List (Vector α)} {i j : ℕ} (first : LeastNearest uePos enbPositions i)
    (second : LeastNearest uePos enbPositions j) : i = j := by
  -- Each index is no farther than the other, so neither can come strictly before.
  rcases Nat.lt_trichotomy i j with before | same | after
  · exact absurd (first.nearest j second.index_lt) (not_le.mpr (second.earliest i before))
  · exact same
  · exact absurd (second.nearest i first.index_lt) (not_le.mpr (first.earliest j after))

end LeastNearest

/-- From any lead, the scan over eNBs numbered from `e` keeps the lead or hands it to the earliest nearest eNB, which beats it. -/
theorem scan_enumFrom (uePos : Vector α) :
    ∀ (rest : List (Vector α)) (e : ℕ) (best : α × ℕ),
      ((rest.enumFrom e).foldl (scanStep uePos) best = best ∧
          ∀ ep ∈ rest, best.1 ≤ dist2 uePos ep) ∨
      ∃ (j : ℕ) (within : j < rest.length), LeastNearest uePos rest j ∧
        dist2 uePos rest[j] < best.1 ∧
        (rest.enumFrom e).foldl (scanStep uePos) best = (dist2 uePos rest[j], e + j) := by
  intro rest
  induction rest with
  | nil => exact fun _ best => .inl ⟨rfl, fun _ absent => absurd absent (List.not_mem_nil _)⟩
  | cons ep rest ih =>
    intro e best
    simp only [List.enumFrom_cons, List.foldl_cons]
    by_cases beat : dist2 uePos ep < best.1
    · -- This eNB takes the lead; the rest of the scan keeps it or passes it on.
      have step : scanStep uePos best (e, ep) = (dist2 uePos ep, e) := if_pos beat
      rw [step]
      rcases ih (e + 1) (dist2 uePos ep, e) with ⟨kept, closest⟩ | ⟨j, within, least, nearer, passed⟩
      · exact .inr ⟨0, Nat.succ_pos _, LeastNearest.head closest, beat, by simpa using kept⟩
      · refine .inr ⟨j + 1, Nat.succ_lt_succ within, least.cons nearer, ?_, ?_⟩
        · exact lt_trans nearer beat
        · simpa [Nat.add_right_comm] using passed
    · -- This eNB is no nearer than the lead, which the rest of the scan keeps or passes on.
      have step : scanStep uePos best (e, ep) = best := if_neg beat
      have behind : best.1 ≤ dist2 uePos ep := not_lt.mp beat
      rw [step]
      rcases ih (e + 1) best with ⟨kept, closest⟩ | ⟨j, within, least, nearer, passed⟩
      · refine .inl ⟨kept, fun other member => ?_⟩
        rcases List.mem_cons.mp member with rfl | later
        · exact behind
        · exact closest other later
      · refine .inr ⟨j + 1, Nat.succ_lt_succ within, least.cons (lt_of_lt_of_le nearer behind),
          nearer, ?_⟩
        simpa [Nat.add_right_comm] using passed

/--
For every UE position and every nonempty list of eNB positions within the sentinel's reach,
the attach loop picks the earliest eNB at least squared horizontal distance.
-/
theorem bestEnbIdx_leastNearest (uePos : Vector α) (enbPositions : List (Vector α))
    (nonempty : enbPositions ≠ []) (reach : ∀ ep ∈ enbPositions, dist2 uePos ep < dblMax) :
    LeastNearest uePos enbPositions (bestEnbIdx uePos enbPositions) := by
  -- Some eNB beats the sentinel, so the scan cannot end on its starting lead.
  rcases scan_enumFrom uePos enbPositions 0 (dblMax, 0) with ⟨-, closest⟩ | ⟨j, _, least, -, passed⟩
  · obtain ⟨ep, member⟩ := List.exists_mem_of_ne_nil enbPositions nonempty
    exact absurd (closest ep member) (not_le.mpr (reach ep member))
  · have chosen : bestEnbIdx uePos enbPositions = j := by
      simp only [bestEnbIdx, List.enum, passed, Nat.zero_add]
    rw [chosen]
    exact least

/-- The LTE scenario's three eNBs: `(field * 0.25, field * 0.5)`, `(100, 50)` and `(300, 300)` on its 400-metre field. -/
def lteEnbPositions : List (Vector α) :=
  [⟨100, 200⟩, ⟨100, 50⟩, ⟨300, 300⟩]

/-- Sayed, at the origin, is attached to the earliest nearest of the LTE scenario's eNBs. -/
theorem bestEnbIdx_leastNearest_sayed :
    (lteEnbPositions : List (Vector ℚ)) ≠ [] ∧
      (∀ ep ∈ (lteEnbPositions : List (Vector ℚ)), dist2 (⟨0, 0⟩ : Vector ℚ) ep < dblMax) ∧
      LeastNearest (⟨0, 0⟩ : Vector ℚ) lteEnbPositions
        (bestEnbIdx (⟨0, 0⟩ : Vector ℚ) lteEnbPositions) := by
  have nonempty : (lteEnbPositions : List (Vector ℚ)) ≠ [] := by simp [lteEnbPositions]
  have reach : ∀ ep ∈ (lteEnbPositions : List (Vector ℚ)), dist2 (⟨0, 0⟩ : Vector ℚ) ep < dblMax := by
    norm_num [lteEnbPositions, dist2, dblMax]
  exact ⟨nonempty, reach, bestEnbIdx_leastNearest _ _ nonempty reach⟩

end Playfield
