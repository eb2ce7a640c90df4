import Playfield.Obstacle.Relocate

/-! The scenario's obstacle store: a run of scheduled relocations leaves each building its last box, and every box ordered. -/

namespace Playfield

/-- The seven buildings every scenario creates, by the names of their variables in `main`. -/
inductive Building where
  | leftBelow
  | rightBelow
  | leftAbove
  | rightAbove
  | cluster250a
  | cluster250b
  | cluster50
  deriving DecidableEq, Repr

/-- The obstacle store: the boundaries each building currently has. -/
def Store (ι α : Type*) := ι → Box α

/-- A scheduled relocation, as the simulator fires it. -/
inductive Event (ι α : Type*) where
  /-- `Simulator::Schedule(at, &UpdateBuildingPosition, building, newPosition, width, height)`. -/
  | updateBuildingPosition (building : ι) (newPosition : Vector α) (width height : α)
  /-- A `scheduleMoveAvoidingMesh` action, reading the mesh nodes where they stand when it fires. -/
  | moveAvoidingMesh (building : ι) (desired : Vector α) (w h : α)
      (meshNodes : List (Option (Vector α)))

variable {ι α : Type*} [LinearOrderedField α]

/-- The boxes the LTE scenario's `main` sets before any event fires; the mesh backhaul scenario sets the same. -/
def initialBoxes : Store Building α
  | .leftBelow => ⟨0, 60, 96, 104, 0, 10⟩
  | .rightBelow => ⟨340, 400, 96, 104, 0, 10⟩
  | .leftAbove => ⟨0, 60, 296, 304, 0, 10⟩
  | .rightAbove => ⟨340, 400, 296, 304, 0, 10⟩
  | .cluster250a => ⟨80, 140, 220, 228, 0, 15⟩
  | .cluster250b => ⟨170, 250, 220, 228, 0, 12⟩
  | .cluster50 => ⟨255, 335, 20, 28, 0, 18⟩

namespace Event

/-- The building an event relocates. -/
def building : Event ι α → ι
  | .updateBuildingPosition building _ _ _ => building
  | .moveAvoidingMesh building _ _ _ _ => building

/-- The box an event hands to `SetBoundaries`, on a field of the given size. -/
def box (field : α) : Event ι α → Box α
  | .updateBuildingPosition _ newPosition width height =>
    Playfield.updateBuildingPosition newPosition width height
  | .moveAvoidingMesh _ desired w h meshNodes => Playfield.moveAvoidingMesh field meshNodes desired w h

/-- The event's width and height are nonnegative. -/
def Sized : Event ι α → Prop
  | .updateBuildingPosition _ _ width height => 0 ≤ width ∧ 0 ≤ height
  | .moveAvoidingMesh _ _ w h _ => 0 ≤ w ∧ 0 ≤ h

/-- A sized event hands `SetBoundaries` an ordered box. -/
theorem box_ordered (field : α) {event : Event ι α} (sized : event.Sized) : (event.box field).Ordered := by
  -- Both relocations keep the requested extents on top of the corner they chose.
  cases event with
  | updateBuildingPosition _ newPosition _ _ =>
    exact updateBuildingPosition_ordered newPosition sized.1 sized.2
  | moveAvoidingMesh _ desired _ _ meshNodes =>
    exact moveAvoidingMesh_ordered field meshNodes desired sized.1 sized.2

/--
The event asks for a box inside the field: `UpdateBuildingPosition` places its box as asked, and
an avoiding move's desired box must also leave the one-metre margin its cap keeps.
-/
def Fits (field : α) : Event ι α → Prop
  | .updateBuildingPosition _ newPosition width height =>
    (Playfield.updateBuildingPosition newPosition width height).InField field
  | .moveAvoidingMesh _ desired w h _ => (candidateBox field desired w h 0).InField field ∧ w + 1 ≤ field

/-- An event that fits hands `SetBoundaries` a box inside the field. -/
theorem box_inField {field : α} {event : Event ι α} (fits : event.Fits field) :
    (event.box field).InField field := by
  -- `UpdateBuildingPosition` keeps the asked box; the avoiding move keeps every candidate inside.
  cases event with
  | updateBuildingPosition => exact fits
  | moveAvoidingMesh _ desired _ _ meshNodes =>
    exact moveAvoidingMesh_inField field meshNodes desired fits.1 fits.2

end Event

variable [DecidableEq ι]

/-- `SetBoundaries`: one building's box is replaced wholesale. -/
def setBoundaries (store : Store ι α) (building : ι) (bx : Box α) : Store ι α :=
  Function.update store building bx

/-- Firing an event sets its building's boundaries to its box. -/
def Event.fire (field : α) (store : Store ι α) (event : Event ι α) : Store ι α :=
  setBoundaries store event.building (event.box field)

/-- Firing the events in the order the simulator reaches them. -/
def run (field : α) (store : Store ι α) (events : List (Event ι α)) : Store ι α :=
  events.foldl (Event.fire field) store

/--
After any run, each building has the box its last event handed to `SetBoundaries`, or the box it
started with when no event relocated it: no relocation is lost or lands on another building.
-/
theorem run_last_event (field : α) (store : Store ι α) (events : List (Event ι α)) (b : ι) :
    run field store events b =
      ((events.reverse.find? fun event => event.building = b).map (Event.box field)).getD (store b) := by
  -- The last event fired either relocates this building or leaves it as the run before had it.
  induction events using List.reverseRecOn with
  | nil => rfl
  | append_singleton events event ih =>
    rw [run, List.foldl_append, List.foldl_cons, List.foldl_nil, ← run, Event.fire, setBoundaries,
      List.reverse_append, List.reverse_singleton, List.singleton_append, List.find?_cons]
    by_cases targets : event.building = b
    · subst targets
      simp
    · simp [targets, Function.update_noteq (Ne.symm targets), ih]

/-- A property of boxes that the store starts with and that every event's box has holds of every box after the run. -/
theorem run_preserves (P : Box α → Prop) (field : α) {store : Store ι α} (start : ∀ b, P (store b))
    {events : List (Event ι α)} (each : ∀ event ∈ events, P (event.box field)) (b : ι) :
    P (run field store events b) := by
  -- The building ends with its starting box or with the box of an event of the run.
  rw [run_last_event]
  cases last : events.reverse.find? fun event => event.building = b with
  | none => exact start b
  | some event => exact each event (List.mem_reverse.mp (List.mem_of_find?_eq_some last))

/-- An obstacle as the specification has it: a box whose horizontal sides are not inverted. -/
def Obstacle (α : Type*) [LinearOrder α] := { bx : Box α // bx.Ordered }

/-- A relocation that carries the nonnegativity of its extents. -/
structure SizedEvent (ι α : Type*) [LinearOrderedField α] where
  event : Event ι α
  sized : event.Sized

/-- Firing a sized event on a store of obstacles: the new box comes with its ordering. -/
def SizedEvent.fire (field : α) (store : ι → Obstacle α) (sized : SizedEvent ι α) :
    ι → Obstacle α :=
  Function.update store sized.event.building
    ⟨sized.event.box field, Event.box_ordered field sized.sized⟩

/-- Firing sized events in order on a store of obstacles. -/
def runObstacles (field : α) (store : ι → Obstacle α) (events : List (SizedEvent ι α)) :
    ι → Obstacle α :=
  events.foldl (SizedEvent.fire field) store

/-- Firing a sized event on obstacles is firing its event on their boxes. -/
theorem SizedEvent.fire_val (field : α) (store : ι → Obstacle α) (sized : SizedEvent ι α) :
    (fun b => (sized.fire field store b).val) = sized.event.fire field (fun b => (store b).val) := by
  -- Both sides update the same building, the left with the box and its proof.
  funext b
  by_cases same : b = sized.event.building <;>
    simp [SizedEvent.fire, Event.fire, setBoundaries, Function.update_apply, same]

/-- The store of obstacles refines the store of boxes along every run of sized events. -/
theorem runObstacles_val (field : α) (events : List (SizedEvent ι α)) :
    ∀ store : ι → Obstacle α, (fun b => (runObstacles field store events b).val) =
      run field (fun b => (store b).val) (events.map SizedEvent.event) := by
  -- One event at a time, each firing is the box-level firing of its event.
  induction events with
  | nil => exact fun _ => rfl
  | cons event rest ih =>
    intro store
    simp only [runObstacles, run, List.foldl_cons, List.map_cons] at ih ⊢
    rw [ih, SizedEvent.fire_val]

/-- Every box of a store reached from ordered boxes by sized events is ordered. -/
theorem run_ordered (field : α) (store : Store ι α) (ordered : ∀ b, (store b).Ordered)
    (events : List (Event ι α)) (sized : ∀ event ∈ events, event.Sized) (b : ι) :
    (run field store events b).Ordered := by
  -- Lift the run to obstacles, whose boxes are ordered by construction.
  let lifted : List (SizedEvent ι α) := events.attach.map fun event => ⟨event.1, sized _ event.2⟩
  have unlifted : lifted.map SizedEvent.event = events := by simp [lifted]
  have refined := congrFun (runObstacles_val field lifted fun b => ⟨store b, ordered b⟩) b
  simp only [unlifted] at refined
  rw [← refined]
  exact (runObstacles field _ lifted b).property

/-- The LTE scenario's seven `UpdateBuildingPosition` calls, in the order of their times. -/
def lteRelocations : List (Event Building α) :=
  [.updateBuildingPosition .cluster250a ⟨150, 180⟩ 60 8,
    .updateBuildingPosition .cluster250b ⟨200, 180⟩ 80 8,
    .updateBuildingPosition .cluster50 ⟨255, 80⟩ 80 8,
    .updateBuildingPosition .cluster250a ⟨250, 130⟩ 60 8,
    .updateBuildingPosition .cluster250b ⟨130, 300⟩ 80 8,
    .updateBuildingPosition .cluster50 ⟨215, 180⟩ 80 8,
    .updateBuildingPosition .cluster250a ⟨100, 280⟩ 60 8]

/-- The four fixed mesh APs of the backhaul scenario, each with a mobility model. -/
def backhaulMesh : List (Option (Vector α)) :=
  [some ⟨50, 50⟩, some ⟨150, 100⟩, some ⟨250, 150⟩, some ⟨350, 200⟩]

/-- The backhaul scenario's seven `scheduleMoveAvoidingMesh` calls, in the order of their times. -/
def backhaulRelocations : List (Event Building α) :=
  [.moveAvoidingMesh .cluster250a ⟨150, 180⟩ 60 8 backhaulMesh,
    .moveAvoidingMesh .cluster250b ⟨200, 180⟩ 80 8 backhaulMesh,
    .moveAvoidingMesh .cluster50 ⟨255, 80⟩ 80 8 backhaulMesh,
    .moveAvoidingMesh .cluster250a ⟨250, 130⟩ 60 8 backhaulMesh,
    .moveAvoidingMesh .cluster250b ⟨130, 300⟩ 80 8 backhaulMesh,
    .moveAvoidingMesh .cluster50 ⟨215, 180⟩ 80 8 backhaulMesh,
    .moveAvoidingMesh .cluster250a ⟨100, 280⟩ 60 8 backhaulMesh]

/-- Every literal initial box is ordered. -/
theorem initialBoxes_ordered (b : Building) : (initialBoxes b : Box α).Ordered := by
  cases b <;> norm_num [initialBoxes, Box.Ordered]

/--
From the scenario's literal boxes, any sequence of scheduled relocations with nonnegative
extents, on any field and with the mesh anywhere, leaves every building's box ordered.
-/
theorem run_initialBoxes_ordered (field : α) (events : List (Event Building α))
    (sized : ∀ event ∈ events, event.Sized) (b : Building) :
    (run field initialBoxes events b).Ordered :=
  run_ordered field initialBoxes initialBoxes_ordered events sized b

/-- Both scenarios' own timelines, run back to back on their 400-metre field, leave `cluster250a` ordered. -/
theorem run_initialBoxes_ordered_scenarios :
    (∀ event ∈ (lteRelocations ++ backhaulRelocations : List (Event Building ℚ)), event.Sized) ∧
      (run (400 : ℚ) initialBoxes (lteRelocations ++ backhaulRelocations) .cluster250a).Ordered := by
  have sized : ∀ event ∈ (lteRelocations ++ backhaulRelocations : List (Event Building ℚ)),
      event.Sized := by
    simp [lteRelocations, backhaulRelocations, Event.Sized]
  exact ⟨sized, run_initialBoxes_ordered 400 _ sized .cluster250a⟩

/--
From boxes inside the field, any run of `UpdateBuildingPosition` calls and avoiding moves that ask
for boxes inside the field, each avoiding move leaving its one-metre margin, keeps every building
inside the field, whatever the mesh: the loop's cap at `field - w - 1` never pushes a box past the
right edge, and the margin keeps the cap off the left one.
-/
theorem run_inField (field : α) (store : Store ι α) (inside : ∀ b, (store b).InField field)
    (events : List (Event ι α)) (fits : ∀ event ∈ events, event.Fits field) (b : ι) :
    (run field store events b).InField field :=
  run_preserves _ field inside (fun event member => Event.box_inField (fits event member)) b

/-- Both scenarios' timelines, run back to back from their literal boxes, keep `cluster250a` inside the 400-metre field. -/
theorem run_inField_scenarios :
    (∀ b, (initialBoxes b : Box ℚ).InField 400) ∧
    (∀ event ∈ (lteRelocations ++ backhaulRelocations : List (Event Building ℚ)), event.Fits 400) ∧
      (run (400 : ℚ) initialBoxes (lteRelocations ++ backhaulRelocations) .cluster250a).InField 400 := by
  have inside : ∀ b, (initialBoxes b : Box ℚ).InField 400 := by
    intro b
    cases b <;> norm_num [initialBoxes, Box.InField]
  have fits : ∀ event ∈ (lteRelocations ++ backhaulRelocations : List (Event Building ℚ)),
      event.Fits 400 := by
    norm_num [lteRelocations, backhaulRelocations, Event.Fits, Box.InField, updateBuildingPosition, candidateBox,
      candidateX]
  exact ⟨inside, fits, run_inField 400 initialBoxes inside _ fits .cluster250a⟩

end Playfield
