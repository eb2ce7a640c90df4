import Playfield.Text.Sections

/-! The file `position_grid.txt` each `WriteAsciiPositionGrid` writes, and the lines it consists of. -/

namespace Playfield

open OStream

variable {α : Type*} (format : DoubleFormat α)

section Listing

/-- The single-list legend, naming Sadia by `nodes.GetN() - 1` as a `uint32_t`, and the blank line after it. -/
def writeLegend (count : ℕ) (os : OStream) : OStream :=
  os.putStr "Legend: \x27.\x27=free, \x27#\x27=building, \x27S\x27=Sayed(0), \x27D\x27=Sadia("
    |>.putInt (((count : ℤ) - 1) % 2 ^ 32) |>.putStr "), digits/letters=other UEs\n\n"

/-- The single-list name: `Sayed` for node 0, `Sadia` for the last, `UE` and the index for the others. -/
def nodeName (count i : ℕ) : String :=
  if i = 0 then "Sayed" else if i + 1 = count then "Sadia" else "UE" ++ toString i

/-- The single-list title `" - " << std::setw(6) << name`. -/
def nodeTitle (count i : ℕ) (os : OStream) : OStream :=
  (os.putStr " - " |>.setw 6).putStr (nodeName count i)

/-- The single-list listing under `Nodes:`, each node listed by its index. -/
def writeNodes (nodes : List (Option (Vector α))) (os : OStream) : OStream :=
  writeListing format (nodeTitle nodes.length) id nodes (os.putStr "\nNodes:\n")

/-- The single-list legend line. -/
def legendLine (count : ℕ) : List Glyph :=
  text "Legend: \x27.\x27=free, \x27#\x27=building, \x27S\x27=Sayed(0), \x27D\x27=Sadia(" ++
    text (toString (((count : ℤ) - 1) % 2 ^ 32)) ++ text "), digits/letters=other UEs"

/-- The single-list title, the name right-aligned in six. -/
def nodeTitleText (count i : ℕ) : List Glyph :=
  text " - " ++ padLeft 6 (glyph ' ') (text (nodeName count i))

variable {os : OStream}

/-- The single-list legend appends its line and the blank line under it. -/
theorem writeLegend_settled (count : ℕ) (settled : os.Settled) :
    writeLegend count os =
      { os with out := os.out ++ (legendLine count ++ [newline] ++ [newline]) } := by
  obtain ⟨unset, spaced⟩ := settled
  ext <;> simp [writeLegend, legendLine, putStr, putInt, padLeft, unset, newline, text]

/-- The single-list title appends the name padded to six with the stream's space fill. -/
theorem nodeTitle_settled (count i : ℕ) (settled : os.Settled) :
    nodeTitle count i os = { os with out := os.out ++ nodeTitleText count i } := by
  obtain ⟨unset, spaced⟩ := settled
  ext <;> simp [nodeTitle, nodeTitleText, putStr, padLeft, unset, spaced]

end Listing

section Map

variable [LinearOrderedField α] [FloorRing α]

/-- The bytes the single-list `WriteAsciiPositionGrid` writes to `position_grid.txt`. -/
def writeAsciiPositionGridOutput (nodes : List (Option (Vector α))) (buildings : List (Box α))
    (fieldMeters cellMeters : α) : Option (List Glyph) := do
  let grid ← writeAsciiPositionGrid nodes buildings fieldMeters cellMeters
  let W := gridWidth fieldMeters cellMeters
  pure (writeBuildings format buildings
    (writeNodes format nodes (writeMap format W cellMeters (writeLegend nodes.length) grid))).out

/--
The lines of the single-list file. The building coordinates are in fixed notation with one
decimal when some node was listed before them, and in the default notation otherwise.
-/
def fileLines (nodes : List (Option (Vector α))) (buildings : List (Box α)) (W : ℤ) (cellMeters : α)
    (grid : Grid) : List (List Glyph) :=
  let listed := nodes.any Option.isSome
  mapLines format W cellMeters (legendLine nodes.length) grid ++
    [[], text "Nodes:"] ++ listingLines format (nodeTitleText nodes.length) id nodes ++
    buildingLines format listed (if listed then 1 else 6) buildings

/-- A run whose grid pass succeeds writes the lines of `fileLines`, each ended by a newline. -/
theorem writeAsciiPositionGridOutput_of_grid {nodes : List (Option (Vector α))} {buildings : List (Box α)}
    {fieldMeters cellMeters : α} {grid : Grid}
    (ran : writeAsciiPositionGrid nodes buildings fieldMeters cellMeters = some grid) :
    writeAsciiPositionGridOutput format nodes buildings fieldMeters cellMeters =
      some ((fileLines format nodes buildings (gridWidth fieldMeters cellMeters) cellMeters grid).flatMap
        (· ++ [newline])) := by
  -- The statements write the map part, then the listings, each from a settled stream.
  have legend := fun (os : OStream) (settled : os.Settled) => writeLegend_settled nodes.length settled
  have titled := fun i (os : OStream) (settled : os.Settled) => nodeTitle_settled nodes.length i settled
  simp only [writeAsciiPositionGridOutput, ran, Option.bind_eq_bind, Option.some_bind]
  rw [writeMap_lines format _ _ legend grid, writeNodes, putStr_settled ⟨rfl, rfl⟩,
    writeListing_settled format titled id nodes ⟨rfl, rfl⟩, writeBuildings_settled format buildings ⟨rfl, rfl⟩]
  simp [fileLines, OStream.fresh, List.append_assoc, Bool.cond_eq_ite, newline, text]

/--
The single-list file is `fileLines`, each line ended by a newline: the map part, a blank line,
`Nodes:` and the positioned nodes in order, a blank line, and the building listing, whose
notation is the one the listing of the nodes left behind.
-/
theorem writeAsciiPositionGridOutput_eq (nodes : List (Option (Vector α))) (buildings : List (Box α))
    (fieldMeters cellMeters : α) :
    writeAsciiPositionGridOutput format nodes buildings fieldMeters cellMeters =
      (writeAsciiPositionGrid nodes buildings fieldMeters cellMeters).map fun grid =>
        (fileLines format nodes buildings (gridWidth fieldMeters cellMeters) cellMeters grid).flatMap
          (· ++ [newline]) := by
  cases ran : writeAsciiPositionGrid nodes buildings fieldMeters cellMeters with
  | none => simp [writeAsciiPositionGridOutput, ran]
  | some grid => exact writeAsciiPositionGridOutput_of_grid format ran

end Map

/-- A `NodeContainer` as the writers read it: node `i`'s position when it has a mobility model, and its `GetId()`. -/
structure NodeContainer (α : Type*) where
  positions : List (Option (Vector α))
  getId : ℕ → ℕ

namespace Backhaul

section Listing

/-- The four-group legend, a fixed line, and the blank line after it. -/
def writeLegend (os : OStream) : OStream :=
  os.putStr ("Legend: \x27.\x27=free, \x27#\x27=building, \x27B\x27=Backhaul, \x270-9\x27=Mesh hops, " ++
    "\x27A-Z\x27=STA/UE, \x27Y\x27=Sayed, \x27D\x27=Sadia\n\n")

/-- A group's title `" - Backhaul" << i`, `" - Mesh" << i` or `" - STA" << i`. -/
def groupTitle (label : String) (i : ℕ) (os : OStream) : OStream :=
  (os.putStr label).putInt i

/-- The Sayed and Sadia loop's name, `(i == 0) ? "Sayed" : "Sadia"`. -/
def sayedSadiaName (i : ℕ) : String :=
  if i = 0 then "Sayed" else "Sadia"

/-- The Sayed and Sadia title `" - " << name`, with no width. -/
def sayedSadiaTitle (i : ℕ) (os : OStream) : OStream :=
  (os.putStr " - ").putStr (sayedSadiaName i)

/-- The four listings under `Nodes:`: backhaul, mesh, STA, then Sayed and Sadia, each node by its `GetId()`. -/
def writeNodes (meshNodes staNodes backhaulNodes sayedSadiaNodes : NodeContainer α) (os : OStream) :
    OStream :=
  writeListing format sayedSadiaTitle sayedSadiaNodes.getId sayedSadiaNodes.positions <|
  writeListing format (groupTitle " - STA") staNodes.getId staNodes.positions <|
  writeListing format (groupTitle " - Mesh") meshNodes.getId meshNodes.positions <|
  writeListing format (groupTitle " - Backhaul") backhaulNodes.getId backhaulNodes.positions <|
  os.putStr "\nNodes:\n"

/-- The four-group legend line. -/
def legendLine : List Glyph :=
  text ("Legend: \x27.\x27=free, \x27#\x27=building, \x27B\x27=Backhaul, \x270-9\x27=Mesh hops, " ++
    "\x27A-Z\x27=STA/UE, \x27Y\x27=Sayed, \x27D\x27=Sadia")

/-- A group's title, the label and the index. -/
def groupTitleText (label : String) (i : ℕ) : List Glyph :=
  text label ++ text (toString (i : ℤ))

/-- The Sayed and Sadia title. -/
def sayedSadiaTitleText (i : ℕ) : List Glyph :=
  text " - " ++ text (sayedSadiaName i)

/-- Some node of the four groups has a mobility model, so that some listing turned fixed notation on. -/
def anyListed (meshNodes staNodes backhaulNodes sayedSadiaNodes : NodeContainer α) : Bool :=
  backhaulNodes.positions.any Option.isSome || meshNodes.positions.any Option.isSome ||
    staNodes.positions.any Option.isSome || sayedSadiaNodes.positions.any Option.isSome

/-- The four listings' lines, under a blank line and `Nodes:`. -/
def nodesLines (meshNodes staNodes backhaulNodes sayedSadiaNodes : NodeContainer α) : List (List Glyph) :=
  [[], text "Nodes:"] ++
    listingLines format (groupTitleText " - Backhaul") backhaulNodes.getId backhaulNodes.positions ++
    listingLines format (groupTitleText " - Mesh") meshNodes.getId meshNodes.positions ++
    listingLines format (groupTitleText " - STA") staNodes.getId staNodes.positions ++
    listingLines format sayedSadiaTitleText sayedSadiaNodes.getId sayedSadiaNodes.positions

variable {os : OStream}

/-- The four-group legend appends its line and the blank line under it. -/
theorem writeLegend_settled (settled : os.Settled) :
    writeLegend os = { os with out := os.out ++ (legendLine ++ [newline] ++ [newline]) } := by
  rw [writeLegend, putStr_settled settled]
  simp [legendLine, newline, text]

/-- A group's title appends the label and the index. -/
theorem groupTitle_settled (label : String) (i : ℕ) (settled : os.Settled) :
    groupTitle label i os = { os with out := os.out ++ groupTitleText label i } := by
  obtain ⟨unset, spaced⟩ := settled
  ext <;> simp [groupTitle, groupTitleText, putStr, putInt, padLeft, unset]

/-- The Sayed and Sadia title appends `" - "` and the name. -/
theorem sayedSadiaTitle_settled (i : ℕ) (settled : os.Settled) :
    sayedSadiaTitle i os = { os with out := os.out ++ sayedSadiaTitleText i } := by
  obtain ⟨unset, spaced⟩ := settled
  ext <;> simp [sayedSadiaTitle, sayedSadiaTitleText, putStr, padLeft, unset]

/-- The four listings append their lines in turn, and leave fixed notation on exactly when one of them listed a node. -/
theorem writeNodes_settled (meshNodes staNodes backhaulNodes sayedSadiaNodes : NodeContainer α)
    (settled : os.Settled) :
    writeNodes format meshNodes staNodes backhaulNodes sayedSadiaNodes os =
      { os with
        out := os.out ++ (nodesLines format meshNodes staNodes backhaulNodes sayedSadiaNodes).flatMap
          (· ++ [newline])
        fixed := os.fixed || anyListed meshNodes staNodes backhaulNodes sayedSadiaNodes
        precision := bif anyListed meshNodes staNodes backhaulNodes sayedSadiaNodes then 1
          else os.precision } := by
  have grouped := fun label i (os : OStream) (settled : os.Settled) => groupTitle_settled label i settled
  have named := fun i (os : OStream) (settled : os.Settled) => sayedSadiaTitle_settled i settled
  rw [writeNodes, putStr_settled settled,
    writeListing_settled format (grouped " - Backhaul") backhaulNodes.getId backhaulNodes.positions,
    writeListing_settled format (grouped " - Mesh") meshNodes.getId meshNodes.positions,
    writeListing_settled format (grouped " - STA") staNodes.getId staNodes.positions,
    writeListing_settled format named sayedSadiaNodes.getId sayedSadiaNodes.positions]
  · -- Each listing turns fixed notation on when it lists a node, and none turns it off.
    ext
    · simp [nodesLines, newline, text, List.append_assoc]
    · rfl
    · rfl
    · simp [anyListed, Bool.or_assoc]
    · simp only [anyListed]
      cases backhaulNodes.positions.any Option.isSome <;> cases meshNodes.positions.any Option.isSome <;>
        cases staNodes.positions.any Option.isSome <;> cases sayedSadiaNodes.positions.any Option.isSome <;> rfl
  all_goals exact settled

end Listing

section Map

variable [LinearOrderedField α] [FloorRing α]

/-- The bytes the four-group `WriteAsciiPositionGrid` writes to `position_grid.txt`. -/
def writeAsciiPositionGridOutput (meshNodes staNodes backhaulNodes sayedSadiaNodes : NodeContainer α)
    (buildings : List (Box α)) (fieldMeters cellMeters : α) : Option (List Glyph) := do
  let grid ← writeAsciiPositionGrid meshNodes.positions staNodes.positions backhaulNodes.positions
    sayedSadiaNodes.positions buildings fieldMeters cellMeters
  let W := gridWidth fieldMeters cellMeters
  pure (writeBuildings format buildings (writeNodes format meshNodes staNodes backhaulNodes sayedSadiaNodes
    (writeMap format W cellMeters writeLegend grid))).out

/--
The lines of the four-group file. The building coordinates are in fixed notation with one
decimal when some node of some group was listed before them, and in the default notation otherwise.
-/
def fileLines (meshNodes staNodes backhaulNodes sayedSadiaNodes : NodeContainer α) (buildings : List (Box α))
    (W : ℤ) (cellMeters : α) (grid : Grid) : List (List Glyph) :=
  let listed := anyListed meshNodes staNodes backhaulNodes sayedSadiaNodes
  mapLines format W cellMeters legendLine grid ++
    nodesLines format meshNodes staNodes backhaulNodes sayedSadiaNodes ++
    buildingLines format listed (if listed then 1 else 6) buildings

/-- A run whose grid passes succeed writes the lines of `fileLines`, each ended by a newline. -/
theorem writeAsciiPositionGridOutput_of_grid {meshNodes staNodes backhaulNodes sayedSadiaNodes : NodeContainer α}
    {buildings : List (Box α)} {fieldMeters cellMeters : α} {grid : Grid}
    (ran : writeAsciiPositionGrid meshNodes.positions staNodes.positions backhaulNodes.positions
      sayedSadiaNodes.positions buildings fieldMeters cellMeters = some grid) :
    writeAsciiPositionGridOutput format meshNodes staNodes backhaulNodes sayedSadiaNodes buildings
        fieldMeters cellMeters =
      some ((fileLines format meshNodes staNodes backhaulNodes sayedSadiaNodes buildings
        (gridWidth fieldMeters cellMeters) cellMeters grid).flatMap (· ++ [newline])) := by
  -- The statements write the map part, then the listings, each from a settled stream.
  have legend := fun (os : OStream) (settled : os.Settled) => writeLegend_settled settled
  simp only [writeAsciiPositionGridOutput, ran, Option.bind_eq_bind, Option.some_bind]
  rw [writeMap_lines format _ _ legend grid, writeNodes_settled format _ _ _ _ ⟨rfl, rfl⟩,
    writeBuildings_settled format buildings ⟨rfl, rfl⟩]
  simp [fileLines, OStream.fresh, List.append_assoc, Bool.cond_eq_ite]

/--
The four-group file is `fileLines`, each line ended by a newline: the map part under the fixed
legend, the four listings in the order backhaul, mesh, STA, Sayed and Sadia, and the building
listing in the notation they left behind.
-/
theorem writeAsciiPositionGridOutput_eq_fileLines
    (meshNodes staNodes backhaulNodes sayedSadiaNodes : NodeContainer α)
    (buildings : List (Box α)) (fieldMeters cellMeters : α) :
    writeAsciiPositionGridOutput format meshNodes staNodes backhaulNodes sayedSadiaNodes buildings
        fieldMeters cellMeters =
      (writeAsciiPositionGrid meshNodes.positions staNodes.positions backhaulNodes.positions
          sayedSadiaNodes.positions buildings fieldMeters cellMeters).map fun grid =>
        (fileLines format meshNodes staNodes backhaulNodes sayedSadiaNodes buildings
          (gridWidth fieldMeters cellMeters) cellMeters grid).flatMap (· ++ [newline]) := by
  cases ran : writeAsciiPositionGrid meshNodes.positions staNodes.positions backhaulNodes.positions
      sayedSadiaNodes.positions buildings fieldMeters cellMeters with
  | none => simp [writeAsciiPositionGridOutput, ran]
  | some grid => exact writeAsciiPositionGridOutput_of_grid format ran

end Map

end Backhaul

end Playfield
