import Playfield.Geometry.Box
import Playfield.Geometry.Discretise
import Playfield.Obstacle.Relocate
import Playfield.Obstacle.Store
import Playfield.Attach.Nearest
import Playfield.Grid.Canvas
import Playfield.Grid.Raster
import Playfield.Grid.Bounds
import Playfield.Grid.Cells
import Playfield.Grid.Legend
import Playfield.Text.Stream
import Playfield.Text.Sections
import Playfield.Text.Artifact
import Playfield.Text.Readback
