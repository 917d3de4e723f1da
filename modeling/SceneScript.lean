import SceneScript.Main
import SceneScript.Output.Gallery
import SceneScript.Proofs.Binary64.Order
import SceneScript.Proofs.Render.Step
import SceneScript.Proofs.Animation.Knobs
import SceneScript.Proofs.Raster.Depth
import SceneScript.Proofs.Render.Relate
import SceneScript.Proofs.Render.Agree
import SceneScript.Proofs.Render.Frames
import SceneScript.Proofs.Render.Systems
import SceneScript.Proofs.Space.Triangle
import SceneScript.Proofs.Raster.Fill
import SceneScript.Proofs.Space.Image
import SceneScript.Proofs.Space.Box
import SceneScript.Proofs.Raster.Box
import SceneScript.Proofs.Animation.Ramps
import SceneScript.Proofs.Script.Grammar
import SceneScript.Proofs.Output.Journal
import SceneScript.Proofs.Render.Journal
import SceneScript.Proofs.Animation.FrameFiles
import SceneScript.Proofs.Render.Schedule
import SceneScript.Proofs.Render.Failure
import SceneScript.Proofs.Render.Plan
import SceneScript.Proofs.Render.Abort
import SceneScript.Proofs.Render.Interleave
import SceneScript.Proofs.Render.Cause
import SceneScript.Proofs.Render.Foreign
import SceneScript.Proofs.Script.Names
import SceneScript.Proofs.Render.Structure
import SceneScript.Proofs.Render.Escape
import SceneScript.Proofs.Render.Repeat
import SceneScript.Proofs.Script.Values
import SceneScript.Proofs.Space.Grid
import SceneScript.Proofs.Space.Surfaces
import SceneScript.Proofs.Space.Linear
import SceneScript.Proofs.Render.Entries
import SceneScript.Proofs.Render.Matrices
import SceneScript.Proofs.Render.Volumes
import SceneScript.Proofs.Space.Normals
import SceneScript.Proofs.Render.Culling
import SceneScript.Proofs.Raster.Coverage
import SceneScript.Proofs.Animation.Directives
import SceneScript.Proofs.Animation.Defects
import SceneScript.Proofs.Render.Refusal
import SceneScript.Proofs.Render.Deletion
import SceneScript.Proofs.Text.Utf8
import SceneScript.Proofs.Storage.Path
import SceneScript.Proofs.Command.Exit
import SceneScript.Proofs.Raster.Rounding
import SceneScript.Proofs.Raster.Stepping
import SceneScript.Proofs.Raster.Clipping
import SceneScript.Proofs.Raster.Resampling
import SceneScript.Proofs.Raster.Conversion
import SceneScript.Proofs.Raster.Reversal
import SceneScript.Proofs.Raster.Sides
import SceneScript.Proofs.Space.Nesting
import SceneScript.Proofs.Binary64.Packing
import SceneScript.Proofs.Binary64.Rounding
import SceneScript.Proofs.Binary64.Arithmetic
import SceneScript.Proofs.Animation.Evenly
import SceneScript.Proofs.Animation.FrameOrder
import SceneScript.Proofs.Script.Concatenation
import SceneScript.Proofs.Render.Scan
import SceneScript.Proofs.Storage.Resolve
import SceneScript.Proofs.Storage.Steps
import SceneScript.Proofs.Storage.Tree
import SceneScript.Proofs.Storage.Making
import SceneScript.Proofs.Storage.Assembly
import SceneScript.Proofs.Render.Confinement
