import EdgeTiling.Direction
import EdgeTiling.Domain
import EdgeTiling.Number
import EdgeTiling.Tile
import EdgeTiling.Grid
import EdgeTiling.Grid.Counts
import EdgeTiling.Propagation
import EdgeTiling.Random.Stream
import EdgeTiling.Random.Weighted
import EdgeTiling.Journal
import EdgeTiling.Scheduler
import EdgeTiling.Solver
import EdgeTiling.Snapshot
import EdgeTiling.Catalog
import EdgeTiling.Retry
import EdgeTiling.Text.Character
import EdgeTiling.Text.Reader
import EdgeTiling.Json.Tree
import EdgeTiling.Json.Reader
import EdgeTiling.Json.Form
import EdgeTiling.Serial
import EdgeTiling.Catalog.Json
import EdgeTiling.Catalog.Ron
import EdgeTiling.Duration
import EdgeTiling.Text.Quoted
import EdgeTiling.Files
import EdgeTiling.Journal.Filter
import EdgeTiling.Host
import EdgeTiling.Catalog.Load
import EdgeTiling.Display
import EdgeTiling.Reporter
import EdgeTiling.Csv
import EdgeTiling.Export
import EdgeTiling.Survey
import EdgeTiling.Settings
import EdgeTiling.Settings.Value
import EdgeTiling.Settings.Environment
import EdgeTiling.Settings.Toml
import EdgeTiling.Settings.Arguments
import EdgeTiling.Run
import EdgeTiling.App
import EdgeTiling.Main
import EdgeTiling.Pattern
import EdgeTiling.Pattern.Fault
import EdgeTiling.Pattern.Parse
import EdgeTiling.Pattern.Cursor
import EdgeTiling.Pattern.Atom
import EdgeTiling.Pattern.Bracket
import EdgeTiling.Pattern.Compile
import EdgeTiling.Proofs.Cells
import EdgeTiling.Proofs.Changes
import EdgeTiling.Proofs.Spreading
import EdgeTiling.Proofs.Steps
import EdgeTiling.Proofs.Course
import EdgeTiling.Proofs.Consistency
import EdgeTiling.Proofs.Scheduling
import EdgeTiling.Proofs.Resolution
import EdgeTiling.Proofs.Refutation
import EdgeTiling.Proofs.Drawing
import EdgeTiling.Proofs.Progress
import EdgeTiling.Proofs.Confluence
import EdgeTiling.Proofs.Replay
import EdgeTiling.Proofs.Lines
import EdgeTiling.Proofs.InPlace
import EdgeTiling.Proofs.Operations
import EdgeTiling.Proofs.History
import EdgeTiling.Proofs.Restrictions
import EdgeTiling.Proofs.Recording
import EdgeTiling.Proofs.Retrying
import EdgeTiling.Proofs.Surveying
import EdgeTiling.Proofs.Magnitude
import EdgeTiling.Proofs.Totals
import EdgeTiling.Proofs.Counting
import EdgeTiling.Proofs.Validation
import EdgeTiling.Proofs.Filing
import EdgeTiling.Proofs.Foresight
import EdgeTiling.Proofs.Tables
import EdgeTiling.Proofs.StandardRun
import EdgeTiling.Proofs.Numbering
import EdgeTiling.Proofs.FirstChanges
import EdgeTiling.Proofs.GreatestNarrowing
import EdgeTiling.Proofs.FewestCandidates
import EdgeTiling.Proofs.Redrawing
import EdgeTiling.Proofs.Forms
import EdgeTiling.Proofs.Unconstrained
import EdgeTiling.Proofs.Acceptance
import EdgeTiling.Proofs.Views
import EdgeTiling.Proofs.Decoding
import EdgeTiling.Proofs.Worklist
import EdgeTiling.Proofs.ForeignTiles
import EdgeTiling.Proofs.WordGeometry
import EdgeTiling.Proofs.Draining
import EdgeTiling.Proofs.Layering
import EdgeTiling.Proofs.TraceReading
