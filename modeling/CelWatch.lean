import CelWatch.Schedule.Service
import CelWatch.Main
import CelWatch.Proofs.Schedule.Move
import CelWatch.Proofs.Schedule.Publication
import CelWatch.Proofs.Schedule.Freshness
import CelWatch.Proofs.Schedule.Eager
import CelWatch.Proofs.Schedule.Turn
import CelWatch.Proofs.Schedule.Debounce
import CelWatch.Proofs.Schedule.Generation
import CelWatch.Proofs.Schedule.Tracking
import CelWatch.Proofs.Schedule.Renaming
import CelWatch.Proofs.Schedule.Closing
import CelWatch.Proofs.Schedule.Timeline
import CelWatch.Proofs.Schedule.Timing
import CelWatch.Proofs.Schedule.Isolation
import CelWatch.Proofs.Lsp.Session
import CelWatch.Proofs.Lsp.Unopened
import CelWatch.Proofs.Lsp.Alone
import CelWatch.Proofs.Lsp.Symbols
import CelWatch.Proofs.Lsp.Convergence
import CelWatch.Proofs.Template.Body
import CelWatch.Proofs.Template.Interpolation
import CelWatch.Proofs.Lsp.View
import CelWatch.Proofs.Engine.Reading
import CelWatch.Proofs.Engine.Relocation
import CelWatch.Proofs.Schedule.Repetition
import CelWatch.Proofs.Cel.Nesting
import CelWatch.Proofs.Cel.Parts
import CelWatch.Proofs.Engine.Embedding
import CelWatch.Proofs.Text.Line
import CelWatch.Proofs.Text.Padding
import CelWatch.Proofs.Lsp.Point
import CelWatch.Proofs.Template.Composition
import CelWatch.Proofs.Settings.Parameters
import CelWatch.Proofs.Settings.Spelling
import CelWatch.Proofs.Settings.Balance
import CelWatch.Proofs.Settings.Cuts
import CelWatch.Proofs.Symbol.Roles
import CelWatch.Proofs.Settings.Overlay
import CelWatch.Proofs.Files.Descent
import CelWatch.Proofs.Settings.Nearest
import CelWatch.Proofs.Text.Guarded
import CelWatch.Proofs.Cel.Placement
import CelWatch.Proofs.Cel.Names
import CelWatch.Proofs.Cel.Standing
import CelWatch.Proofs.Symbol.Spans
