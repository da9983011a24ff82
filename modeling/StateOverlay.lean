import StateOverlay.Main
import StateOverlay.Proofs.Text.Bytes
import StateOverlay.Proofs.Files.Writing
import StateOverlay.Proofs.Run.Steps
import StateOverlay.Proofs.Scan.Recognition
import StateOverlay.Proofs.Run.Planning
import StateOverlay.Proofs.Run.Commit
import StateOverlay.Proofs.Run.Restart
import StateOverlay.Proofs.Macro.Fragments
import StateOverlay.Proofs.Macro.Shadow
import StateOverlay.Proofs.Scan.CodeLines
import StateOverlay.Proofs.Declaration.Attributes
import StateOverlay.Proofs.Declaration.Declarator
import StateOverlay.Proofs.Declaration.Grammar
import StateOverlay.Proofs.Scan.Declared
import StateOverlay.Proofs.Declaration.Records
import StateOverlay.Proofs.Overlay.Assignments
import StateOverlay.Proofs.Scan.RecordNames
import StateOverlay.Proofs.Files.Frame
import StateOverlay.Proofs.Run.Footprint
import StateOverlay.Proofs.Run.Interleaving
import StateOverlay.Proofs.Text.Comments
import StateOverlay.Proofs.Overlay.LiveInclusion
import StateOverlay.Proofs.Scan.Reported
import StateOverlay.Proofs.Companion.Patching
import StateOverlay.Proofs.Run.Products
import StateOverlay.Proofs.Scan.Composition
import StateOverlay.Proofs.Scan.LineClasses
import StateOverlay.Proofs.Text.Order
import StateOverlay.Proofs.Overlay.Invariance
import StateOverlay.Proofs.Macro.Lines
import StateOverlay.Proofs.Macro.Symmetry
import StateOverlay.Proofs.Companion.Insertion
import StateOverlay.Proofs.Scan.Accounting
import StateOverlay.Proofs.CommandLine.Command
import StateOverlay.Proofs.Run.DryRun
import StateOverlay.Proofs.Overlay.Execution
import StateOverlay.Proofs.Declaration.Prototypes
import StateOverlay.Proofs.Overlay.Preamble
import StateOverlay.Proofs.Json.Grammar
import StateOverlay.Proofs.Json.Scalars
import StateOverlay.Proofs.Json.Skipping
import StateOverlay.Proofs.Json.Reading
import StateOverlay.Proofs.Config.Loading
import StateOverlay.Proofs.Json.Determinacy
import StateOverlay.Proofs.CommandLine.Report
import StateOverlay.Proofs.CommandLine.Agreement
import StateOverlay.Proofs.Declaration.Matching
import StateOverlay.Proofs.Scan.Emission
import StateOverlay.Proofs.Files.Siblings
import StateOverlay.Proofs.Run.Placement
import StateOverlay.Proofs.Declaration.Attributed
import StateOverlay.Proofs.Declaration.Values
