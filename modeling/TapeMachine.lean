import TapeMachine.Main
import TapeMachine.Viewer.Draw
import TapeMachine.Proofs.BudgetedRun
import TapeMachine.Proofs.Capacity
import TapeMachine.Proofs.Concatenation
import TapeMachine.Proofs.Fault
import TapeMachine.Proofs.OutcomeLog
import TapeMachine.Proofs.StructuredRun
import TapeMachine.Proofs.TimedRun
import TapeMachine.Proofs.Editing
import TapeMachine.Proofs.Driving
import TapeMachine.Proofs.Drawing
import TapeMachine.Proofs.Interaction
import TapeMachine.Proofs.Messages
import TapeMachine.Proofs.SourceText
import TapeMachine.Proofs.Transaction
import TapeMachine.Proofs.Resolution
import TapeMachine.Proofs.Caret
import TapeMachine.Proofs.Following
import TapeMachine.Proofs.RunReport
import TapeMachine.Proofs.StepTable
import TapeMachine.Proofs.Progress
import TapeMachine.Proofs.Redraw
import TapeMachine.Proofs.InView
import TapeMachine.Proofs.ColorNotation
import TapeMachine.Proofs.WrittenSections
import TapeMachine.Proofs.ProgramPane
import TapeMachine.Proofs.TapePane
import TapeMachine.Proofs.EditorPane
import TapeMachine.Proofs.Scan
