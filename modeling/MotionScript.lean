import MotionScript.Json.Run
import MotionScript.Json.Compilation
import MotionScript.Main
import MotionScript.Run.Schedule
import MotionScript.Proofs.Run.Parts
import MotionScript.Proofs.Run.Invariant
import MotionScript.Proofs.Run.Consistent
import MotionScript.Proofs.Run.Progress
import MotionScript.Proofs.Run.Frame
import MotionScript.Proofs.Run.Reset
import MotionScript.Proofs.Run.Interpreter
import MotionScript.Proofs.Run.Sequential
import MotionScript.Proofs.Run.Stride
import MotionScript.Proofs.Run.Turn
import MotionScript.Proofs.Run.Site
import MotionScript.Proofs.Run.Written
import MotionScript.Proofs.Run.Prompt
import MotionScript.Proofs.Run.Stop
import MotionScript.Proofs.Run.Chronicle
import MotionScript.Proofs.Script.Inlining
import MotionScript.Proofs.Run.Completion
import MotionScript.Proofs.Run.Signal
import MotionScript.Proofs.Script.MoveGrammar
import MotionScript.Proofs.Script.Grammar
import MotionScript.Proofs.Script.Estimate
import MotionScript.Proofs.Script.Layout
import MotionScript.Proofs.Script.Lexical
import MotionScript.Proofs.Script.Accounting
import MotionScript.Proofs.Script.Limits
import MotionScript.Proofs.Run.Supported
import MotionScript.Proofs.Run.Bounded
import MotionScript.Proofs.Run.Announced
import MotionScript.Proofs.Run.WaitPhase
import MotionScript.Proofs.Run.Boundary
import MotionScript.Proofs.Run.Outcome
import MotionScript.Proofs.Run.Failing
import MotionScript.Proofs.Run.Smooth
import MotionScript.Proofs.Run.Pause
import MotionScript.Proofs.Run.Diary
import MotionScript.Proofs.Run.Bracket
import MotionScript.Proofs.Run.Counters
import MotionScript.Proofs.Run.Translation
import MotionScript.Proofs.Run.Located
import MotionScript.Proofs.Run.Monitoring
import MotionScript.Proofs.Run.Retries
import MotionScript.Proofs.Run.Refusal
import MotionScript.Proofs.Script.Reordering
import MotionScript.Proofs.Script.Nesting
import MotionScript.Proofs.Decimal.Rounding
import MotionScript.Proofs.Run.Advance
import MotionScript.Proofs.Run.Timetable
import MotionScript.Proofs.Run.Punctual
import MotionScript.Proofs.Script.Lines
import MotionScript.Proofs.Script.Normal
import MotionScript.Proofs.Script.MoveText
import MotionScript.Proofs.Script.Reprint
import MotionScript.Proofs.Run.Estimated
import MotionScript.Proofs.Cli.Verdict
import MotionScript.Proofs.Device.Attempts
import MotionScript.Proofs.Script.BodySums
import MotionScript.Proofs.Script.LineLocal
import MotionScript.Proofs.Script.Placement
import MotionScript.Proofs.Script.Spacing
