import ByteMachine.CommandLine.Response
import ByteMachine.Execution.Run
import ByteMachine.Host.Session
import ByteMachine.Image.Loading
import ByteMachine.Main
import ByteMachine.Output.Console
import ByteMachine.Proofs.Decoding
import ByteMachine.Proofs.Stepping
import ByteMachine.Proofs.InstructionTable
import ByteMachine.Proofs.Faulting
import ByteMachine.Proofs.Repetition
import ByteMachine.Proofs.StackMatching
import ByteMachine.Proofs.History
import ByteMachine.Proofs.Recurrence
import ByteMachine.Proofs.Running
import ByteMachine.Proofs.Contents
import ByteMachine.Proofs.Trace
import ByteMachine.Proofs.StackDepth
import ByteMachine.Proofs.BoundedStack
import ByteMachine.Proofs.StraightLine
import ByteMachine.Proofs.UnreadMemory
import ByteMachine.Proofs.Lifecycle
import ByteMachine.Proofs.Codec
import ByteMachine.Proofs.Numerals
import ByteMachine.Proofs.LineEndings
import ByteMachine.Proofs.LineBytes
import ByteMachine.Proofs.LineAccounting
import ByteMachine.Proofs.LoadingLaws
import ByteMachine.Proofs.QuotedText
import ByteMachine.Proofs.LoadingLog
import ByteMachine.Proofs.Decoration
import ByteMachine.Proofs.Course
import ByteMachine.Proofs.Arguments
import ByteMachine.Proofs.CheckedStores
import ByteMachine.Proofs.Files
import ByteMachine.Proofs.RunCommand
import ByteMachine.Proofs.ConsoleText
import ByteMachine.Proofs.Moments
import ByteMachine.Proofs.RunLog
import ByteMachine.Proofs.Comparison
import ByteMachine.Proofs.ArithmeticCalls
import ByteMachine.Proofs.PlainSettings
import ByteMachine.Proofs.VerboseFlags
import ByteMachine.Proofs.DefaultErrors
import ByteMachine.Proofs.Verbosity
import ByteMachine.Proofs.Noninterference
import ByteMachine.Proofs.Periodicity
import ByteMachine.Proofs.Progress
import ByteMachine.Proofs.GrowingStack
import ByteMachine.Proofs.Stream
import ByteMachine.Proofs.ListingText
import ByteMachine.Proofs.ErrorTexts
import ByteMachine.Proofs.LoadCommand
