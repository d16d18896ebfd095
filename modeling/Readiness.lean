import Readiness.Command.Run
import Readiness.Config.Environment
import Readiness.Config.File
import Readiness.Error
import Readiness.Log.Printout
import Readiness.Log.Splitter.Use
import Readiness.Main
import Readiness.Rehearsal
import Readiness.Wait.Probing
import Readiness.Proofs.Splitter.Ending
import Readiness.Proofs.Session.Agreement
import Readiness.Proofs.Gate.Failing
import Readiness.Proofs.Gate.Listening
import Readiness.Proofs.Text.Pieces
import Readiness.Proofs.Container.CurrentLog
import Readiness.Proofs.Data.Reading
import Readiness.Proofs.Wait.Spelling
import Readiness.Proofs.Text.Numeral
import Readiness.Proofs.Toml.Listing
import Readiness.Proofs.Config.Sources
import Readiness.Proofs.Splitter.LineByLine
import Readiness.Proofs.Wait.Places
import Readiness.Proofs.Wait.Timeline
import Readiness.Proofs.Gate.Capacity
import Readiness.Log.Splitter.Wired
import Readiness.Proofs.Splitter.Backpressure
import Readiness.Log.Sink.Pieces
import Readiness.Proofs.Log.Cutoff
import Readiness.Proofs.Pipeline.Beside
import Readiness.Proofs.Container.Growth
import Readiness.Proofs.Gate.Restart
import Readiness.Proofs.Wait.Turns
import Readiness.Proofs.Gate.Turns
import Readiness.Proofs.Wait.Probing
import Readiness.Proofs.Http.StatusRange
import Readiness.Proofs.Config.Padding
import Readiness.Proofs.Config.Outcome
import Readiness.Log.Fanout
import Readiness.Proofs.Log.Fanout
import Readiness.Proofs.Command.Order
import Readiness.Proofs.Wait.Course
import Readiness.Proofs.Container.Record
import Readiness.Proofs.Gate.AnyTime
import Readiness.Proofs.Text.Encoding
import Readiness.Proofs.Log.Capture
