import MonitorKeys.Main
import MonitorKeys.Spelling
import MonitorKeys.Token.Cursor
import MonitorKeys.Translation
import MonitorKeys.Proofs.Token.Canonical
import MonitorKeys.Proofs.KeyName
import MonitorKeys.Proofs.Outcome
import MonitorKeys.Proofs.Sender
import MonitorKeys.Proofs.Token.Concatenation
import MonitorKeys.Proofs.Stream
import MonitorKeys.Proofs.Stream.Failure
import MonitorKeys.Proofs.Sink
import MonitorKeys.Proofs.Quote
import MonitorKeys.Proofs.KeyName.Sent
import MonitorKeys.Proofs.Sink.Recording
import MonitorKeys.Proofs.Bracketed
import MonitorKeys.Proofs.Text.Encode
import MonitorKeys.Proofs.Translation
import MonitorKeys.Proofs.Stream.Output
import MonitorKeys.Proofs.Stream.Recovery
import MonitorKeys.Proofs.Stream.Delivery
import MonitorKeys.Proofs.Stream.History
import MonitorKeys.Proofs.Sender.Pieces
import MonitorKeys.Proofs.Sink.Children
import MonitorKeys.Proofs.Program
import MonitorKeys.Proofs.Arguments.Grammar
import MonitorKeys.Proofs.Log
import MonitorKeys.Proofs.Log.Setting
import MonitorKeys.Proofs.Shell
import MonitorKeys.Proofs.Delay.Nearest
import MonitorKeys.Proofs.Delay.Binary64
import MonitorKeys.Proofs.Delay.Numeral
import MonitorKeys.Proofs.Delay
import MonitorKeys.Proofs.Delay.Accuracy
import MonitorKeys.Proofs.Token.Cursor
import MonitorKeys.Proofs.Reading
import MonitorKeys.Proofs.Delay.Shortest
import MonitorKeys.Proofs.Delay.Shown
