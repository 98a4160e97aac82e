import MercuryLink.Bytes
import MercuryLink.Shannon
import MercuryLink.Text.Invisible
import MercuryLink.Text.Ranges
import MercuryLink.Text.Columns
import MercuryLink.Text.Emoji
import MercuryLink.Text.Ligature
import MercuryLink.Text.Width
import MercuryLink.Text.Wrap
import MercuryLink.Text.Utf8
import MercuryLink.Text.Quoted
import MercuryLink.Text.Outline
import MercuryLink.Text.Hex
import MercuryLink.Timespan
import MercuryLink.Frame.Seal
import MercuryLink.Stream.Channel
import MercuryLink.Record.Varint
import MercuryLink.Record.Wire
import MercuryLink.Record.Header
import MercuryLink.Mercury.Message
import MercuryLink.Mercury.Error
import MercuryLink.Work.Worker
import MercuryLink.Mercury.Board
import MercuryLink.Mercury.Exchange
import MercuryLink.Text.Blank
import MercuryLink.Text.Decimal
import MercuryLink.Endpoint.Address
import MercuryLink.Endpoint.Dial
import MercuryLink.Console.Exit
import MercuryLink.Console.Setting
import MercuryLink.Stream.Duplex
import MercuryLink.Stream.Carrier
import MercuryLink.Mercury.Settings
import MercuryLink.Mercury.Session
import MercuryLink.Mercury.Conversation
import MercuryLink.Stream.Recorder
import MercuryLink.Text.Json
import MercuryLink.Text.Grid
import MercuryLink.Console.Display
import MercuryLink.Console.Usage
import MercuryLink.Console.Arguments
import MercuryLink.Console.Command
import MercuryLink.Mercury.Line
import MercuryLink.Console.Execute
import MercuryLink.Main
import MercuryLink.Proofs.Sealing.Wire
import MercuryLink.Proofs.Sealing.Acceptance
import MercuryLink.Proofs.Sealing.Lockstep
import MercuryLink.Proofs.Exchange.Settling
import MercuryLink.Proofs.Exchange.Run
import MercuryLink.Proofs.Exchange.Resolution
import MercuryLink.Proofs.Exchange.Correlation
import MercuryLink.Proofs.Exchange.Closing
import MercuryLink.Proofs.Work.Shift
import MercuryLink.Proofs.Stream.Sending
import MercuryLink.Proofs.Exchange.Queueing
import MercuryLink.Proofs.Session.Run
import MercuryLink.Proofs.Session.Outflow
import MercuryLink.Proofs.Sealing.Chunking
import MercuryLink.Proofs.Stream.Reading
import MercuryLink.Proofs.Session.Inflow
import MercuryLink.Proofs.Message.WireForm
import MercuryLink.Proofs.Record.Reading
import MercuryLink.Proofs.Message.Numbering
import MercuryLink.Proofs.Message.Delimiting
import MercuryLink.Proofs.Message.RoundTrip
import MercuryLink.Proofs.Exchange.Turns
import MercuryLink.Proofs.Exchange.Listening
import MercuryLink.Proofs.Exchange.Failing
import MercuryLink.Proofs.Session.Beside
import MercuryLink.Proofs.Session.Ending
import MercuryLink.Proofs.Stream.Latching
import MercuryLink.Proofs.Exchange.Pushing
import MercuryLink.Proofs.Exchange.Assembling
import MercuryLink.Proofs.Exchange.Expiring
import MercuryLink.Proofs.Exchange.Lingering
import MercuryLink.Proofs.Sealing.Refusal
import MercuryLink.Proofs.Exchange.Acknowledging
import MercuryLink.Proofs.Session.Subscribing
import MercuryLink.Proofs.Session.Ledger
import MercuryLink.Proofs.Session.Sizing
import MercuryLink.Proofs.Session.Loop
import MercuryLink.Proofs.Session.Receiving
import MercuryLink.Proofs.Session.Closing
import MercuryLink.Proofs.Console.Timing
