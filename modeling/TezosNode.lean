import TezosNode.Client.Operation
import TezosNode.Main
import TezosNode.Schema.Folder
import TezosNode.Proofs.Client.Run
import TezosNode.Proofs.Client.Exchange
import TezosNode.Proofs.Client.Clock
import TezosNode.Proofs.Client.Conversation
import TezosNode.Proofs.Client.Inquiry
import TezosNode.Proofs.Client.Bootstrap
import TezosNode.Proofs.Client.Outcome
import TezosNode.Proofs.Client.Release
import TezosNode.Proofs.Client.IdleClosing
import TezosNode.Proofs.Client.Keeping
import TezosNode.Proofs.Schema.Classification
import TezosNode.Proofs.Text.Utf8
import TezosNode.Proofs.Url.Percent
import TezosNode.Proofs.Url.Form
import TezosNode.Proofs.Url.Grouping
import TezosNode.Proofs.Number.Numeral
import TezosNode.Proofs.Url.Options
import TezosNode.Proofs.Client.Construction
import TezosNode.Proofs.Client.Readiness
import TezosNode.Proofs.Client.FailureBody
import TezosNode.Proofs.Client.Destination
import TezosNode.Proofs.Client.Addressing
import TezosNode.Proofs.Client.Telling
import TezosNode.Proofs.Cli.ExitCode
import TezosNode.Proofs.Cli.Escape
import TezosNode.Proofs.Cli.Call
import TezosNode.Proofs.Cli.Constants
import TezosNode.Proofs.Cli.Head
import TezosNode.Proofs.Client.Integer
import TezosNode.Proofs.Config.Environment
import TezosNode.Proofs.Config.Loading
import TezosNode.Proofs.Tez.RoundTrip
import TezosNode.Proofs.Client.Attaching
import TezosNode.Proofs.Client.Injection
import TezosNode.Proofs.Client.Shape
import TezosNode.Proofs.Client.Lenient
import TezosNode.Proofs.Client.Written
import TezosNode.Proofs.Client.Meaning
import TezosNode.Proofs.Config.Timeout
import TezosNode.Proofs.Schema.Check
import TezosNode.Proofs.Client.Stream
import TezosNode.Proofs.Client.Lines
import TezosNode.Proofs.Host.Normalization
import TezosNode.Proofs.Client.WideOptions
