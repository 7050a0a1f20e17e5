import LightningGateway.Backend.Credentials
import LightningGateway.Backend.Lnbits
import LightningGateway.Backend.Lnpay
import LightningGateway.Backend.Zbd
import LightningGateway.Bolt11.Amount
import LightningGateway.Bolt11.Bech32
import LightningGateway.Bolt11.Error
import LightningGateway.Bolt11.Field
import LightningGateway.Bolt11.Invoice
import LightningGateway.Crypto.Secp256k1
import LightningGateway.Crypto.Sha256
import LightningGateway.Decimal.Double
import LightningGateway.Decimal.Shortest
import LightningGateway.FileTree
import LightningGateway.Host
import LightningGateway.Host.Opening
import LightningGateway.Host.Rehearsal
import LightningGateway.Json.Numeral
import LightningGateway.Json.Record
import LightningGateway.Json.Tree
import LightningGateway.Json.Value
import LightningGateway.Ledger
import LightningGateway.Listener
import LightningGateway.Listener.Rehearsal
import LightningGateway.Main
import LightningGateway.Pause
import LightningGateway.Payment.Amount
import LightningGateway.Payment.Answer
import LightningGateway.Payment.Error
import LightningGateway.Payment.Request
import LightningGateway.Payment.Status
import LightningGateway.Payment.Wire
import LightningGateway.Provider.Client
import LightningGateway.Provider.Dialogue
import LightningGateway.Provider.Endpoint
import LightningGateway.Provider.Reply
import LightningGateway.PushStream.Event
import LightningGateway.PushStream.Rehearsal
import LightningGateway.PushStream.Runner
import LightningGateway.PushStream.Streams
import LightningGateway.Relay
import LightningGateway.Settings.Basic
import LightningGateway.Settings.CommandLine
import LightningGateway.Settings.Loading
import LightningGateway.Settings.Log
import LightningGateway.Settings.Stored
import LightningGateway.Text.Base64
import LightningGateway.Text.Blank
import LightningGateway.Text.Charset
import LightningGateway.Text.Excerpt
import LightningGateway.Text.Hex
import LightningGateway.Text.Hidden
import LightningGateway.Text.Mark
import LightningGateway.Text.Pieces
import LightningGateway.Text.Points
import LightningGateway.Text.Quoted
import LightningGateway.Text.Table
import LightningGateway.Text.Unassigned
import LightningGateway.Text.Utf8
import LightningGateway.Toml.Document
import LightningGateway.Toml.Draft
import LightningGateway.Toml.Layout
import LightningGateway.Toml.Moment
import LightningGateway.Toml.Number
import LightningGateway.Toml.Quoted
import LightningGateway.Toml.Statement
import LightningGateway.Toml.Value
import LightningGateway.Url.Basic
import LightningGateway.Url.Domain
import LightningGateway.Url.Domain.Composition
import LightningGateway.Url.Domain.Direction
import LightningGateway.Url.Domain.Joining
import LightningGateway.Url.Domain.Label
import LightningGateway.Url.Domain.Mapping
import LightningGateway.Url.Domain.Normal
import LightningGateway.Url.Host
import LightningGateway.Url.Percent
import LightningGateway.Url.Punycode
import LightningGateway.Url.Reading
import LightningGateway.Wallet
import LightningGateway.Proofs.Run
import LightningGateway.Proofs.PushStream.Delivery
import LightningGateway.Proofs.Json.Schema
import LightningGateway.Proofs.Backend.Bodies
import LightningGateway.Proofs.Backend.Lookup
import LightningGateway.Proofs.Backend.Secrecy
import LightningGateway.Proofs.Backend.Submission
import LightningGateway.Proofs.Ledger.Notification
import LightningGateway.Proofs.Ledger.Settlement
import LightningGateway.Proofs.Ledger.Failure
import LightningGateway.Proofs.Listener.Forwarding
import LightningGateway.Proofs.Listener.Subscription
import LightningGateway.Proofs.Listener.Webhook
import LightningGateway.Proofs.PushStream.Lines
import LightningGateway.Proofs.PushStream.Grammar
import LightningGateway.Proofs.Backend.Refusal
import LightningGateway.Proofs.Url.Percent
import LightningGateway.Proofs.Url.Below
import LightningGateway.Proofs.Url.Plain
import LightningGateway.Proofs.Backend.Addressing
import LightningGateway.Proofs.Backend.Login
import LightningGateway.Proofs.PushStream.Reconnection
import LightningGateway.Proofs.Backend.Closing
import LightningGateway.Proofs.Backend.Wording
import LightningGateway.Proofs.Json.Spelling
import LightningGateway.Proofs.Json.RoundTrip
import LightningGateway.Proofs.Json.Record
import LightningGateway.Proofs.Payment.Wire
import LightningGateway.Proofs.Provider.Sending
import LightningGateway.Proofs.Backend.Authentication
import LightningGateway.Proofs.Backend.Charging
import LightningGateway.Proofs.Backend.Paying
import LightningGateway.Proofs.PushStream.Projection
import LightningGateway.Proofs.PushStream.Cancellation
import LightningGateway.Proofs.Backend.Acceptance
import LightningGateway.Proofs.Payment.Decimal
import LightningGateway.Proofs.Payment.Disjointness
import LightningGateway.Proofs.Backend.Balance
import LightningGateway.Proofs.Ledger.Preimage
import LightningGateway.Proofs.Host.Shutdown
import LightningGateway.Proofs.Host.Stream
import LightningGateway.Proofs.Host.Opening
import LightningGateway.Proofs.Backend.Explanation
import LightningGateway.Proofs.Backend.Fee
import LightningGateway.Proofs.Ledger.Record
import LightningGateway.Proofs.Ledger.Balance
import LightningGateway.Proofs.Ledger.Timers
import LightningGateway.Proofs.Ledger.Schedule
import LightningGateway.Proofs.Ledger.AutoSettlement
import LightningGateway.Proofs.Provider.Address
import LightningGateway.Proofs.Provider.Quotation
import LightningGateway.Proofs.Ledger.OwnInvoice
import LightningGateway.Proofs.Json.Place
import LightningGateway.Proofs.Backend.Interchange
import LightningGateway.Proofs.FileTree
import LightningGateway.Proofs.Toml.Spelling
import LightningGateway.Proofs.Toml.RoundTrip
import LightningGateway.Proofs.Settings.Stored
import LightningGateway.Proofs.Settings.Loading
