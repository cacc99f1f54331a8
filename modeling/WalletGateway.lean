import WalletGateway.Api.Error
import WalletGateway.Encoding.Base64
import WalletGateway.Hash.Hmac
import WalletGateway.Json.Record
import WalletGateway.Payload.FailureReason
import WalletGateway.Payload.Interaction
import WalletGateway.Payload.Order
import WalletGateway.Payload.Report
import WalletGateway.Text.Blank
import WalletGateway.Wallet.Address
import WalletGateway.Wallet.Amount
import WalletGateway.Api.Body
import WalletGateway.Api.Csrf
import WalletGateway.Api.Answer
import WalletGateway.Device.Conversation
import WalletGateway.Access.State
import WalletGateway.Access.Rehearsal
import WalletGateway.Link.Settling
import WalletGateway.Link.Connector
import WalletGateway.Link.Datagram
import WalletGateway.Api.Service
import WalletGateway.Proofs.Access.Execution
import WalletGateway.Proofs.Packet.Stream
import WalletGateway.Proofs.Access.Preemption
import WalletGateway.Proofs.Access.Exclusion
import WalletGateway.Proofs.Link.Dialogue
import WalletGateway.Proofs.Link.Pairing
import WalletGateway.Proofs.Api.Admission
import WalletGateway.Proofs.Api.Traffic
import WalletGateway.Proofs.Api.Refusal
import WalletGateway.Proofs.Api.Settled
import WalletGateway.Proofs.Api.TokenGate
import WalletGateway.Proofs.Access.Conduct
import WalletGateway.Proofs.Access.Solitude
import WalletGateway.Proofs.Api.Exemption
import WalletGateway.Proofs.Api.Sequence
import WalletGateway.Proofs.Protobuf.RoundTrip
import WalletGateway.Proofs.Json.Extent
import WalletGateway.Proofs.Wallet.Amount
import WalletGateway.Proofs.Payload.RoundTrip
import WalletGateway.Proofs.Access.Stillness
import WalletGateway.Proofs.Api.Bodies
import WalletGateway.Proofs.Api.Signing
import WalletGateway.Proofs.Access.Tenancy
import WalletGateway.Proofs.Access.Abandonment
import WalletGateway.Proofs.Api.Separation
import WalletGateway.Proofs.Access.Orderly
import WalletGateway.Proofs.Encoding.Base64
import WalletGateway.Proofs.Api.Tokens
import WalletGateway.Proofs.Json.Document
import WalletGateway.Proofs.Json.RoundTrip
import WalletGateway.Proofs.Api.Envelope
import WalletGateway.Proofs.Link.Framing
import WalletGateway.Proofs.Link.Chronicle
import WalletGateway.Proofs.Link.FirstInFirstOut
import WalletGateway.Proofs.Json.Typed
import WalletGateway.Proofs.Api.Expiry
import WalletGateway.Proofs.Payload.Table
import WalletGateway.Proofs.Access.Course
import WalletGateway.Proofs.Access.Acquisition
import WalletGateway.Proofs.Link.Yielding
import WalletGateway.Proofs.Link.Disconnection
import WalletGateway.Proofs.Link.Connections
import WalletGateway.Proofs.Link.Remnant
import WalletGateway.Proofs.Wallet.Address
import WalletGateway.Proofs.Api.OwnOrigin
import WalletGateway.Proofs.Packet.Acceptance
import WalletGateway.Proofs.Link.Reading
import WalletGateway.Proofs.Api.Cancelling
import WalletGateway.Proofs.Api.Shaping
