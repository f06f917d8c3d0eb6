import PaymentChannel.Text.Hex
import PaymentChannel.Text.Decimal
import PaymentChannel.Json.Printer
import PaymentChannel.Json.Parser
import PaymentChannel.Json.Codec
import PaymentChannel.ChainId
import PaymentChannel.Hash
import PaymentChannel.Hash.Keccak
import PaymentChannel.Hash.Sha256
import PaymentChannel.Signature.Key
import PaymentChannel.Message
import PaymentChannel.Evidence
import PaymentChannel.Channel.Transition
import PaymentChannel.Duration
import PaymentChannel.Config
import PaymentChannel.Contract.Abi
import PaymentChannel.Contract.Function
import PaymentChannel.Node.Error
import PaymentChannel.Node.Endpoint
import PaymentChannel.Client.Signal
import PaymentChannel.Dialogue
import PaymentChannel.Rpc.Client
import PaymentChannel.Contract.Call
import PaymentChannel.Account.Submission
import PaymentChannel.Dispute.Service
import PaymentChannel.Scenario.Run
import PaymentChannel.Node.Form
import PaymentChannel.Scenario.Form
import PaymentChannel.Proofs.ByteForms
import PaymentChannel.Proofs.Logged
import PaymentChannel.Proofs.Channel.Role
import PaymentChannel.Proofs.Channel.Check
import PaymentChannel.Proofs.Channel.Step
import PaymentChannel.Proofs.Channel.Run
import PaymentChannel.Proofs.Channel.Invariant
import PaymentChannel.Proofs.Channel.Evidence
import PaymentChannel.Proofs.Channel.Punishment
import PaymentChannel.Proofs.Channel.PunishWindow
import PaymentChannel.Proofs.Lock.Soundness
import PaymentChannel.Proofs.Channel.Forfeit
import PaymentChannel.Proofs.Lock.Completeness
import PaymentChannel.Proofs.Lock.Binding
import PaymentChannel.Proofs.Channel.Settlement
import PaymentChannel.Proofs.Channel.Mirror
import PaymentChannel.Proofs.Channel.Lifecycle
import PaymentChannel.Proofs.Channel.Commutation
import PaymentChannel.Proofs.SignedMessage
import PaymentChannel.Proofs.Signing
import PaymentChannel.Proofs.Channel.Replay
import PaymentChannel.Proofs.Account.Nonce
import PaymentChannel.Proofs.Account.Confirmed
import PaymentChannel.Proofs.Dispute.Docket
import PaymentChannel.Proofs.Dispute.Caseload
import PaymentChannel.Proofs.Dispute.Sendable
import PaymentChannel.Proofs.Json.Lossless
import PaymentChannel.Proofs.Numerals
import PaymentChannel.Proofs.Client.Signals
import PaymentChannel.Proofs.Client.Errand
import PaymentChannel.Proofs.Client.Line
import PaymentChannel.Proofs.Scenario
import PaymentChannel.Proofs.Client.Reliable
import PaymentChannel.Proofs.Client.Announced
import PaymentChannel.Proofs.Client.Status
import PaymentChannel.Proofs.Channel.Advantage
import PaymentChannel.Proofs.Channel.Deadline
import PaymentChannel.Proofs.Account.Invoked
import PaymentChannel.Proofs.Account.Prepared
import PaymentChannel.Proofs.Account.SentOnce
import PaymentChannel.Proofs.Dispute.Dated
import PaymentChannel.Proofs.Channel.Nonces
import PaymentChannel.Proofs.Channel.SettleBlock
import PaymentChannel.Proofs.Dispute.SettleCall
import PaymentChannel.Proofs.ChainNumber
import PaymentChannel.Proofs.Account.Signed
import PaymentChannel.Proofs.Client.Ledger
import PaymentChannel.Proofs.Account.Relayed
import PaymentChannel.Proofs.Contract.Decoding
import PaymentChannel.Proofs.Contract.CallData
