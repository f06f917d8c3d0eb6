import PaymentChannel.Duration
import PaymentChannel.Quantity

/-!
# Settings

* `DisputeConfig` : the timeouts of disputes.
* `ChainClientConfig` : how a node is reached and polled.

Each setting has a default, which stands for a member that is missing. Members of other names are
ignored.
-/

namespace PaymentChannel

structure DisputeConfig where
  /-- The blocks after a close during which balance proofs can be updated. -/
  settleTimeout : BlockCount := 500
  /-- The blocks after an update during which obsolete unlocks can be punished. -/
  punishWindow : BlockCount := 100
  /-- The time within which the transactions of a step have to be confirmed. -/
  transactionTimeout : Duration := .ofSeconds 180
  deriving DecidableEq

structure ChainClientConfig where
  endpoint : String := "http://localhost:8545"
  reconnectInterval : Duration := .ofSeconds 3
  /-- The number of failed dials after which the client gives up, if it ever does. -/
  maxReconnectAttempts : Option Nat := none
  receiptPollInterval : Duration := .ofSeconds 1
  deriving DecidableEq

/-- Reads a number of blocks, which stands as a JSON number. -/
def decodeBlockCount : Json → Decoded BlockCount
  | .natural n => .ok n
  | _ => .error .form

def decodeText : Json → Decoded String
  | .string s => .ok s
  | _ => .error .form

/-- Reads a number of attempts below `2 ^ 32`, or `null` for no limit. -/
def decodeAttempts : Json → Decoded (Option Nat)
  | .null => .ok none
  | json => (json.decodeBelow UInt32.size).map some

namespace DisputeConfig

def decode (json : Json) : Decoded DisputeConfig :=
  let config : DisputeConfig := {}
  Fields.run (DisputeConfig.mk
    <$> .memberOr decodeBlockCount "settle_timeout" config.settleTimeout
    <*> .memberOr decodeBlockCount "punish_window" config.punishWindow
    <*> .memberOr Codec.decode "transaction_timeout" config.transactionTimeout) json

end DisputeConfig

namespace ChainClientConfig

def decode (json : Json) : Decoded ChainClientConfig :=
  let config : ChainClientConfig := {}
  Fields.run (ChainClientConfig.mk
    <$> .memberOr decodeText "eth_rpc_endpoint" config.endpoint
    <*> .memberOr Codec.decode "reconnect_interval" config.reconnectInterval
    <*> .memberOr decodeAttempts "max_reconnect_attempts" config.maxReconnectAttempts
    <*> .memberOr Codec.decode "receipt_poll_interval" config.receiptPollInterval) json

end ChainClientConfig

end PaymentChannel
