import PaymentChannel.Scenario.Node

/-!
# JSON forms of scripts

* `Outcome.decode`, `Script.decode` : read scripted outcomes.
* `ScriptedNode.configure` : changes the settings and the script that an object gives.
-/

namespace PaymentChannel

/-- Reads a scripted outcome: a name, or an object that says what fails or how long it takes. -/
def Outcome.decode : Json → Decoded Outcome
  | .string "ok" => .ok .normal
  | .string "none" => .ok .noReceipt
  | .string "pending" => .ok .pendingReceipt
  | .object [("unavailable", .string reason)] => .ok (.failure (.unavailable reason))
  | .object [("rpc", .string reason)] => .ok (.failure (.rpc reason))
  | .object [("signing", .string reason)] => .ok (.failure (.signing reason))
  | .object [("delay_ms", .natural milliseconds)] => .ok (.delayed milliseconds.toNat)
  | _ => .error .form

def Outcome.decodeAll : Json → Decoded (List Outcome)
  | .array outcomes => outcomes.mapM Outcome.decode
  | _ => .error .form

def Script.decode : Json → Decoded Script
  | .object members => members.mapM fun (name, outcomes) =>
    (Outcome.decodeAll outcomes).map (name, ·)
  | _ => .error .form

/-- Reads the settings of a node, where those that are missing stay as they are. -/
def NodeSettings.fields (old : NodeSettings) : Fields NodeSettings := NodeSettings.mk
  <$> .memberOr decode "block_number" old.blockNumber
  <*> .memberOr decode "chain_id" old.chainId
  <*> .memberOr decode "balance" old.balance
  <*> .memberOr decode "gas_price" old.gasPrice
  <*> .memberOr decode "gas_estimate" old.gasEstimate
  <*> .memberOr decode "nonce" old.nonce
  <*> .memberOr decode "receipt_status" old.receiptStatus

/-- Changes what an object gives. A script takes the place of what is left of the old one. -/
def ScriptedNode.configure (node : ScriptedNode) : Json → Decoded ScriptedNode
  | .null => .ok node
  | json => Fields.run ((fun settings script => { node with settings, script })
    <$> NodeSettings.fields node.settings
    <*> .memberOr Script.decode "script" node.script) json

end PaymentChannel
