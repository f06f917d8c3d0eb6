import Mathlib.Data.List.Nodup
import PaymentChannel.Contract.Call
import PaymentChannel.Proofs.Contract.Decoding

/-!
# What call data carry

* `ContractCall.intended` : what a call is meant to tell the contract.
* `ContractFunction.selector_inj` : functions are told apart by four bytes.
* `ContractCall.intended_typed` : the arguments have the types of the parameters.
* `ContractCall.data_carries` : **call data carry exactly the arguments**.
-/

namespace PaymentChannel

open ContractFunction

/-! ## Selectors -/

namespace ContractFunction

variable {f g : ContractFunction}

theorem selectors : all.map selector = [[0xb9, 0xee, 0xc0, 0x14], [0xaa, 0xa3, 0xdb, 0xcc],
    [0x83, 0x75, 0x36, 0xb9], [0xe1, 0x1c, 0xbf, 0x99]] := by
  decide +kernel

theorem mem_all (f : ContractFunction) : f ∈ all := by
  cases f <;> decide

theorem selector_inj (h : f.selector = g.selector) : f = g := by
  have distinct : (all.map selector).Nodup := by
    rw [selectors]
    decide
  exact List.inj_on_of_nodup_map distinct f.mem_all g.mem_all h

theorem length_selector (f : ContractFunction) : f.selector.length = 4 := by
  rw [selector, List.length_take, Hash.length_bytes]
  rfl

/-- No argument follows one of variable size. -/
theorem bytes_last (f : ContractFunction) : .bytes ∉ f.parameters.dropLast := by
  cases f <;> decide

theorem few_parameters (f : ContractFunction) : 32 * f.parameters.length < 2 ^ 256 := by
  cases f <;> decide

end ContractFunction

/-! ## Arguments -/

/-- So many zero bytes. -/
def zeros (size : Nat) : Bytes := List.replicate size 0

/-- What is told of a balance proof, or of the lack of one. -/
def intendedProof (partner : Address) : Option BalanceProof → List Token
  | some proof => [.address partner, .uint proof.transferredAmount,
      .fixedBytes proof.locksroot.bytes, .uint (BitVec.ofNat 256 proof.nonce.toNat),
      .fixedBytes proof.additionalHash.bytes, .bytes (proof.signature.getD (zeros 65))]
  | none => [.address partner, .uint 0, .fixedBytes (zeros 32), .uint 0, .fixedBytes (zeros 32),
      .bytes (zeros 65)]

namespace ContractCall

/-- What a call by the given account is meant to tell the contract. -/
def intended (account : Address) : ContractCall → List Token
  | close _ partner balanceProof => intendedProof partner balanceProof
  | update partner balanceProof => intendedProof partner (some balanceProof)
  | punish _ _ beneficiary cheater lockHash additionalHash cheaterSignature =>
    [.address beneficiary, .address cheater, .fixedBytes lockHash.bytes,
      .fixedBytes additionalHash.bytes, .bytes cheaterSignature]
  | settle _ partner settlement _ =>
    [.address account, .uint settlement.ourTransferredAmount,
      .fixedBytes settlement.ourLocksroot.bytes, .address partner,
      .uint settlement.partnerTransferredAmount, .fixedBytes settlement.partnerLocksroot.bytes]

theorem arguments_eq_intended (account : Address) (call : ContractCall) :
    call.arguments account = call.intended account := by
  cases call with
  | close _ _ balanceProof => cases balanceProof <;> rfl
  | _ => rfl

end ContractCall

theorem Token.HasType.hash (h : Hash) : (fixedBytes h.bytes).HasType (.fixedBytes 32) :=
  ⟨h.length_bytes, by decide, by decide⟩

theorem intendedProof_typed (partner : Address) (balanceProof : Option BalanceProof) :
    List.Forall₂ Token.HasType (intendedProof partner balanceProof)
      closeChannel.parameters := by
  have blank : Token.HasType (.fixedBytes (zeros 32)) (.fixedBytes 32) :=
    ⟨List.length_replicate, by decide, by decide⟩
  cases balanceProof with
  | none =>
    have zero : (0 : Amount).toNat < 2 ^ 64 := by decide
    exact .cons trivial (.cons (BitVec.isLt _) (.cons blank (.cons zero (.cons blank
      (.cons trivial .nil)))))
  | some proof =>
    have narrow : Token.HasType (.uint (.ofQuantity proof.nonce)) (.uint 64) := by
      rw [Token.HasType, Amount.toNat_ofQuantity]
      exact proof.nonce.toNat_lt
    exact .cons trivial (.cons (BitVec.isLt _) (.cons (.hash _) (.cons narrow (.cons (.hash _)
      (.cons trivial .nil)))))

namespace ContractCall

/-- The arguments have the types of the parameters. -/
theorem intended_typed (account : Address) (call : ContractCall) :
    List.Forall₂ Token.HasType (call.intended account) call.function.parameters := by
  cases call with
  | close _ partner balanceProof => exact intendedProof_typed partner balanceProof
  | update partner balanceProof => exact intendedProof_typed partner (some balanceProof)
  | punish =>
    exact .cons trivial (.cons trivial (.cons (.hash _) (.cons (.hash _) (.cons trivial .nil))))
  | settle =>
    exact .cons trivial (.cons (BitVec.isLt _) (.cons (.hash _) (.cons trivial
      (.cons (BitVec.isLt _) (.cons (.hash _) .nil)))))

/-- **Call data carry exactly the arguments.**  They stand behind the four bytes of the selector and
read back by the types of the parameters, as long as 256 bits can count the bytes of a signature.
Two calls with the same data call the same function with the same arguments, however long these
are. -/
theorem data_carries (account : Address) (call : ContractCall) :
    (∃ encoding, call.data account = call.function.selector ++ encoding ∧
      call.function.selector.length = 4 ∧
      (decodeTokens? call.function.parameters encoding = some (call.intended account) ↔
        ∀ value, .bytes value ∈ call.intended account → value.length < 2 ^ 256)) ∧
    ∀ (account' : Address) (call' : ContractCall), call.data account = call'.data account' →
      call.function = call'.function ∧ call.intended account = call'.intended account' := by
  have typed := call.intended_typed account
  constructor
  · refine ⟨encodeTokens (call.intended account), ?_, length_selector _,
      decodeTokens?_encodeTokens_iff typed (bytes_last _) (few_parameters _)⟩
    rw [data, arguments_eq_intended]
    rfl
  · intro account' call' same
    have typed' := call'.intended_typed account'
    rw [data, data, arguments_eq_intended, arguments_eq_intended] at same
    have length : call.function.selector.length = call'.function.selector.length := by
      rw [length_selector, length_selector]
    obtain ⟨selector, encoding⟩ := List.append_inj same length
    have function := selector_inj selector
    rw [← function] at typed'
    exact ⟨function, encodeTokens_inj typed typed' (bytes_last _) encoding⟩

end ContractCall

end PaymentChannel
