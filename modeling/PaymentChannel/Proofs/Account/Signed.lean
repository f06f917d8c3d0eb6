import PaymentChannel.Proofs.Account.Confirmed
import PaymentChannel.Proofs.ChainNumber

/-!
# The chain that a transaction is signed for

The node is asked for its chain twice: when a call is checked, and again right before its
transaction is signed.  Only the first answer is compared with the chain of the channel, and of the
second the last 64 bits are signed for.

* `chainsNamed` : the chains that the node has named so far.
* `AccountDialogue.Asks.invoked` : a call that was made is one that the dialogue asks.
* `ContractCall.signed_inv` : what was done before something is signed.
* `ContractCall.execute_signs` : it can be signed for whatever chain the node names second.
* `ContractCall.signed_chain_of_path` : **which chain it is signed for**, and when this is the chain
  of the channel.
-/

namespace PaymentChannel

open AccountDialogue

variable {moves before after : List Move} {tokenNetwork : Address} {key signer : PrivateKey}
  {transaction : TransactionRequest}

/-! ## Calls that were made -/

/-- A call that was made is one that the dialogue asks. -/
theorem AccountDialogue.Asks.invoked {α : Type} {P : Action → Prop} {Q : α → Prop}
    {d e : AccountDialogue α} {nodeCall : NodeCall} (h : Asks P Q d) (path : Path d moves e)
    (made : nodeCall ∈ invoked moves e) :
    ∃ question, P question ∧ question.nodeCall? = some nodeCall := by
  obtain ⟨still, answers⟩ := h.path path
  rcases mem_invoked_iff.mp made with ⟨m, hm, he⟩ | ⟨question, asking, he⟩
  · obtain ⟨question, asked, answer⟩ := answers m hm
    exact ⟨question, asked, answer.nodeCall he⟩
  · cases e with
    | done => cases asking
    | ask =>
      cases asking
      exact ⟨question, still.1, he⟩

theorem mem_invoked_append {α β : Type} {d : AccountDialogue α} {nodeCall : NodeCall} (b : β) :
    nodeCall ∈ invoked (before ++ after) d ↔
      nodeCall ∈ invoked before (.done b : AccountDialogue β) ∨ nodeCall ∈ invoked after d := by
  simp only [invoked, asking?, Option.bind_none, Option.toList_none, List.append_nil,
    List.filterMap_append, List.append_assoc, List.mem_append]

theorem Action.Reads.nodeCall {question : Action} {nodeCall : NodeCall} (h : question.Reads)
    (he : question.nodeCall? = some nodeCall) : nodeCall.Reads := by
  cases question with
  | call =>
    cases he
    exact h
  | _ => cases h

/-! ## The chains that the node has named -/

/-- The chain that the node has named, if that is what it was asked for. -/
def Move.chain? : Move → Option ChainId
  | heard .chainId (.ok chain) => some chain
  | _ => none

/-- The chains that the node has named so far, first to last. -/
def chainsNamed (moves : List Move) : List ChainId := moves.filterMap Move.chain?

theorem chainsNamed_append (before after : List Move) :
    chainsNamed (before ++ after) = chainsNamed before ++ chainsNamed after :=
  List.filterMap_append

theorem chainsNamed_eq_nil (h : ∀ m ∈ moves, m.nodeCall? ≠ some .chainId) :
    chainsNamed moves = [] := by
  refine List.filterMap_eq_nil_iff.mpr fun m hm => ?_
  unfold Move.chain?
  split
  · exact absurd rfl (h _ hm)
  · rfl

/-! ## What was done before something is signed -/

/-- A question that has nothing signed but the transaction, with whatever nonce. -/
def Action.SignsOnly (key : PrivateKey) (transaction : TransactionRequest)
    (question : Action) : Prop :=
  ∀ signed signer, question.nodeCall? = some (.signTransaction signed signer) →
    signer = key ∧ ∃ nonce, signed = { transaction with nonce := some nonce }

theorem sendNext_signsOnly (key : PrivateKey) (transaction : TransactionRequest) :
    Asks (Action.SignsOnly key transaction) (fun _ => True) (sendNext key transaction).run := by
  refine ⟨nofun, fun nonce => ⟨?_, ?_⟩⟩
  · rintro _ _ ⟨⟩
    exact ⟨rfl, nonce, rfl⟩
  rintro (e | signed)
  · exact ⟨nofun, fun _ => trivial⟩
  · refine ⟨nofun, ?_⟩
    rintro (e | hash) <;> exact ⟨nofun, fun _ => trivial⟩

theorem not_chainId_of_submits {m : Move} {question : Action} (h : question.Submits)
    (answers : m.Answers question) : m.nodeCall? ≠ some .chainId := by
  intro he
  rcases h.nodeCall (answers.nodeCall he) with ⟨_, _, ⟨⟩⟩ | ⟨_, ⟨⟩⟩

theorem not_chainId_of_follows {m : Move} {question : Action} (h : question.Follows)
    (answers : m.Answers question) : m.nodeCall? ≠ some .chainId := by
  intro he
  rcases h.nodeCall (answers.nodeCall he) with ⟨_, ⟨⟩⟩ | ⟨_, _, ⟨⟩⟩

/-- On its way to the node, the transaction itself is signed, and the chain is not asked for. -/
theorem signed_of_sending {d : AccountDialogue (Except TransactionError Hash)}
    {signed : TransactionRequest} (path : Path (sendNext key transaction).run moves d)
    (signs : .signTransaction signed signer ∈ invoked moves d) :
    (signer = key ∧ ∃ nonce, signed = { transaction with nonce := some nonce }) ∧
      ∀ m ∈ moves, m.nodeCall? ≠ some .chainId := by
  obtain ⟨question, only, he⟩ := (sendNext_signsOnly key transaction).invoked path signs
  refine ⟨only _ _ he, fun m hm => ?_⟩
  obtain ⟨question, submits, answers⟩ := ((sendNext_asks key transaction).path path).2 m hm
  exact not_chainId_of_submits submits answers

namespace ContractCall

variable {contractCall : ContractCall} {d : AccountDialogue (Except TransactionError Hash)}

/-- **What was done before something is signed.**  The preparation of the call has succeeded, and
the node was not asked for its chain again. -/
theorem signed_inv (h : Path (contractCall.execute key tokenNetwork).run moves d)
    (signs : .signTransaction transaction signer ∈ invoked moves d) :
    ∃ signing gas gasPrice nonce before after, moves = before ++ after ∧
      Returns (contractCall.prepare key.address tokenNetwork) before (signing, gas, gasPrice) ∧
      (∀ m ∈ after, m.nodeCall? ≠ some .chainId) ∧ signer = key ∧
      transaction = { contractCall.transaction key.address tokenNetwork signing gas gasPrice with
        nonce := some nonce } := by
  rw [execute_eq] at h
  have unsigned {e : AccountDialogue (Except TransactionError (ChainId × Amount × Amount))}
      {moves : List Move}
      (path : Path (contractCall.prepare key.address tokenNetwork).run moves e) :
      NodeCall.signTransaction transaction signer ∉ invoked moves e := by
    intro made
    obtain ⟨question, reads, he⟩ := (contractCall.prepare_asks ..).invoked path made
    exact reads.nodeCall he
  rcases h.except_bind_inv with ⟨question, next, next', first, rfl⟩ | ⟨e, first, rfl⟩ |
    ⟨⟨signing, gas, gasPrice⟩, before, after, rfl, first, path⟩
  · exact (unsigned first signs).elim
  · exact (unsigned first signs).elim
  have made := ((mem_invoked_append _).mp signs).resolve_left (unsigned first)
  rcases path.except_bind_inv with ⟨question, next, next', sending, rfl⟩ | ⟨e, sending, rfl⟩ |
    ⟨hash, submitting, following, rfl, sending, followed⟩
  · obtain ⟨⟨rfl, nonce, rfl⟩, unasked⟩ := signed_of_sending sending made
    exact ⟨signing, gas, gasPrice, nonce, before, after, rfl, first, unasked, rfl, rfl⟩
  · obtain ⟨⟨rfl, nonce, rfl⟩, unasked⟩ := signed_of_sending sending made
    exact ⟨signing, gas, gasPrice, nonce, before, after, rfl, first, unasked, rfl, rfl⟩
  · have follows := follow_asks key.address tokenNetwork (contractCall.data key.address) hash
    have notLater : NodeCall.signTransaction transaction signer ∉ invoked following d := by
      intro later
      obtain ⟨question, follow, he⟩ := follows.invoked followed later
      rcases follow.nodeCall he with ⟨_, ⟨⟩⟩ | ⟨_, _, ⟨⟩⟩
    obtain ⟨⟨rfl, nonce, rfl⟩, unasked⟩ :=
      signed_of_sending sending (((mem_invoked_append _).mp made).resolve_right notLater)
    refine ⟨signing, gas, gasPrice, nonce, before, _, rfl, first, fun m hm => ?_, rfl, rfl⟩
    rcases List.mem_append.mp hm with hm | hm
    · exact unasked m hm
    · obtain ⟨question, follow, answers⟩ := (follows.path followed).2 m hm
      exact not_chainId_of_follows follow answers

/-- A justified call whose gas the account can pay for is signed for whatever chain the node names
when it is asked again. -/
theorem execute_signs {chain : ChainId} {block : BlockNumber} {gas gasPrice balance : Amount}
    (justified : contractCall.Justified key.address tokenNetwork chain block)
    (enough : gas.saturatingMul gasPrice ≤ balance) (signing : ChainId) (nonce : Amount) :
    ∃ d, Path (contractCall.execute key tokenNetwork).run
        (contractCall.readings key.address tokenNetwork chain signing block gas gasPrice balance ++
          [.reserved nonce]) d ∧
      d.asking? = some (.call (.signTransaction
        { contractCall.transaction key.address tokenNetwork signing gas gasPrice with
          nonce := some nonce } key)) := by
  have prepared : Returns (contractCall.prepare key.address tokenNetwork) _
      (signing, gas, gasPrice) :=
    prepare_returns_iff.mpr ⟨chain, block, balance, rfl, justified, enough⟩
  rw [execute_eq]
  refine ⟨_, (prepared.bind _).append (.single (.reserved nonce _)), rfl⟩

/-- **The chain that a transaction is signed for.**  The node has named the chain of the channel,
then a chain that nothing is compared with, and the transaction is signed for the last 64 bits of
the number of the latter.  They are the number of the channel's chain exactly if this number has no
more bits and the node has named it again, as far as these bits go. -/
theorem signed_chain_of_path (h : Path (contractCall.execute key tokenNetwork).run moves d)
    (signs : .signTransaction transaction signer ∈ invoked moves d) :
    ∃ signing number, chainsNamed moves = [contractCall.identifier.chain, signing] ∧
      transaction.chain = some number ∧ number.toNat = signing.toAmount.toNat % 2 ^ 64 ∧
      (number.toNat = contractCall.identifier.chain.toAmount.toNat ↔
        contractCall.identifier.chain.toAmount.toNat < 2 ^ 64 ∧
          signing.toAmount.toNat % 2 ^ 64 =
            contractCall.identifier.chain.toAmount.toNat % 2 ^ 64) := by
  obtain ⟨signing, gas, gasPrice, nonce, before, after, rfl, prepared, unasked, -, rfl⟩ :=
    signed_inv h signs
  obtain ⟨chain, block, balance, rfl, justified, -⟩ := prepare_returns_iff.mp prepared
  have named : chainsNamed (contractCall.readings key.address tokenNetwork chain signing block gas
      gasPrice balance ++ after) = [chain, signing] := by
    rw [chainsNamed_append, chainsNamed_eq_nil unasked]
    rfl
  have low : signing.toQuantity.toNat = signing.toAmount.toNat % 2 ^ 64 := UInt64.toNat_ofNat'
  refine ⟨signing, signing.toQuantity, justified.sameChain ▸ named, rfl, low, ?_⟩
  rw [low]
  omega

end ContractCall

/-! ## Settlements on two chains -/

namespace Sample

/-- A settlement of a channel on the given chain, from block 11 on. -/
def settlementOn (chain : ChainId) : ContractCall :=
  .settle { Sample.identifier with chain } Sample.second ⟨0, .zero, 25, 0, .zero, 20⟩ 11

/-- The node names one chain when the settlement is checked and another before it is signed. -/
theorem settlementOn_signs (chain signing : ChainId) : ∃ moves d transaction,
    Path ((settlementOn chain).execute Sample.key ⟨7⟩).run moves d ∧
      .signTransaction transaction Sample.key ∈ invoked moves d ∧
      chainsNamed moves = [chain, signing] ∧ transaction.chain = some signing.toQuantity := by
  have justified : (settlementOn chain).Justified Sample.key.address ⟨7⟩ chain 11 :=
    ⟨rfl, rfl, UInt64.le_refl 11⟩
  have enough : Amount.saturatingMul 0 0 ≤ 0 := by decide
  obtain ⟨d, path, asking⟩ := ContractCall.execute_signs justified enough signing 0
  exact ⟨_, d, _, path, mem_invoked_iff.mpr (Or.inr ⟨_, asking, rfl⟩), rfl, rfl⟩

/-- A node that does not change its mind has a settlement on the main chain signed for it. -/
theorem signed_chain_of_settlement : ∃ moves d transaction number,
    Path ((settlementOn .mainnet).execute Sample.key ⟨7⟩).run moves d ∧
      .signTransaction transaction Sample.key ∈ invoked moves d ∧
      chainsNamed moves = [.mainnet, .mainnet] ∧ transaction.chain = some number ∧
      number.toNat = ChainId.mainnet.toAmount.toNat := by
  obtain ⟨moves, d, transaction, path, signs, named, -⟩ := settlementOn_signs .mainnet .mainnet
  obtain ⟨signing, number, named', chain, -, right⟩ :=
    ContractCall.signed_chain_of_path path signs
  rw [named] at named'
  cases named'
  exact ⟨moves, d, transaction, number, path, signs, named, chain, right.mpr ⟨by decide, rfl⟩⟩

/-- A settlement on the main chain is signed for a test chain, if the node changes its mind, and one
on a private chain is signed for the main chain, even if it does not. -/
theorem signed_for_another_chain :
    (∃ moves d transaction, Path ((settlementOn .mainnet).execute Sample.key ⟨7⟩).run moves d ∧
      .signTransaction transaction Sample.key ∈ invoked moves d ∧
      chainsNamed moves = [.mainnet, .sepolia] ∧ transaction.chain = some 11155111) ∧
    ∃ moves d transaction,
      Path ((settlementOn (.ofAmount 18446744073709551617)).execute Sample.key ⟨7⟩).run moves d ∧
      .signTransaction transaction Sample.key ∈ invoked moves d ∧
      chainsNamed moves = [.ofAmount 18446744073709551617, .ofAmount 18446744073709551617] ∧
      transaction.chain = some 1 :=
  ⟨settlementOn_signs .mainnet .sepolia,
    settlementOn_signs (.ofAmount 18446744073709551617) (.ofAmount 18446744073709551617)⟩

end Sample

end PaymentChannel
