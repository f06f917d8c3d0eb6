import Mathlib.Algebra.Ring.Nat
import PaymentChannel.Proofs.Account.Invoked
import PaymentChannel.Proofs.Account.Reservation
import PaymentChannel.Proofs.Channel.Check
import PaymentChannel.Proofs.Evidence

/-!
# What is found out before a transaction is sent

* `ContractCall.Justified` : what the check of a contract call asks of it.
* `ContractCall.check_eq_ok_iff` : the check accepts exactly that.
* `ContractCall.prepare` : what is asked before a nonce is reserved.  `ContractCall.execute_eq` : a
  contract call is carried out by preparing its transaction, sending it and following it.
* `ContractCall.prepare_asks` : the preparation only reads, and does not fail as a transaction does.
* `ContractCall.prepare_returns_iff` : it succeeds if the call is justified, its gas is estimated
  and the account can pay for it.  `ContractCall.Ready` : what was heard then.
-/

namespace PaymentChannel

open AccountDialogue

variable {moves : List Move} {account tokenNetwork : Address} {chain : ChainId}
  {block : BlockNumber} {hash : Hash}

/-! ## Justified calls -/

theorem checkIdentifier_eq_ok_iff {identifier : CanonicalIdentifier} {u : Unit} :
    checkIdentifier tokenNetwork chain identifier = .ok u ↔
      identifier.tokenNetwork = tokenNetwork ∧ identifier.chain = chain := by
  simp only [checkIdentifier, ite_error_eq_ok_iff, ne_eq, Decidable.not_not, and_true]

theorem checkSigned_eq_ok_iff {proof : BalanceProof} {expected : Address} {u : Unit} :
    checkSigned tokenNetwork chain proof expected = .ok u ↔
      (proof.identifier.tokenNetwork = tokenNetwork ∧ proof.identifier.chain = chain) ∧
        proof.signer = .ok expected := by
  simp only [checkSigned, bind_eq_ok_iff, checkIdentifier_eq_ok_iff, exists_const]
  refine and_congr_right fun _ => ?_
  cases proof.signer with
  | error e => simp only [reduceCtorEq]
  | ok signer =>
    simp only [ite_error_eq_ok_iff, ne_eq, Decidable.not_not, pure_eq_ok_iff, and_true,
      Except.ok.injEq]

namespace ContractCall

/-- The channel that a call is about. -/
def identifier : ContractCall → CanonicalIdentifier
  | close identifier .. => identifier
  | update _ balanceProof => balanceProof.identifier
  | punish identifier .. => identifier
  | settle identifier .. => identifier

/-- A call that is right for the account, the token network, the chain and its block. -/
structure Justified (call : ContractCall) (account tokenNetwork : Address) (chain : ChainId)
    (block : BlockNumber) : Prop where
  sameNetwork : call.identifier.tokenNetwork = tokenNetwork
  sameChain : call.identifier.chain = chain
  evidence : match call with
    | close identifier partner balanceProof => partner ≠ account ∧
        ∀ proof, balanceProof = some proof →
          proof.identifier = identifier ∧ proof.signer = .ok partner
    | update partner balanceProof => balanceProof.signer = .ok partner
    | punish identifier openBlock beneficiary cheater lockHash additionalHash cheaterSignature =>
        beneficiary = account ∧ recoverSigner (packObsoleteUnlock lockHash identifier.channel
          openBlock chain additionalHash) cheaterSignature = .ok cheater
    | settle _ _ _ settleBlock => settleBlock ≤ block

theorem check_eq_ok_iff {call : ContractCall} :
    call.check account tokenNetwork chain block = .ok () ↔
      call.Justified account tokenNetwork chain block := by
  cases call with
  | close identifier partner balanceProof =>
    simp only [check, bind_eq_ok_iff, error_bind, ite_error_eq_ok_iff, checkIdentifier_eq_ok_iff,
      exists_const]
    cases balanceProof with
    | none =>
      constructor
      · rintro ⟨other, ⟨network, onChain⟩, -⟩
        exact ⟨network, onChain, other, fun _ h => by cases h⟩
      · rintro ⟨network, onChain, other, -⟩
        exact ⟨other, ⟨network, onChain⟩, rfl⟩
    | some proof =>
      simp only [ite_error_eq_ok_iff, checkSigned_eq_ok_iff, ne_eq, Decidable.not_not]
      constructor
      · rintro ⟨other, ⟨network, onChain⟩, same, -, signed⟩
        refine ⟨network, onChain, other, ?_⟩
        rintro _ ⟨⟩
        exact ⟨same, signed⟩
      · rintro ⟨network, onChain, other, evidence⟩
        obtain ⟨same, signed⟩ := evidence proof rfl
        refine ⟨other, ⟨network, onChain⟩, same, ?_, signed⟩
        rw [same]
        exact ⟨network, onChain⟩
  | update partner balanceProof =>
    simp only [check, error_bind, ite_error_eq_ok_iff, checkSigned_eq_ok_iff]
    constructor
    · rintro ⟨-, ⟨network, onChain⟩, signed⟩
      exact ⟨network, onChain, signed⟩
    · rintro ⟨network, onChain, signed⟩
      obtain ⟨signature, present, -⟩ := signerOf_eq_ok_iff.mp signed
      exact ⟨by simp [present], ⟨network, onChain⟩, signed⟩
  | punish identifier openBlock beneficiary cheater lockHash additionalHash cheaterSignature =>
    simp only [check, bind_eq_ok_iff, error_bind, ite_error_eq_ok_iff, checkIdentifier_eq_ok_iff,
      exists_const]
    constructor
    · rintro ⟨⟨network, onChain⟩, own, recovered⟩
      refine ⟨network, onChain, Decidable.not_not.mp own, ?_⟩
      split at recovered
      · cases recovered
      · next signer found =>
        rw [ite_error_eq_ok_iff, ne_eq, Decidable.not_not] at recovered
        rw [found, recovered.1]
    · rintro ⟨network, onChain, own, recovered⟩
      refine ⟨⟨network, onChain⟩, Decidable.not_not.mpr own, ?_⟩
      simp only [recovered, ne_eq, not_true_eq_false, if_false, pure_eq_ok_iff]
  | settle identifier partner settlement settleBlock =>
    simp only [check, bind_eq_ok_iff, checkIdentifier_eq_ok_iff, ite_error_eq_ok_iff, exists_const,
      pure_eq_ok_iff, UInt64.not_lt, and_true]
    constructor
    · rintro ⟨⟨network, onChain⟩, reached⟩
      exact ⟨network, onChain, reached⟩
    · rintro ⟨network, onChain, reached⟩
      exact ⟨⟨network, onChain⟩, reached⟩

end ContractCall

/-! ## Preparing a transaction -/

/-- What is asked before a nonce is reserved for a contract call: the chain that the transaction is
signed for, its gas and the price of gas. -/
def ContractCall.prepare (account tokenNetwork : Address) (contractCall : ContractCall) :
    Submission (ChainId × Amount × Amount) := do
  let chain ← Submission.call .chainId
  let block ← Submission.call .blockNumber
  Submission.ofExcept (contractCall.check account tokenNetwork chain block)
  let data := contractCall.data account
  match ← estimateGas account tokenNetwork data with
  | .ok (gas, gasPrice) =>
    checkFunds account gas gasPrice
    let chain ← Submission.call .chainId
    return (chain, gas, gasPrice)
  | .error e =>
    if e.isUnavailable then Submission.ofExcept (.error (.chain e))
    else explainEstimate account tokenNetwork contractCall.function data

/-- Fails with the reason why a mined transaction was not carried out. -/
def explainFailure (account contract : Address) (data : Bytes) (hash : Hash)
    (block : Option BlockNumber) : Submission Hash := do
  let reason ← revertReason account contract data block
  Submission.ofExcept (.error (.failed hash reason))

/-- What follows once the node took a transaction: the wait for its receipt, and the reason if it
was not carried out. -/
def follow (account contract : Address) (data : Bytes) (hash : Hash) : Submission Hash := do
  let receipt ← Submission.ofNode (awaitReceipt hash)
  if receipt.isSuccess then return hash
  else explainFailure account contract data hash receipt.block

/-- The request that the gas of a call is estimated for. -/
def estimateRequest (account contract : Address) (data : Bytes) (gasPrice : Amount) :
    CallRequest where
  sender := account
  contract := contract
  gasPrice := some gasPrice
  data := data

/-- The transaction behind a contract call. -/
def ContractCall.transaction (account tokenNetwork : Address) (contractCall : ContractCall)
    (chain : ChainId) (gas gasPrice : Amount) : TransactionRequest where
  nonce := none
  recipient := some tokenNetwork
  gas := gas
  gasPrice := some gasPrice
  value := 0
  data := contractCall.data account
  chain := some chain.toQuantity

theorem ofExcept_error_bind {α β : Type} {e : TransactionError} {k : α → Submission β} :
    (Submission.ofExcept (.error e) : Submission α) >>= k = Submission.ofExcept (.error e) := rfl

/-- What explains a failed estimate never goes on. -/
theorem explainEstimate_bind {α β : Type} {contract : Address} {function : ContractFunction}
    {data : Bytes} {k : α → Submission β} :
    explainEstimate account contract function data >>= k =
      explainEstimate account contract function data := by
  simp only [explainEstimate, bind_assoc, ofExcept_error_bind]

theorem ContractCall.execute_eq (key : PrivateKey) (tokenNetwork : Address)
    (contractCall : ContractCall) : contractCall.execute key tokenNetwork =
      contractCall.prepare key.address tokenNetwork >>= fun (chain, gas, gasPrice) =>
        sendNext key (contractCall.transaction key.address tokenNetwork chain gas gasPrice) >>=
          follow key.address tokenNetwork (contractCall.data key.address) := by
  simp only [execute, prepare, transact, bind_assoc]
  congr
  funext chain
  congr
  funext block
  congr
  funext u
  congr
  funext estimate
  rcases estimate with e | ⟨gas, gasPrice⟩
  · dsimp only
    split
    · rw [ofExcept_error_bind]
    · rw [explainEstimate_bind]
  · simp only [bind_assoc, pure_bind]
    rfl

/-! ## What the preparation asks -/

/-- A question that only reads. -/
def Action.Reads : Action → Prop
  | call nodeCall => nodeCall.Reads
  | _ => False

/-- Whether a transaction was mined and has failed. -/
def TransactionError.isFailed : TransactionError → Bool
  | failed .. => true
  | _ => false

/-- The result is not that of a transaction that was mined and has failed. -/
def Untried {α : Type} : Except TransactionError α → Prop
  | .ok _ => True
  | .error e => e.isFailed = false

theorem Untried.bind {α β : Type} {x : Except TransactionError α}
    {f : α → Except TransactionError β} (h : Untried x) (g : ∀ a, Untried (f a)) :
    Untried (x >>= f) := by
  cases x with
  | error e => exact h
  | ok a => exact g a

theorem Untried.guard {α : Type} {p : Prop} [Decidable p] {e : TransactionError}
    {x : Except TransactionError α} (he : e.isFailed = false) (h : Untried x) :
    Untried (if p then .error e else x) := by
  split
  · exact he
  · exact h

theorem checkIdentifier_untried (tokenNetwork : Address) (chain : ChainId)
    (identifier : CanonicalIdentifier) :
    Untried (checkIdentifier tokenNetwork chain identifier) :=
  .guard rfl (.guard rfl trivial)

theorem checkSigned_untried (tokenNetwork : Address) (chain : ChainId) (proof : BalanceProof)
    (expected : Address) : Untried (checkSigned tokenNetwork chain proof expected) := by
  refine (checkIdentifier_untried ..).bind fun _ => ?_
  cases proof.signer with
  | error e => rfl
  | ok signer => exact .guard rfl trivial

theorem ContractCall.check_untried (call : ContractCall) (account tokenNetwork : Address)
    (chain : ChainId) (block : BlockNumber) :
    Untried (call.check account tokenNetwork chain block) := by
  cases call with
  | close identifier partner balanceProof =>
    simp only [check, error_bind]
    refine .guard rfl ((checkIdentifier_untried ..).bind fun _ => ?_)
    cases balanceProof with
    | none => trivial
    | some proof => exact .guard rfl (checkSigned_untried ..)
  | update =>
    simp only [check, error_bind]
    exact .guard rfl (checkSigned_untried ..)
  | punish =>
    simp only [check, error_bind]
    refine (checkIdentifier_untried ..).bind fun _ => .guard rfl ?_
    split
    · rfl
    · exact .guard rfl trivial
  | settle => exact (checkIdentifier_untried ..).bind fun _ => .guard rfl trivial

/-! The dialogues of the preparation, one after the other. -/

theorem call_asks {nodeCall : NodeCall} {Q : Except TransactionError nodeCall.Answer → Prop}
    (hc : nodeCall.Reads) (error : ∀ e, Q (.error (.chain e))) (ok : ∀ a, Q (.ok a)) :
    Asks Action.Reads Q (Submission.call nodeCall).run := by
  refine ⟨hc, ?_⟩
  rintro (e | a)
  · exact error e
  · exact ok a

theorem checkFunds_asks (account : Address) (gas gasPrice : Amount) :
    Asks Action.Reads Untried (checkFunds account gas gasPrice).run := by
  refine asks_except_bind_iff.mpr (call_asks trivial (fun _ => rfl) fun current => ?_)
  dsimp only
  split
  · rfl
  · trivial

theorem revertReason_asks {Q : String → Prop} (h : ∀ reason, Q reason)
    (account contract : Address) (data : Bytes) (block : Option BlockNumber) :
    Asks Action.Reads Q (revertReason account contract data block) := by
  refine ⟨trivial, ?_⟩
  rintro ((reason | reason | reason) | output) <;> exact h _

theorem explainFailure_asks (account contract : Address) (data : Bytes) (hash : Hash)
    (block : Option BlockNumber) :
    Asks Action.Reads (fun result => ∃ reason, result = .error (.failed hash reason))
      (explainFailure account contract data hash block).run :=
  asks_except_bind_iff.mpr (asks_bind_iff.mpr (revertReason_asks (fun reason => ⟨reason, rfl⟩) ..))

theorem estimateGas_asks (account contract : Address) (data : Bytes) :
    Asks Action.Reads (fun _ => True) (estimateGas account contract data) := by
  refine ⟨trivial, ?_⟩
  rintro (e | gasPrice)
  · trivial
  · exact ⟨trivial, fun _ => trivial⟩

theorem explainEstimate_asks {α : Type} (account contract : Address) (function : ContractFunction)
    (data : Bytes) :
    Asks Action.Reads Untried (explainEstimate (α := α) account contract function data).run := by
  refine asks_except_bind_iff.mpr (call_asks trivial (fun _ => rfl) fun gasPrice => ?_)
  refine asks_except_bind_iff.mpr ((checkFunds_asks ..).mono ?_)
  rintro (e | ⟨⟩) h
  · exact h
  · refine asks_except_bind_iff.mpr (asks_bind_iff.mpr ⟨trivial, fun block => ?_⟩)
    refine asks_except_bind_iff.mpr (asks_bind_iff.mpr (revertReason_asks ?_ ..))
    exact fun reason => rfl

/-- **The preparation only reads**, and does not fail as a transaction does. -/
theorem ContractCall.prepare_asks (account tokenNetwork : Address) (contractCall : ContractCall) :
    Asks Action.Reads Untried (contractCall.prepare account tokenNetwork).run := by
  refine asks_except_bind_iff.mpr (call_asks trivial (fun _ => rfl) fun chain => ?_)
  refine asks_except_bind_iff.mpr (call_asks trivial (fun _ => rfl) fun block => ?_)
  have checked := contractCall.check_untried account tokenNetwork chain block
  refine asks_except_bind_iff.mpr ?_
  rcases he : contractCall.check account tokenNetwork chain block with e | u
  · rw [he] at checked
    exact checked
  refine asks_except_bind_iff.mpr (asks_bind_iff.mpr ((estimateGas_asks ..).mono ?_))
  rintro (e | ⟨gas, gasPrice⟩) -
  · change Asks Action.Reads Untried (ExceptT.run (if e.isUnavailable then _ else _))
    split
    · rfl
    · exact explainEstimate_asks ..
  · refine asks_except_bind_iff.mpr ((checkFunds_asks ..).mono ?_)
    rintro (e | ⟨⟩) h
    · exact h
    · exact asks_except_bind_iff.mpr (call_asks trivial (fun _ => rfl) fun _ => trivial)

/-! ## What a preparation that succeeds has heard -/

theorem checkFunds_returns_iff {gas gasPrice : Amount} :
    Returns (checkFunds account gas gasPrice) moves () ↔ ∃ balance : Amount,
      moves = [.heard (.balanceAt account none) (.ok balance)] ∧
        gas.saturatingMul gasPrice ≤ balance := by
  constructor
  · intro h
    obtain ⟨balance, before, after, rfl, asked, h'⟩ := returns_bind_iff.mp h
    change Returns (if balance < gas.saturatingMul gasPrice then _ else _) after () at h'
    split at h'
    · cases (returns_ofExcept_iff.mp h').2
    · next enough =>
      obtain ⟨rfl, -⟩ := returns_pure_iff.mp h'
      exact ⟨balance, by rw [returns_call_iff.mp asked, List.append_nil], BitVec.not_lt.mp enough⟩
  · rintro ⟨balance, rfl, enough⟩
    refine returns_bind_iff.mpr ⟨balance, _, [], rfl, returns_call_iff.mpr rfl, ?_⟩
    dsimp only
    rw [if_neg (BitVec.not_lt.mpr enough)]
    exact .nil

theorem estimateGas_ok_iff {contract : Address} {data : Bytes} {gas gasPrice : Amount} :
    Path (estimateGas account contract data) moves (.done (.ok (gas, gasPrice))) ↔
      moves = [.heard .gasPrice (.ok gasPrice),
        .heard (.estimateGas (estimateRequest account contract data gasPrice) none) (.ok gas)] := by
  constructor
  · intro h
    obtain ⟨answer, before, after, rfl, asked, h'⟩ := Path.bind_done_iff.mp h
    obtain rfl := path_call_iff.mp asked
    rcases answer with e | price
    · cases (path_done_iff.mp h').2
    · obtain ⟨answer, before, after', rfl, asked', h''⟩ := Path.bind_done_iff.mp h'
      obtain rfl := path_call_iff.mp asked'
      obtain ⟨rfl, he⟩ := path_done_iff.mp h''
      rcases answer with e | gas'
      · cases he
      · cases he
        rfl
  · rintro rfl
    exact .cons (.heard .gasPrice (.ok gasPrice) _)
      (.single (.heard (.estimateGas _ none) (.ok gas) _))

theorem not_returns_explainEstimate {α : Type} {account contract : Address}
    {function : ContractFunction} {data : Bytes} {a : α} :
    ¬Returns (explainEstimate account contract function data) moves a := by
  intro h
  obtain ⟨gasPrice, _, _, rfl, -, h⟩ := returns_bind_iff.mp h
  obtain ⟨⟨⟩, _, _, rfl, -, h⟩ := returns_bind_iff.mp h
  obtain ⟨block, _, _, rfl, -, h⟩ := returns_bind_iff.mp h
  obtain ⟨reason, _, _, rfl, -, h⟩ := returns_bind_iff.mp h
  cases (returns_ofExcept_iff.mp h).2

/-- What is heard before a nonce is reserved, if nothing is wrong. -/
def ContractCall.readings (contractCall : ContractCall) (account tokenNetwork : Address)
    (chain signing : ChainId) (block : BlockNumber) (gas gasPrice balance : Amount) : List Move :=
  [.heard .chainId (.ok chain), .heard .blockNumber (.ok block), .heard .gasPrice (.ok gasPrice),
    .heard (.estimateGas (estimateRequest account tokenNetwork (contractCall.data account)
      gasPrice) none) (.ok gas),
    .heard (.balanceAt account none) (.ok balance), .heard .chainId (.ok signing)]

/-- **When a preparation succeeds.**  The call is justified on the chain and at the block that were
reported, its gas was estimated, and the account can pay for the gas. -/
theorem ContractCall.prepare_returns_iff {contractCall : ContractCall} {signing : ChainId}
    {gas gasPrice : Amount} :
    Returns (contractCall.prepare account tokenNetwork) moves (signing, gas, gasPrice) ↔
      ∃ (chain : ChainId) (block : BlockNumber) (balance : Amount),
        moves =
          contractCall.readings account tokenNetwork chain signing block gas gasPrice balance ∧
        contractCall.Justified account tokenNetwork chain block ∧
        gas.saturatingMul gasPrice ≤ balance := by
  constructor
  · intro h
    obtain ⟨chain, m₁, rest₁, rfl, askedChain, h₁⟩ := returns_bind_iff.mp h
    obtain ⟨block, m₂, rest₂, rfl, askedBlock, h₂⟩ := returns_bind_iff.mp h₁
    obtain ⟨u, m₃, rest₃, rfl, checkedBy, h₃⟩ := returns_bind_iff.mp h₂
    obtain ⟨rfl, checked⟩ := returns_ofExcept_iff.mp checkedBy
    obtain ⟨estimate, m₄, rest₄, rfl, estimated, h₄⟩ := returns_bind_iff.mp h₃
    rcases estimate with e | ⟨gas', gasPrice'⟩
    · change Returns (if e.isUnavailable then _ else _) rest₄ _ at h₄
      split at h₄
      · cases (returns_ofExcept_iff.mp h₄).2
      · exact absurd h₄ not_returns_explainEstimate
    · obtain ⟨u', m₅, rest₅, rfl, funded, h₅⟩ := returns_bind_iff.mp h₄
      obtain ⟨signing', m₆, rest₆, rfl, askedSigning, h₆⟩ := returns_bind_iff.mp h₅
      obtain ⟨rfl, he⟩ := returns_pure_iff.mp h₆
      cases he
      obtain ⟨balance, rfl, enough⟩ := checkFunds_returns_iff.mp funded
      refine ⟨chain, block, balance, ?_, check_eq_ok_iff.mp checked, enough⟩
      rw [returns_call_iff.mp askedChain, returns_call_iff.mp askedBlock,
        returns_call_iff.mp askedSigning, estimateGas_ok_iff.mp (returns_lift_iff.mp estimated)]
      rfl
  · rintro ⟨chain, block, balance, rfl, justified, enough⟩
    have estimated : Path (estimateGas account tokenNetwork (contractCall.data account)) _
        (.done (.ok (gas, gasPrice))) := estimateGas_ok_iff.mpr rfl
    have funded : Returns (checkFunds account gas gasPrice) _ () :=
      checkFunds_returns_iff.mpr ⟨balance, rfl, enough⟩
    exact returns_bind_iff.mpr ⟨chain, _, _, rfl, returns_call_iff.mpr rfl,
      returns_bind_iff.mpr ⟨block, _, _, rfl, returns_call_iff.mpr rfl,
        returns_bind_iff.mpr ⟨(), [], _, rfl,
          returns_ofExcept_iff.mpr ⟨rfl, check_eq_ok_iff.mpr justified⟩,
          returns_bind_iff.mpr ⟨.ok (gas, gasPrice), _, _, rfl, returns_lift_iff.mpr estimated,
            returns_bind_iff.mpr ⟨(), _, _, rfl, funded,
              returns_bind_iff.mpr ⟨signing, _, [], rfl, returns_call_iff.mpr rfl, .nil⟩⟩⟩⟩⟩⟩

/-- What was heard before a nonce is reserved: nothing was wrong. -/
def ContractCall.Ready (contractCall : ContractCall) (account tokenNetwork : Address)
    (moves : List Move) : Prop :=
  ∃ (chain signing : ChainId) (block : BlockNumber) (gas gasPrice balance : Amount),
    moves = contractCall.readings account tokenNetwork chain signing block gas gasPrice balance ∧
    contractCall.Justified account tokenNetwork chain block ∧
    min (gas.toNat * gasPrice.toNat) (2 ^ 256 - 1) ≤ balance.toNat

/-- A preparation that succeeds leaves the call ready. -/
theorem ContractCall.ready_of_prepare {contractCall : ContractCall}
    {found : ChainId × Amount × Amount}
    (h : Returns (contractCall.prepare account tokenNetwork) moves found) :
    contractCall.Ready account tokenNetwork moves := by
  obtain ⟨signing, gas, gasPrice⟩ := found
  obtain ⟨chain, block, balance, rfl, justified, enough⟩ := prepare_returns_iff.mp h
  rw [BitVec.le_def, Amount.saturatingMul, Amount.toNat_saturate] at enough
  exact ⟨chain, signing, block, gas, gasPrice, balance, rfl, justified, enough⟩

/-- Moves that only read. -/
def OnlyReads (moves : List Move) : Prop :=
  ∀ m ∈ moves, ∃ nodeCall answer, m = .heard nodeCall answer ∧ nodeCall.Reads

theorem OnlyReads.minedReceipt? (h : OnlyReads moves) : minedReceipt? hash moves = none := by
  refine minedReceipt?_eq_none fun m hm => ?_
  obtain ⟨nodeCall, answer, rfl, reads⟩ := h m hm
  rintro ⟨⟩
  exact reads

/-- A preparation hears no errors. -/
theorem ContractCall.Ready.heard {contractCall : ContractCall}
    (h : contractCall.Ready account tokenNetwork moves) : ∀ m ∈ moves, ∃ nodeCall answer,
      m = .heard nodeCall (.ok answer) ∧ nodeCall.Reads := by
  obtain ⟨chain, signing, block, gas, gasPrice, balance, rfl, -, -⟩ := h
  simp only [readings, List.mem_cons, List.not_mem_nil, or_false]
  rintro m (rfl | rfl | rfl | rfl | rfl | rfl) <;> exact ⟨_, _, rfl, trivial⟩

theorem ContractCall.Ready.onlyReads {contractCall : ContractCall}
    (h : contractCall.Ready account tokenNetwork moves) : OnlyReads moves := by
  intro m hm
  obtain ⟨nodeCall, answer, rfl, reads⟩ := h.heard m hm
  exact ⟨nodeCall, .ok answer, rfl, reads⟩

end PaymentChannel
