import PaymentChannel.Proofs.Account.Prepared

/-!
# What is done until a transaction is confirmed

A transaction is handed over with a nonce that was reserved for it.  If the node takes it, its
receipt is waited for.

* `sendNext_returns_iff` : what was done when the node has taken a transaction.
* `awaitReceipt_inv`, `follow_cases` : the wait ends with the first receipt that has a block, and
  this receipt decides the result.
* `Confirmed` : a receipt was heard of a transaction that was mined and carried out.
* `ContractCall.execute_inv` : what was done when the hash of a contract call is returned.
* `ContractCall.execute_receipt`, `ContractCall.execute_confirmed` : such a call is confirmed.
* `ContractCall.execute_carriedOut` : it can be returned.
-/

namespace PaymentChannel

open AccountDialogue

variable {moves : List Move} {account contract tokenNetwork : Address} {data : Bytes} {hash : Hash}
  {key : PrivateKey} {transaction : TransactionRequest}

/-- The node took a transaction under this hash. -/
def Accepted (moves : List Move) (hash : Hash) : Prop :=
  ∃ raw, .heard (.sendRawTransaction raw) (.ok hash) ∈ moves

/-- The moves that hand a transaction over to a node that takes it. -/
def handover (nonce : Amount) (transaction : TransactionRequest) (key : PrivateKey)
    (signed : SignedTransaction) (hash : Hash) : List Move :=
  [.reserved nonce, .heard (.signTransaction transaction key) (.ok signed),
    .heard (.sendRawTransaction signed.raw) (.ok hash), .committed]

theorem OnlyReads.not_accepted (h : OnlyReads moves) : ¬Accepted moves hash := by
  rintro ⟨raw, hm⟩
  obtain ⟨nodeCall, answer, he, reads⟩ := h _ hm
  cases he
  exact reads

theorem accepted_append {before after : List Move} :
    Accepted (before ++ after) hash ↔ Accepted before hash ∨ Accepted after hash := by
  simp only [Accepted, List.mem_append, exists_or]

theorem accepted_handover {nonce : Amount} {signed : SignedTransaction} {hash' : Hash} :
    Accepted (handover nonce transaction key signed hash) hash' ↔ hash' = hash := by
  constructor
  · rintro ⟨raw, hm⟩
    simp only [handover, List.mem_cons, List.not_mem_nil, or_false] at hm
    rcases hm with h | h | h | h <;> cases h
    rfl
  · rintro rfl
    exact ⟨signed.raw, by simp [handover]⟩

/-! ## On the way to the node -/

/-- A question on the way to the node: about the nonce, or to sign or hand over the transaction. -/
def Action.Submits : Action → Prop
  | reserveNonce | commitNonce | releaseNonce => True
  | call (.signTransaction ..) | call (.sendRawTransaction _) => True
  | _ => False

theorem Action.Submits.nodeCall {question : Action} {nodeCall : NodeCall} (h : question.Submits)
    (he : question.nodeCall? = some nodeCall) :
    (∃ transaction key, nodeCall = .signTransaction transaction key) ∨
      ∃ raw, nodeCall = .sendRawTransaction raw := by
  cases question with
  | call asked =>
    cases he
    cases nodeCall with
    | signTransaction transaction key => exact Or.inl ⟨transaction, key, rfl⟩
    | sendRawTransaction raw => exact Or.inr ⟨raw, rfl⟩
    | _ => cases h
  | awaitReceipt => cases h
  | _ => cases he

theorem sendNext_asks (key : PrivateKey) (transaction : TransactionRequest) :
    Asks Action.Submits Untried (sendNext key transaction).run := by
  refine ⟨trivial, fun nonce => ⟨trivial, ?_⟩⟩
  rintro (e | signed)
  · exact ⟨trivial, fun _ => rfl⟩
  · refine ⟨trivial, ?_⟩
    rintro (e | hash)
    · exact ⟨trivial, fun _ => rfl⟩
    · exact ⟨trivial, fun _ => trivial⟩

theorem sendNext_sendsAtMost (key : PrivateKey) (transaction : TransactionRequest) :
    SendsAtMost 1 (sendNext key transaction).run := by
  refine ⟨Nat.zero_le _, fun nonce => ⟨Nat.zero_le _, ?_⟩⟩
  rintro (e | signed)
  · exact ⟨Nat.zero_le _, fun _ => trivial⟩
  · refine ⟨Nat.le_refl _, ?_⟩
    rintro (e | hash)
    · exact ⟨Nat.zero_le _, fun _ => trivial⟩
    · exact ⟨Nat.zero_le _, fun _ => trivial⟩

theorem reserveNonce_done {nonce : Amount} (h : Path reserveNonce moves (.done nonce)) :
    moves = [.reserved nonce] := by
  obtain ⟨_, _, _, rfl, goes, rest⟩ := h.first_of_done nofun
  cases goes
  obtain ⟨rfl, he⟩ := path_done_iff.mp rest
  rw [he]

theorem commitNonce_done {u : Unit} (h : Path commitNonce moves (.done u)) :
    moves = [.committed] := by
  obtain ⟨_, _, _, rfl, goes, rest⟩ := h.first_of_done nofun
  cases goes
  rw [(path_done_iff.mp rest).1]

theorem signAndSend_ok_iff : Path (signAndSend key transaction) moves (.done (.ok hash)) ↔
    ∃ signed, moves = [.heard (.signTransaction transaction key) (.ok signed),
      .heard (.sendRawTransaction signed.raw) (.ok hash)] := by
  constructor
  · intro h
    obtain ⟨answer, before, after, rfl, signing, h'⟩ := Path.bind_done_iff.mp h
    obtain rfl := path_call_iff.mp signing
    rcases answer with e | signed
    · cases (path_done_iff.mp h').2
    · exact ⟨signed, congrArg _ (path_call_iff.mp h')⟩
  · rintro ⟨signed, rfl⟩
    exact Path.bind_done_iff.mpr ⟨.ok signed, [_], _, rfl, path_call_iff.mpr rfl,
      path_call_iff.mpr rfl⟩

/-- **When a transaction was handed over.**  It was signed with the nonce that was reserved for it,
the node took it, and the nonce was used up. -/
theorem sendNext_returns_iff : Returns (sendNext key transaction) moves hash ↔ ∃ nonce signed,
    moves = handover nonce { transaction with nonce := some nonce } key signed hash := by
  constructor
  · intro h
    obtain ⟨nonce, m₁, rest₁, rfl, reserving, h₁⟩ := returns_bind_iff.mp h
    obtain ⟨answer, m₂, rest₂, rfl, submitting, h₂⟩ := returns_bind_iff.mp h₁
    rcases answer with e | sent
    · obtain ⟨u, m₃, rest₃, rfl, -, h₃⟩ := returns_bind_iff.mp h₂
      cases (returns_ofExcept_iff.mp h₃).2
    · obtain ⟨u, m₃, rest₃, rfl, committing, h₃⟩ := returns_bind_iff.mp h₂
      obtain ⟨rfl, rfl⟩ := returns_pure_iff.mp h₃
      obtain ⟨signed, rfl⟩ := signAndSend_ok_iff.mp (returns_lift_iff.mp submitting)
      rw [reserveNonce_done (returns_lift_iff.mp reserving),
        commitNonce_done (returns_lift_iff.mp committing)]
      exact ⟨nonce, signed, rfl⟩
  · rintro ⟨nonce, signed, rfl⟩
    exact .cons (.reserved nonce _) (.cons (.heard (.signTransaction _ key) (.ok signed) _)
      (.cons (.heard (.sendRawTransaction _) (.ok hash) _) (.single (.committed _))))

/-! ## After the node took it -/

/-- A question after the node took a transaction: for its receipt, or for the reason it failed. -/
def Action.Follows : Action → Prop
  | awaitReceipt _ => True
  | call (.callContract ..) => True
  | _ => False

theorem Action.Follows.nodeCall {question : Action} {nodeCall : NodeCall} (h : question.Follows)
    (he : question.nodeCall? = some nodeCall) :
    (∃ hash, nodeCall = .transactionReceipt hash) ∨
      ∃ request block, nodeCall = .callContract request block := by
  cases question with
  | call asked =>
    cases he
    cases nodeCall with
    | callContract request block => exact Or.inr ⟨request, block, rfl⟩
    | _ => cases h
  | awaitReceipt hash =>
    cases he
    exact Or.inl ⟨hash, rfl⟩
  | _ => cases he

theorem follow_asks (account contract : Address) (data : Bytes) (hash : Hash) :
    Asks Action.Follows (fun _ => True) (follow account contract data hash).run := by
  refine asks_except_bind_iff.mpr ⟨trivial, ?_⟩
  rintro (e | receipt)
  · trivial
  · change Asks _ _ (ExceptT.run (if receipt.isSuccess then _ else _))
    split
    · trivial
    · refine ⟨trivial, ?_⟩
      rintro ((reason | reason | reason) | output) <;> trivial

/-- **The wait for a receipt** goes on until the node fails or has a receipt with a block. -/
theorem awaitReceipt_inv {α : Type} {next : NodeAnswer Receipt → AccountDialogue α}
    {d : AccountDialogue α} (h : Path (.ask (.awaitReceipt hash) next) moves d) :
    (minedReceipt? hash moves = none ∧ d = .ask (.awaitReceipt hash) next) ∨
      ∃ waiting rest result, moves = waiting ++ rest ∧
        minedReceipt? hash waiting = result.toOption ∧ Path (next result) rest d := by
  induction h with
  | nil => exact Or.inl ⟨rfl, rfl⟩
  | @snoc before m _ _ _ goes ih =>
    rcases ih with ⟨found, rfl⟩ | ⟨waiting, rest, result, rfl, found, path⟩
    · have last : minedReceipt? hash (before ++ [m]) = m.minedReceipt? hash := by
        rw [minedReceipt?_append, minedReceipt?_singleton, found, Option.none_or]
      cases goes with
      | polled _ _ waits =>
        rw [Move.minedReceipt?_heard, waits] at last
        exact Or.inl ⟨last, rfl⟩
      | @awaited _ result _ _ ends =>
        rw [Move.minedReceipt?_heard, ends] at last
        refine Or.inr ⟨_, [], result, (List.append_nil _).symm, last.trans ?_, .nil⟩
        cases result <;> rfl
    · exact Or.inr ⟨waiting, _, result, List.append_assoc .., found, .snoc path goes⟩

theorem Receipt.isSuccess_iff {receipt : Receipt} :
    receipt.isSuccess = true ↔ receipt.status = some 1 := by
  rw [isSuccess, decide_eq_true_iff]

/-- **The first receipt with a block decides the result.** -/
theorem follow_cases {d : AccountDialogue (Except TransactionError Hash)}
    (h : Path (follow account contract data hash).run moves d) :
    (minedReceipt? hash moves = none ∧
        (d.asking? ≠ none ∨ ∃ e, d = .done (.error (.chain e)))) ∨
      ∃ receipt, minedReceipt? hash moves = some receipt ∧
        (receipt.status = some 1 ∧ d = .done (.ok hash) ∨
          receipt.status ≠ some 1 ∧
            (d.asking? ≠ none ∨ ∃ reason, d = .done (.error (.failed hash reason)))) := by
  rcases awaitReceipt_inv h with ⟨found, rfl⟩ | ⟨waiting, rest, result, rfl, found, path⟩
  · exact Or.inl ⟨found, Or.inl nofun⟩
  rcases result with e | receipt
  · obtain ⟨rfl, rfl⟩ := path.done_inv
    exact Or.inl ⟨by rw [List.append_nil, found]; rfl, Or.inr ⟨e, rfl⟩⟩
  · refine Or.inr ⟨receipt, by rw [minedReceipt?_append, found]; rfl, ?_⟩
    change Path (ExceptT.run (if receipt.isSuccess then _ else _)) rest d at path
    split at path
    · next success => exact Or.inl ⟨Receipt.isSuccess_iff.mp success, path.done_inv.2⟩
    · next failure =>
      have ends := ((explainFailure_asks ..).path path).1
      refine Or.inr ⟨mt Receipt.isSuccess_iff.mpr failure, ?_⟩
      cases d with
      | ask => exact Or.inl nofun
      | done result =>
        obtain ⟨reason, rfl⟩ := ends
        exact Or.inr ⟨reason, rfl⟩

theorem follow_succeeds_iff {d : AccountDialogue (Except TransactionError Hash)} {hash' : Hash}
    (h : Path (follow account contract data hash).run moves d) :
    d = .done (.ok hash') ↔ hash' = hash ∧
      ∃ receipt, minedReceipt? hash moves = some receipt ∧ receipt.status = some 1 := by
  rcases follow_cases h with
    ⟨unmined, undecided⟩ | ⟨receipt, found, ⟨status, rfl⟩ | ⟨status, failed⟩⟩
  · constructor
    · rintro rfl
      rcases undecided with asking | ⟨e, ⟨⟩⟩
      exact absurd rfl asking
    · rintro ⟨-, receipt, found, -⟩
      cases unmined.symm.trans found
  · constructor
    · rintro ⟨⟩
      exact ⟨rfl, receipt, found, status⟩
    · rintro ⟨rfl, -⟩
      rfl
  · constructor
    · rintro rfl
      rcases failed with asking | ⟨reason, ⟨⟩⟩
      exact absurd rfl asking
    · rintro ⟨-, receipt', found', success⟩
      cases found.symm.trans found'
      exact absurd success status

theorem follow_fails_iff {d : AccountDialogue (Except TransactionError Hash)} {hash' : Hash}
    (h : Path (follow account contract data hash).run moves d) :
    (∃ reason, d = .done (.error (.failed hash' reason))) ↔ hash' = hash ∧ d.asking? = none ∧
      ∃ receipt, minedReceipt? hash moves = some receipt ∧ receipt.status ≠ some 1 := by
  rcases follow_cases h with
    ⟨unmined, undecided⟩ | ⟨receipt, found, ⟨status, rfl⟩ | ⟨status, failed⟩⟩
  · constructor
    · rintro ⟨reason, rfl⟩
      rcases undecided with asking | ⟨e, ⟨⟩⟩
      exact absurd rfl asking
    · rintro ⟨-, -, receipt, found, -⟩
      cases unmined.symm.trans found
  · constructor
    · rintro ⟨reason, ⟨⟩⟩
    · rintro ⟨-, -, receipt', found', failure⟩
      cases found.symm.trans found'
      exact absurd status failure
  · constructor
    · rintro ⟨reason, rfl⟩
      rcases failed with asking | ⟨reason', ⟨⟩⟩
      · exact absurd rfl asking
      · exact ⟨rfl, rfl, receipt, found, status⟩
    · rintro ⟨rfl, done, -⟩
      exact failed.resolve_left fun asking => asking done

/-! ## Confirmed calls -/

/-- A receipt was heard of a transaction that was mined and carried out. -/
def Confirmed (moves : List Move) (hash : Hash) : Prop :=
  ∃ receipt : Receipt, receipt.isMined = true ∧ receipt.isSuccess = true ∧
    .heard (.transactionReceipt hash) (.ok (some receipt)) ∈ moves

theorem Confirmed.mono {moves' : List Move} (h : Confirmed moves hash) (hs : moves ⊆ moves') :
    Confirmed moves' hash := by
  obtain ⟨receipt, mined, success, heard⟩ := h
  exact ⟨receipt, mined, success, hs heard⟩

/-- No receipt is heard before a transaction is handed over. -/
theorem ContractCall.Ready.minedReceipt? {contractCall : ContractCall} {before rest : List Move}
    {nonce : Amount} {signed : SignedTransaction}
    (ready : contractCall.Ready account tokenNetwork before) {hash' : Hash} :
    minedReceipt? hash' (before ++ (handover nonce transaction key signed hash ++ rest)) =
      minedReceipt? hash' rest := by
  rw [minedReceipt?_append, ready.onlyReads.minedReceipt?, Option.none_or]
  rfl

/-- A call that was carried out was prepared, handed over once, and followed until it had
succeeded. -/
theorem ContractCall.execute_inv {contractCall : ContractCall}
    (h : Returns (contractCall.execute key tokenNetwork) moves hash) :
    ∃ before chain gas gasPrice nonce signed after,
      moves = before ++ (handover nonce { contractCall.transaction key.address tokenNetwork chain
        gas gasPrice with nonce := some nonce } key signed hash ++ after) ∧
      contractCall.Ready key.address tokenNetwork before ∧
      Returns (follow key.address tokenNetwork (contractCall.data key.address) hash) after hash := by
  rw [execute_eq] at h
  obtain ⟨⟨chain, gas, gasPrice⟩, before, _, rfl, prepared, h₁⟩ := returns_bind_iff.mp h
  obtain ⟨sent, _, after, rfl, handed, followed⟩ := returns_bind_iff.mp h₁
  obtain ⟨nonce, signed, rfl⟩ := sendNext_returns_iff.mp handed
  obtain ⟨rfl, -⟩ := (follow_succeeds_iff followed).mp rfl
  exact ⟨before, chain, gas, gasPrice, nonce, signed, after, rfl, ready_of_prepare prepared,
    followed⟩

/-- **A call that was carried out** was taken by the node, and the first receipt with a block says
success. -/
theorem ContractCall.execute_receipt {contractCall : ContractCall}
    (h : Returns (contractCall.execute key tokenNetwork) moves hash) : Accepted moves hash ∧
      ∃ receipt, minedReceipt? hash moves = some receipt ∧ receipt.status = some 1 := by
  obtain ⟨before, chain, gas, gasPrice, nonce, signed, after, rfl, ready, followed⟩ := execute_inv h
  obtain ⟨-, receipt, found, status⟩ := (follow_succeeds_iff followed).mp rfl
  refine ⟨?_, receipt, ready.minedReceipt?.trans found, status⟩
  exact accepted_append.mpr (Or.inr (accepted_append.mpr (Or.inl (accepted_handover.mpr rfl))))

theorem ContractCall.execute_confirmed {contractCall : ContractCall}
    (h : Returns (contractCall.execute key tokenNetwork) moves hash) : Confirmed moves hash := by
  obtain ⟨-, receipt, found, status⟩ := execute_receipt h
  obtain ⟨mined, heard⟩ := heard_of_minedReceipt? found
  exact ⟨receipt, mined, Receipt.isSuccess_iff.mpr status, heard⟩

/-! ## It can be carried out -/

/-- A transaction of a justified call is carried out, if the node does its part. -/
theorem ContractCall.execute_carriedOut {contractCall : ContractCall} {chain : ChainId}
    {block : BlockNumber} (justified : contractCall.Justified key.address tokenNetwork chain block)
    (nonce : Amount) (signed : SignedTransaction) (hash : Hash) {receipt : Receipt}
    (mined : receipt.isMined = true) (success : receipt.isSuccess = true) :
    ∃ transaction, Returns (contractCall.execute key tokenNetwork)
      (contractCall.readings key.address tokenNetwork chain chain block 0 0 0 ++
        (handover nonce transaction key signed hash ++
          [.heard (.transactionReceipt hash) (.ok (some receipt))])) hash := by
  have prepared : Returns (contractCall.prepare key.address tokenNetwork) _ (chain, 0, 0) :=
    prepare_returns_iff.mpr ⟨chain, block, 0, rfl, justified, by decide⟩
  have ends : Receipt.awaited? (.ok (some receipt)) = some (.ok receipt) := if_pos mined
  have followed : Returns (follow key.address tokenNetwork (contractCall.data key.address) hash)
      [.heard (.transactionReceipt hash) (.ok (some receipt))] hash := by
    refine returns_bind_iff.mpr ⟨receipt, [_], [], rfl,
      returns_mapError_iff.mpr (.single (.awaited hash .done ends)), ?_⟩
    rw [if_pos success]
    exact .nil
  rw [execute_eq]
  exact ⟨_, returns_bind_iff.mpr ⟨_, _, _, rfl, prepared, returns_bind_iff.mpr ⟨hash, _, _, rfl,
    sendNext_returns_iff.mpr ⟨nonce, signed, rfl⟩, followed⟩⟩⟩

end PaymentChannel
