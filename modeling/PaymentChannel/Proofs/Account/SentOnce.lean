import PaymentChannel.Proofs.Account.Confirmed

/-!
# A transaction is sent at most once

* `ContractCall.execute_cases` : where a contract call can be: in its preparation, on its way to the
  node, or followed after the node took it.
* `SentOnce` : what is known at every point, and `sent_once_of_path` : it holds whatever the node
  answers.
-/

namespace PaymentChannel

open AccountDialogue

variable {moves : List Move} {account contract tokenNetwork : Address} {data : Bytes} {hash : Hash}
  {key : PrivateKey} {transaction : TransactionRequest}

/-! ## Where a contract call can be -/

theorem Action.Reads.isSend {question : Action} (h : question.Reads) : question.isSend = false := by
  cases question with
  | call nodeCall => cases nodeCall <;> first | rfl | cases h
  | _ => rfl

theorem Action.Follows.isSend {question : Action} (h : question.Follows) :
    question.isSend = false := by
  cases question with
  | call nodeCall => cases nodeCall <;> first | rfl | cases h
  | _ => rfl

/-- **A contract call hands over one transaction at most.** -/
theorem ContractCall.execute_sendsAtMost (key : PrivateKey) (tokenNetwork : Address)
    (contractCall : ContractCall) : SendsAtMost 1 (contractCall.execute key tokenNetwork).run := by
  rw [contractCall.execute_eq]
  have preparing := (contractCall.prepare_asks key.address tokenNetwork).sendsAtMost
    fun _ h => h.isSend
  refine preparing.except_bind (k := 1) fun found => ?_
  refine (sendNext_sendsAtMost ..).except_bind (k := 0) fun hash => ?_
  exact (follow_asks ..).sendsAtMost fun _ h => h.isSend

/-- Nothing was done but reading, and no transaction has succeeded or failed. -/
structure Quiet (moves : List Move) (d : AccountDialogue (Except TransactionError Hash)) :
    Prop where
  heard : OnlyReads moves
  asking : ∀ question, d.asking? = some question → question.Reads
  result : ∀ result, d = .done result → (∃ e, result = .error e) ∧ Untried result

theorem heard_of_answers {m : Move} (h : ∃ question : Action, question.Reads ∧ m.Answers question) :
    ∃ nodeCall answer, m = .heard nodeCall answer ∧ nodeCall.Reads := by
  obtain ⟨question, reads, answers⟩ := h
  cases question with
  | call nodeCall =>
    cases m with
    | heard nodeCall answer =>
      cases answers
      exact ⟨nodeCall, answer, rfl, reads⟩
    | _ => cases answers
  | _ => cases reads

/-- **Where a contract call can be.**  It is still in its preparation, on its way to the node, or
followed after the node took it. -/
theorem ContractCall.execute_cases {contractCall : ContractCall}
    {d : AccountDialogue (Except TransactionError Hash)}
    (h : Path (contractCall.execute key tokenNetwork).run moves d) :
    Quiet moves d ∨ ∃ before after, moves = before ++ after ∧
      contractCall.Ready key.address tokenNetwork before ∧
      (((∀ m ∈ after, ∃ question, question.Submits ∧ m.Answers question) ∧
          ∀ result, d = .done result → (∃ e, result = .error e) ∧ Untried result) ∨
        ∃ nonce transaction signed hash rest,
          after = handover nonce transaction key signed hash ++ rest ∧
          Path (follow key.address tokenNetwork (contractCall.data key.address) hash).run rest
            d) := by
  rw [execute_eq] at h
  have prepares := contractCall.prepare_asks key.address tokenNetwork
  rcases h.except_bind_inv with ⟨question, next, next', first, rfl⟩ | ⟨e, first, rfl⟩ |
    ⟨⟨chain, gas, gasPrice⟩, before, after, rfl, first, path⟩
  · obtain ⟨asks, answers⟩ := prepares.path first
    refine Or.inl ⟨fun m hm => heard_of_answers (answers m hm), ?_, ?_⟩
    · rintro _ ⟨⟩
      exact asks.1
    · rintro _ ⟨⟩
  · obtain ⟨untried, answers⟩ := prepares.path first
    refine Or.inl ⟨fun m hm => heard_of_answers (answers m hm), ?_, ?_⟩
    · rintro _ ⟨⟩
    · rintro _ ⟨⟩
      exact ⟨⟨e, rfl⟩, untried⟩
  · have ready := ready_of_prepare first
    refine Or.inr ⟨before, after, rfl, ready, ?_⟩
    have sends := sendNext_asks key
      (contractCall.transaction key.address tokenNetwork chain gas gasPrice)
    rcases path.except_bind_inv with ⟨question, next, next', sending, rfl⟩ | ⟨e, sending, rfl⟩ |
      ⟨hash, submitting, following, rfl, sending, followed⟩
    · refine Or.inl ⟨(sends.path sending).2, ?_⟩
      rintro _ ⟨⟩
    · obtain ⟨untried, answers⟩ := sends.path sending
      refine Or.inl ⟨answers, ?_⟩
      rintro _ ⟨⟩
      exact ⟨⟨e, rfl⟩, untried⟩
    · obtain ⟨nonce, signed, rfl⟩ := sendNext_returns_iff.mp sending
      exact Or.inr ⟨nonce, _, signed, hash, following, rfl, followed⟩

/-! ## What is known at every point -/

/-- The gas of a call could not be estimated. -/
def Move.Unestimated : Move → Prop
  | heard .gasPrice (.error _) => True
  | heard (.estimateGas ..) (.error _) => True
  | _ => False

/-- What is known of a contract call at every point, whatever the node answers. -/
structure SentOnce (contractCall : ContractCall) (account tokenNetwork : Address)
    (moves : List Move) (d : AccountDialogue (Except TransactionError Hash)) : Prop where
  once : (invoked moves d).countP NodeCall.isSend ≤ 1
  /-- Before a transaction is handed over, everything was found right. -/
  checked : ∀ raw, .sendRawTransaction raw ∈ invoked moves d →
    ∃ before after, moves = before ++ after ∧ contractCall.Ready account tokenNetwork before
  /-- The hash that the node gave is returned if the first receipt with a block says success. -/
  succeeded : ∀ hash, d = .done (.ok hash) ↔ Accepted moves hash ∧
    ∃ receipt, minedReceipt? hash moves = some receipt ∧ receipt.status = some 1
  /-- The transaction has failed if this receipt says anything else. -/
  failed : ∀ hash, (∃ reason, d = .done (.error (.failed hash reason))) ↔
    d.asking? = none ∧ Accepted moves hash ∧
      ∃ receipt, minedReceipt? hash moves = some receipt ∧ receipt.status ≠ some 1
  /-- A failed estimate leads to no transaction. -/
  unestimated : (∃ m ∈ moves, m.Unestimated) → Quiet moves d

theorem not_accepted_of_follows
    (h : ∀ m ∈ moves, ∃ question : Action, question.Follows ∧ m.Answers question) :
    ¬Accepted moves hash := by
  rintro ⟨raw, hm⟩
  obtain ⟨question, follows, answers⟩ := h _ hm
  rcases follows.nodeCall (answers.nodeCall rfl) with ⟨_, ⟨⟩⟩ | ⟨_, _, ⟨⟩⟩

theorem ContractCall.Ready.estimated {contractCall : ContractCall}
    (h : contractCall.Ready account tokenNetwork moves) {m : Move} (hm : m ∈ moves) :
    ¬m.Unestimated := by
  obtain ⟨nodeCall, answer, rfl, -⟩ := h.heard m hm
  cases nodeCall <;> exact id

theorem Move.Unestimated.nodeCall {m : Move} (h : m.Unestimated) :
    m.nodeCall? = some .gasPrice ∨
      ∃ request block, m.nodeCall? = some (.estimateGas request block) := by
  unfold Unestimated at h
  split at h
  · exact Or.inl rfl
  · exact Or.inr ⟨_, _, rfl⟩
  · cases h

theorem not_unestimated_of_submits {m : Move} {question : Action} (h : question.Submits)
    (answers : m.Answers question) : ¬m.Unestimated := by
  intro bad
  rcases bad.nodeCall with he | ⟨request, block, he⟩ <;>
    rcases h.nodeCall (answers.nodeCall he) with ⟨_, _, ⟨⟩⟩ | ⟨_, ⟨⟩⟩

theorem not_unestimated_of_follows {m : Move} {question : Action} (h : question.Follows)
    (answers : m.Answers question) : ¬m.Unestimated := by
  intro bad
  rcases bad.nodeCall with he | ⟨request, block, he⟩ <;>
    rcases h.nodeCall (answers.nodeCall he) with ⟨_, ⟨⟩⟩ | ⟨_, _, ⟨⟩⟩

theorem Quiet.sentOnce {contractCall : ContractCall}
    {d : AccountDialogue (Except TransactionError Hash)} (h : Quiet moves d)
    (once : (invoked moves d).countP NodeCall.isSend ≤ 1) :
    SentOnce contractCall account tokenNetwork moves d := by
  refine ⟨once, ?_, ?_, ?_, fun _ => h⟩
  · intro raw hr
    rcases mem_invoked_iff.mp hr with ⟨m, hm, he⟩ | ⟨question, asking, he⟩
    · obtain ⟨nodeCall, answer, rfl, reads⟩ := h.heard m hm
      cases he
      cases reads
    · have quiet := h.asking question asking
      cases question with
      | call => cases he; cases quiet
      | _ => cases quiet
  · intro hash
    constructor
    · intro he
      obtain ⟨⟨e, he⟩, -⟩ := h.result _ he
      cases he
    · rintro ⟨accepted, -⟩
      exact absurd accepted h.heard.not_accepted
  · intro hash
    constructor
    · rintro ⟨reason, he⟩
      cases (h.result _ he).2
    · rintro ⟨-, accepted, -⟩
      exact absurd accepted h.heard.not_accepted

/-- On its way to the node, a transaction has neither succeeded nor failed. -/
theorem sentOnce_of_submitting {contractCall : ContractCall} {before after : List Move}
    {d : AccountDialogue (Except TransactionError Hash)}
    (ready : contractCall.Ready account tokenNetwork before)
    (answers : ∀ m ∈ after, ∃ question : Action, question.Submits ∧ m.Answers question)
    (result : ∀ result, d = .done result → (∃ e, result = .error e) ∧ Untried result)
    (once : (invoked (before ++ after) d).countP NodeCall.isSend ≤ 1) :
    SentOnce contractCall account tokenNetwork (before ++ after) d := by
  have unreceived : ∀ hash, minedReceipt? hash (before ++ after) = none := by
    intro hash
    rw [minedReceipt?_append, ready.onlyReads.minedReceipt?, Option.none_or]
    refine minedReceipt?_eq_none fun m hm he => ?_
    obtain ⟨question, submits, answer⟩ := answers m hm
    rcases submits.nodeCall (answer.nodeCall he) with ⟨_, _, ⟨⟩⟩ | ⟨_, ⟨⟩⟩
  refine ⟨once, fun _ _ => ⟨before, after, rfl, ready⟩, ?_, ?_, ?_⟩
  · intro hash
    rw [unreceived]
    constructor
    · intro he
      obtain ⟨⟨e, he⟩, -⟩ := result _ he
      cases he
    · rintro ⟨-, receipt, ⟨⟩, -⟩
  · intro hash
    rw [unreceived]
    constructor
    · rintro ⟨reason, he⟩
      cases (result _ he).2
    · rintro ⟨-, -, receipt, ⟨⟩, -⟩
  · rintro ⟨m, hm, bad⟩
    rcases List.mem_append.mp hm with hm | hm
    · exact absurd bad (ready.estimated hm)
    · obtain ⟨question, submits, answer⟩ := answers m hm
      exact absurd bad (not_unestimated_of_submits submits answer)

/-- Once the node took a transaction, its receipt decides. -/
theorem sentOnce_of_following {contractCall : ContractCall} {before rest : List Move}
    {d : AccountDialogue (Except TransactionError Hash)} {nonce : Amount}
    {signed : SignedTransaction} (ready : contractCall.Ready account tokenNetwork before)
    (path : Path (follow account tokenNetwork data hash).run rest d)
    (once : (invoked (before ++ (handover nonce transaction key signed hash ++ rest)) d).countP
      NodeCall.isSend ≤ 1) :
    SentOnce contractCall account tokenNetwork
      (before ++ (handover nonce transaction key signed hash ++ rest)) d := by
  have answers := ((follow_asks ..).path path).2
  have accepted : ∀ hash', Accepted (before ++ (handover nonce transaction key signed hash ++ rest))
      hash' ↔ hash' = hash := by
    intro hash'
    rw [accepted_append, accepted_append, accepted_handover]
    simp only [ready.onlyReads.not_accepted, not_accepted_of_follows answers, false_or, or_false]
  refine ⟨once, fun _ _ => ⟨before, _, rfl, ready⟩, ?_, ?_, ?_⟩
  · intro hash'
    rw [follow_succeeds_iff path, accepted]
    refine and_congr_right ?_
    rintro rfl
    rw [ready.minedReceipt?]
  · intro hash'
    rw [follow_fails_iff path, accepted, and_left_comm]
    refine and_congr_right fun _ => and_congr_right ?_
    rintro rfl
    rw [ready.minedReceipt?]
  · rintro ⟨m, hm, bad⟩
    rcases List.mem_append.mp hm with hm | hm
    · exact absurd bad (ready.estimated hm)
    rcases List.mem_append.mp hm with hm | hm
    · simp only [handover, List.mem_cons, List.not_mem_nil, or_false] at hm
      rcases hm with rfl | rfl | rfl | rfl <;> cases bad
    · obtain ⟨question, follows, answer⟩ := answers m hm
      exact absurd bad (not_unestimated_of_follows follows answer)

/-- **A transaction is sent at most once**, and only after everything was found right. -/
theorem sent_once_of_path {contractCall : ContractCall}
    {d : AccountDialogue (Except TransactionError Hash)}
    (h : Path (contractCall.execute key tokenNetwork).run moves d) :
    SentOnce contractCall key.address tokenNetwork moves d := by
  have once := (contractCall.execute_sendsAtMost key tokenNetwork).path h
  rcases ContractCall.execute_cases h with
    quiet | ⟨before, after, rfl, ready, submitting | following⟩
  · exact quiet.sentOnce once
  · exact sentOnce_of_submitting ready submitting.1 submitting.2 once
  · obtain ⟨nonce, transaction, signed, hash, rest, rfl, path⟩ := following
    exact sentOnce_of_following ready path once

/-- A settlement that is carried out at block 12. -/
theorem sent_once_of_settlement : ∃ moves, Path (ContractCall.execute Sample.key ⟨7⟩
      (.settle Sample.identifier Sample.second ⟨0, .zero, 25, 0, .zero, 20⟩ 11)).run moves
      (.done (.ok .zero)) ∧
    SentOnce (.settle Sample.identifier Sample.second ⟨0, .zero, 25, 0, .zero, 20⟩ 11)
      Sample.key.address ⟨7⟩ moves (.done (.ok .zero)) := by
  have justified : (ContractCall.settle Sample.identifier Sample.second
      ⟨0, .zero, 25, 0, .zero, 20⟩ 11).Justified Sample.key.address ⟨7⟩ .mainnet 11 :=
    ⟨rfl, rfl, by decide⟩
  have mined : (Receipt.mk .zero (some 12) (some 1)).isMined = true := rfl
  obtain ⟨transaction, path⟩ := ContractCall.execute_carriedOut justified 0
    ⟨.zero, 0, .zero, .zero, [], .zero⟩ .zero mined (by decide)
  exact ⟨_, path, sent_once_of_path path⟩

end PaymentChannel
