import PaymentChannel.Proofs.Account.Move
import PaymentChannel.Proofs.Logged

/-!
# What a dialogue has asked the node so far

A path ends in a dialogue that is done, or in one that has asked something and was not answered yet.
The calls it has made are those that were answered and the one that may be pending.

* `AccountDialogue.asking?`, `invoked` : the pending question, and the calls made so far.
* `AccountDialogue.Asks` : whatever it is answered, a dialogue asks only certain questions and ends
  as required.  `AccountDialogue.Asks.path` : so it is at every point of a path.
* `AccountDialogue.Path.except_bind_inv` : a path through two parts of a submission ends in the
  first part, with its error, or in the second part.
* `minedReceipt?` : the first receipt of a transaction with a block.
-/

namespace PaymentChannel

/-- The call of the node that a question makes, if it makes one. -/
def Action.nodeCall? : Action → Option NodeCall
  | call nodeCall => some nodeCall
  | awaitReceipt hash => some (.transactionReceipt hash)
  | reserveNonce | commitNonce | releaseNonce => none

/-- The call that was answered, if the move is an answer. -/
def Move.nodeCall? : Move → Option NodeCall
  | heard nodeCall _ => some nodeCall
  | reserved _ | committed | released => none

/-- The question that a move is an answer to. -/
def Move.Answers : Move → Action → Prop
  | heard nodeCall _, question => question.nodeCall? = some nodeCall
  | reserved _, question => question = .reserveNonce
  | committed, question => question = .commitNonce
  | released, question => question = .releaseNonce

theorem Move.Answers.nodeCall {m : Move} {question : Action} {nodeCall : NodeCall}
    (h : m.Answers question) (he : m.nodeCall? = some nodeCall) :
    question.nodeCall? = some nodeCall := by
  cases m with
  | heard => exact h.trans he
  | _ => cases he

namespace AccountDialogue

variable {ε α β : Type} {d e : AccountDialogue α} {m : Move} {moves : List Move}

/-- The question that a dialogue waits to be answered. -/
def asking? : AccountDialogue α → Option Action
  | .done _ => none
  | .ask question _ => some question

/-- Whatever it is answered, a dialogue asks only such questions, and ends as required. -/
def Asks (P : Action → Prop) (Q : α → Prop) : AccountDialogue α → Prop
  | .done a => Q a
  | .ask question next => P question ∧ ∀ answer, Asks P Q (next answer)

section Asks

variable {P : Action → Prop} {Q : α → Prop}

theorem asks_bind_iff {Q : β → Prop} {f : α → AccountDialogue β} :
    Asks P Q (d.bind f) ↔ Asks P (fun a => Asks P Q (f a)) d := by
  induction d with
  | done a => rfl
  | ask question next ih => exact and_congr_right fun _ => forall_congr' ih

theorem asks_except_bind_iff {Q : Except ε β → Prop} {x : ExceptT ε AccountDialogue α}
    {k : α → ExceptT ε AccountDialogue β} :
    Asks P Q (x >>= k).run ↔ Asks P (fun result => match result with
      | .ok a => Asks P Q (k a).run
      | .error e => Q (.error e)) x.run := by
  refine asks_bind_iff.trans (iff_of_eq ?_)
  congr
  funext result
  cases result <;> rfl

theorem Asks.mono {Q' : α → Prop} (h : Asks P Q d) (imp : ∀ a, Q a → Q' a) : Asks P Q' d := by
  induction d with
  | done a => exact imp a h
  | ask question next ih => exact ⟨h.1, fun answer => ih answer (h.2 answer)⟩

theorem Asks.goes (h : Asks P Q d) (goes : Goes d m e) :
    Asks P Q e ∧ ∃ question, P question ∧ m.Answers question := by
  cases goes with
  | heard nodeCall answer => exact ⟨h.2 answer, _, h.1, rfl⟩
  | polled => exact ⟨h, _, h.1, rfl⟩
  | awaited => exact ⟨h.2 _, _, h.1, rfl⟩
  | reserved nonce => exact ⟨h.2 nonce, _, h.1, rfl⟩
  | committed => exact ⟨h.2 (), _, h.1, rfl⟩
  | released => exact ⟨h.2 (), _, h.1, rfl⟩

/-- **What a dialogue asks at every point of a path.** -/
theorem Asks.path (h : Asks P Q d) (path : Path d moves e) :
    Asks P Q e ∧ ∀ m ∈ moves, ∃ question, P question ∧ m.Answers question := by
  induction path with
  | nil => exact ⟨h, fun m hm => by cases hm⟩
  | snoc _ goes ih =>
    obtain ⟨still, before⟩ := ih
    obtain ⟨after, last⟩ := still.goes goes
    refine ⟨after, fun m hm => ?_⟩
    rcases List.mem_append.mp hm with hm | hm
    · exact before m hm
    · rwa [List.mem_singleton.mp hm]

end Asks

/-- A dialogue that is not done has a first move on its way to a result. -/
theorem Path.first_of_done {a : α} (h : Path d moves (.done a)) (undone : d ≠ .done a) :
    ∃ m rest d', moves = m :: rest ∧ Goes d m d' ∧ Path d' rest (.done a) := by
  rcases h.cases_first with ⟨-, he⟩ | first
  · exact absurd he.symm undone
  · exact first

/-- **A path through two parts of a submission.**  It ends in the first part, with its error, or in
the second part. -/
theorem Path.except_bind_inv {x : ExceptT ε AccountDialogue α}
    {k : α → ExceptT ε AccountDialogue β} {e : AccountDialogue (Except ε β)}
    (h : Path (x >>= k).run moves e) :
    (∃ question next next', Path x.run moves (.ask question next) ∧ e = .ask question next') ∨
      (∃ error, Path x.run moves (.done (.error error)) ∧ e = .done (.error error)) ∨
      ∃ a before after, moves = before ++ after ∧ Returns x before a ∧ Path (k a).run after e := by
  rcases h.bind_inv with ⟨d', first, rfl⟩ | ⟨result, before, after, rfl, first, second⟩
  · cases d' with
    | ask question next => exact Or.inl ⟨question, next, _, first, rfl⟩
    | done result =>
      cases result with
      | error error => exact Or.inr (Or.inl ⟨error, first, rfl⟩)
      | ok a => exact Or.inr (Or.inr ⟨a, moves, [], (List.append_nil _).symm, first, .nil⟩)
  · cases result with
    | error error =>
      obtain ⟨rfl, rfl⟩ := second.done_inv
      rw [List.append_nil]
      exact Or.inr (Or.inl ⟨error, first, rfl⟩)
    | ok a => exact Or.inr (Or.inr ⟨a, before, after, rfl, first, second⟩)

end AccountDialogue

/-! ## Sent at most so often -/

/-- Whether a call hands a transaction to the node. -/
def NodeCall.isSend : NodeCall → Bool
  | sendRawTransaction _ => true
  | _ => false

/-- Whether a question hands a transaction to the node. -/
def Action.isSend (question : Action) : Bool := question.nodeCall?.any NodeCall.isSend

namespace AccountDialogue

variable {ε α β : Type} {d e : AccountDialogue α} {m : Move} {moves : List Move} {n k : Nat}

/-- Whatever it is answered, a dialogue hands over so many transactions at most. -/
def SendsAtMost : Nat → AccountDialogue α → Prop
  | _, .done _ => True
  | n, .ask question next =>
    question.isSend.toNat ≤ n ∧ ∀ answer, SendsAtMost (n - question.isSend.toNat) (next answer)

theorem SendsAtMost.mono (h : SendsAtMost n d) (le : n ≤ k) : SendsAtMost k d := by
  induction d generalizing n k with
  | done a => trivial
  | ask question next ih =>
    exact ⟨Nat.le_trans h.1 le, fun answer => ih answer (h.2 answer) (Nat.sub_le_sub_right le _)⟩

theorem SendsAtMost.bind {f : α → AccountDialogue β} (h : SendsAtMost n d)
    (g : ∀ a, SendsAtMost k (f a)) : SendsAtMost (n + k) (d.bind f) := by
  induction d generalizing n with
  | done a => exact (g a).mono (Nat.le_add_left ..)
  | ask question next ih =>
    refine ⟨Nat.le_trans h.1 (Nat.le_add_right ..), fun answer => ?_⟩
    rw [Nat.sub_add_comm h.1]
    exact ih answer (h.2 answer)

theorem SendsAtMost.except_bind {x : ExceptT ε AccountDialogue α}
    {f : α → ExceptT ε AccountDialogue β} (h : SendsAtMost n x.run)
    (g : ∀ a, SendsAtMost k (f a).run) : SendsAtMost (n + k) (x >>= f).run := by
  refine h.bind ?_
  rintro (e | a)
  · trivial
  · exact g a

theorem SendsAtMost.goes (h : SendsAtMost n d) (goes : Goes d m e) :
    (m.nodeCall?.any NodeCall.isSend).toNat ≤ n ∧
      SendsAtMost (n - (m.nodeCall?.any NodeCall.isSend).toNat) e := by
  cases goes with
  | heard nodeCall answer => exact ⟨h.1, h.2 answer⟩
  | polled => exact ⟨Nat.zero_le _, h⟩
  | awaited => exact ⟨Nat.zero_le _, h.2 _⟩
  | reserved nonce => exact ⟨Nat.zero_le _, h.2 nonce⟩
  | committed => exact ⟨Nat.zero_le _, h.2 ()⟩
  | released => exact ⟨Nat.zero_le _, h.2 ()⟩

/-- A dialogue that asks only other questions hands over nothing. -/
theorem Asks.sendsAtMost {P : Action → Prop} {Q : α → Prop} (h : Asks P Q d)
    (other : ∀ question, P question → question.isSend = false) : SendsAtMost 0 d := by
  induction d with
  | done a => trivial
  | ask question next ih =>
    refine ⟨?_, fun answer => ?_⟩
    · rw [other question h.1]
      exact Nat.le_refl _
    · rw [other question h.1]
      exact ih answer (h.2 answer)

end AccountDialogue

/-! ## The calls so far -/

/-- The calls of the node that were made so far, the last one maybe without an answer yet. -/
def invoked {α : Type} (moves : List Move) (d : AccountDialogue α) : List NodeCall :=
  moves.filterMap Move.nodeCall? ++ (d.asking?.bind Action.nodeCall?).toList

theorem mem_invoked_iff {α : Type} {moves : List Move} {d : AccountDialogue α}
    {nodeCall : NodeCall} : nodeCall ∈ invoked moves d ↔
      (∃ m ∈ moves, m.nodeCall? = some nodeCall) ∨
        ∃ question, d.asking? = some question ∧ question.nodeCall? = some nodeCall := by
  rw [invoked, List.mem_append, List.mem_filterMap, Option.mem_toList, Option.bind_eq_some_iff]

/-- **What was handed over at every point of a path.** -/
theorem AccountDialogue.SendsAtMost.path {α : Type} {d e : AccountDialogue α} {moves : List Move}
    {n : Nat} (h : SendsAtMost n d) (path : Path d moves e) :
    (invoked moves e).countP NodeCall.isSend ≤ n := by
  have one : ∀ o : Option NodeCall,
      o.toList.countP NodeCall.isSend = (o.any NodeCall.isSend).toNat := by
    rintro (_ | nodeCall)
    · rfl
    · cases hs : nodeCall.isSend <;> simp [hs]
  -- What was answered counts against the bound, and the rest bounds what is still to come.
  have spent : (moves.filterMap Move.nodeCall?).countP NodeCall.isSend ≤ n ∧
      SendsAtMost (n - (moves.filterMap Move.nodeCall?).countP NodeCall.isSend) e := by
    induction path with
    | nil => exact ⟨Nat.zero_le _, h⟩
    | snoc _ goes ih =>
      obtain ⟨before, rest⟩ := ih
      obtain ⟨last, rest⟩ := rest.goes goes
      rw [filterMap_snoc, List.countP_append, one]
      refine ⟨by omega, ?_⟩
      rwa [← Nat.sub_sub]
  obtain ⟨before, rest⟩ := spent
  rw [invoked, List.countP_append, one]
  cases e with
  | done => exact before
  | ask question next =>
    have pending : (question.nodeCall?.any NodeCall.isSend).toNat ≤ _ := rest.1
    change _ + (question.nodeCall?.any NodeCall.isSend).toNat ≤ n
    omega

/-! ## Receipts -/

/-- The receipt in an answer of the node, if it is one of a mined transaction with this hash. -/
def Move.minedReceipt? (hash : Hash) : Move → Option Receipt
  | heard (.transactionReceipt asked) (.ok (some receipt)) =>
    if asked = hash ∧ receipt.isMined then some receipt else none
  | _ => none

/-- The first receipt of a transaction with a block. -/
def minedReceipt? (hash : Hash) (moves : List Move) : Option Receipt :=
  moves.findSome? (Move.minedReceipt? hash)

theorem minedReceipt?_append {hash : Hash} {before after : List Move} :
    minedReceipt? hash (before ++ after) =
      (minedReceipt? hash before).or (minedReceipt? hash after) := List.findSome?_append

theorem minedReceipt?_singleton {hash : Hash} {m : Move} :
    minedReceipt? hash [m] = m.minedReceipt? hash := by
  rw [minedReceipt?, List.findSome?_cons, List.findSome?_nil]
  cases m.minedReceipt? hash <;> rfl

/-- An answer that ends the wait without an error is a receipt of a mined transaction. -/
theorem Move.minedReceipt?_heard {hash : Hash} {answer : NodeAnswer (Option Receipt)} :
    Move.minedReceipt? hash (.heard (.transactionReceipt hash) answer) =
      match Receipt.awaited? answer with
      | some (.ok receipt) => some receipt
      | _ => none := by
  rcases answer with e | (_ | receipt)
  · rfl
  · rfl
  · by_cases mined : receipt.isMined <;> simp [minedReceipt?, Receipt.awaited?, mined]

/-- The receipt was heard. -/
theorem heard_of_minedReceipt? {hash : Hash} {moves : List Move} {receipt : Receipt}
    (h : minedReceipt? hash moves = some receipt) : receipt.isMined = true ∧
      .heard (.transactionReceipt hash) (.ok (some receipt)) ∈ moves := by
  obtain ⟨m, hm, he⟩ := List.exists_of_findSome?_eq_some h
  unfold Move.minedReceipt? at he
  split at he
  · obtain ⟨⟨rfl, mined⟩, same⟩ := Option.ite_none_right_eq_some.mp he
    cases same
    exact ⟨mined, hm⟩
  · cases he

theorem minedReceipt?_eq_none {hash : Hash} {moves : List Move}
    (h : ∀ m ∈ moves, m.nodeCall? ≠ some (.transactionReceipt hash)) :
    minedReceipt? hash moves = none := by
  refine List.findSome?_eq_none_iff.mpr fun m hm => ?_
  unfold Move.minedReceipt?
  split
  · next asked receipt =>
    refine if_neg ?_
    rintro ⟨rfl, -⟩
    exact h _ hm rfl
  · rfl

end PaymentChannel
