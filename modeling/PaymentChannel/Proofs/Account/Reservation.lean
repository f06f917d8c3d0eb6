import PaymentChannel.Proofs.Account.Move

/-!
# What a transaction does with the nonce

* `Phase`, `Phase.Goes` : how far a transaction is, and the moves that take it further.
* `Phase.Trace` : the moves that lead to a phase.  They end with what the phase stands for.
* `AccountDialogue.Obeys` : a dialogue makes no other moves, whatever it is answered.
* `transact_obeys` : the transactions of an account obey.
-/

namespace PaymentChannel

/-- A call that neither makes a transaction nor follows one. -/
def NodeCall.Reads : NodeCall → Prop
  | .signTransaction .. | .sendRawTransaction _ | .transactionReceipt _ => False
  | _ => True

/-- The last moves reserve a nonce and sign a transaction with it. -/
def Signed (moves : List Move) (nonce : Amount) (raw : Bytes) : Prop :=
  ∃ before transaction key signed,
    moves = before ++ [.reserved nonce, .heard (.signTransaction transaction key) (.ok signed)] ∧
      transaction.nonce = some nonce ∧ signed.raw = raw

/-- The node took a transaction with a nonce, which was used up at once. -/
def Sent (moves : List Move) (nonce : Amount) (hash : Hash) : Prop :=
  ∃ before raw after,
    moves = before ++ .heard (.sendRawTransaction raw) (.ok hash) :: .committed :: after ∧
      Signed before nonce raw

theorem Sent.snoc {moves : List Move} {nonce : Amount} {hash : Hash} (h : Sent moves nonce hash)
    (m : Move) : Sent (moves ++ [m]) nonce hash := by
  obtain ⟨before, raw, after, rfl, signed⟩ := h
  exact ⟨before, raw, after ++ [m], List.append_assoc .., signed⟩

theorem Signed.nonce_inj {moves : List Move} {nonce nonce' : Amount} {raw raw' : Bytes}
    (h : Signed moves nonce raw) (h' : Signed moves nonce' raw') : nonce = nonce' := by
  obtain ⟨before, _, _, _, rfl, -⟩ := h
  obtain ⟨before', _, _, _, he, -⟩ := h'
  have last := (List.append_inj' he rfl).2
  exact Move.reserved.inj (List.cons.inj last).1

/-- The node took a transaction. -/
def Move.accepted : Move → Bool
  | .heard (.sendRawTransaction _) (.ok _) => true
  | _ => false

/-- How far a transaction is. -/
inductive Phase where
  | idle
  | holding (nonce : Amount)
  | signed (nonce : Amount) (raw : Bytes)
  | refused (nonce : Amount)
  | accepted (nonce : Amount) (hash : Hash)
  | waiting (nonce : Amount) (hash : Hash)

namespace Phase

/-- The nonce that other transactions have to wait for. -/
def held : Phase → Option Amount
  | holding nonce | signed nonce _ | refused nonce | accepted nonce _ => some nonce
  | idle | waiting _ _ => none

/-- Whether the nonce that is held has been used up. -/
def taken : Phase → Nat
  | accepted _ _ => 1
  | _ => 0

theorem taken_of_unheld (phase : Phase) (h : phase.held = none) : phase.taken = 0 := by
  cases phase <;> first | rfl | cases h

inductive Goes : Phase → Move → Phase → Prop
  | read {phase : Phase} {nodeCall : NodeCall} (answer : NodeAnswer nodeCall.Answer)
      (hp : phase.held = none) (hc : nodeCall.Reads) : Goes phase (.heard nodeCall answer) phase
  | reserve (nonce : Amount) : Goes .idle (.reserved nonce) (.holding nonce)
  | sign {nonce : Amount} {transaction : TransactionRequest} (key : PrivateKey)
      (signed : SignedTransaction) (h : transaction.nonce = some nonce) :
      Goes (.holding nonce) (.heard (.signTransaction transaction key) (.ok signed))
        (.signed nonce signed.raw)
  | unsigned {nonce : Amount} {transaction : TransactionRequest} (key : PrivateKey)
      (e : NodeError) (h : transaction.nonce = some nonce) :
      Goes (.holding nonce) (.heard (.signTransaction transaction key) (.error e)) (.refused nonce)
  | accept (nonce : Amount) (raw : Bytes) (hash : Hash) :
      Goes (.signed nonce raw) (.heard (.sendRawTransaction raw) (.ok hash)) (.accepted nonce hash)
  | refuse (nonce : Amount) (raw : Bytes) (e : NodeError) :
      Goes (.signed nonce raw) (.heard (.sendRawTransaction raw) (.error e)) (.refused nonce)
  | release (nonce : Amount) : Goes (.refused nonce) .released .idle
  | commit (nonce : Amount) (hash : Hash) :
      Goes (.accepted nonce hash) .committed (.waiting nonce hash)
  | follow (nonce : Amount) {hash : Hash} (answer : NodeAnswer (Option Receipt)) :
      Goes (.waiting nonce hash) (.heard (.transactionReceipt hash) answer) (.waiting nonce hash)

/-- An answer changes nothing about who holds the nonce, and uses it up if it takes the
transaction. -/
theorem Goes.heard_inv {phase phase' : Phase} {nodeCall : NodeCall}
    {answer : NodeAnswer nodeCall.Answer} (h : Goes phase (.heard nodeCall answer) phase') :
    phase'.held = phase.held ∧
      phase'.taken = phase.taken + (Move.heard nodeCall answer).accepted.toNat := by
  cases h with
  | read _ hp hc => cases nodeCall <;> first | exact ⟨rfl, rfl⟩ | cases hc
  | sign | unsigned | accept | refuse | follow => exact ⟨rfl, rfl⟩

/-- The moves from the start to a phase. -/
inductive Trace : List Move → Phase → Prop
  | nil : Trace [] .idle
  | snoc {moves : List Move} {phase phase' : Phase} {m : Move} (trace : Trace moves phase)
      (goes : phase.Goes m phase') : Trace (moves ++ [m]) phase'

namespace Trace

variable {moves : List Move} {nonce : Amount} {raw : Bytes} {hash : Hash}

theorem holding_inv (h : Trace moves (.holding nonce)) :
    ∃ before, moves = before ++ [.reserved nonce] := by
  cases h with
  | snoc _ goes =>
    cases goes with
    | read _ hp => cases hp
    | reserve => exact ⟨_, rfl⟩

theorem signed_inv (h : Trace moves (.signed nonce raw)) : Signed moves nonce raw := by
  cases h with
  | snoc trace goes =>
    cases goes with
    | read _ hp => cases hp
    | sign key signed he =>
      obtain ⟨before, rfl⟩ := trace.holding_inv
      exact ⟨before, _, key, signed, by rw [List.append_assoc]; rfl, he, rfl⟩

theorem accepted_inv (h : Trace moves (.accepted nonce hash)) :
    ∃ before raw, moves = before ++ [.heard (.sendRawTransaction raw) (.ok hash)] ∧
      Signed before nonce raw := by
  cases h with
  | snoc trace goes =>
    cases goes with
    | read _ hp => cases hp
    | accept _ raw => exact ⟨_, raw, rfl, trace.signed_inv⟩

theorem waiting_inv (h : Trace moves (.waiting nonce hash)) : Sent moves nonce hash := by
  generalize hp : Phase.waiting nonce hash = phase at h
  induction h with
  | nil => cases hp
  | snoc trace goes ih =>
    cases goes with
    | read => exact (ih hp).snoc _
    | follow => exact (ih hp).snoc _
    | commit =>
      obtain ⟨rfl, rfl⟩ := Phase.waiting.inj hp
      obtain ⟨before, raw, rfl, signed⟩ := trace.accepted_inv
      exact ⟨before, raw, [], by simp, signed⟩
    | _ => cases hp

end Trace

end Phase

namespace AccountDialogue

variable {ε α β : Type} {d e : AccountDialogue α} {f : α → AccountDialogue β} {m : Move}
  {phase : Phase}

/-- Whatever it is answered, a dialogue makes only moves of its phase, and ends as required. -/
def Obeys (Q : α → Phase → Prop) : AccountDialogue α → Phase → Prop
  | .done a, phase => Q a phase
  | .ask (.call nodeCall) next, phase =>
    ∀ answer, ∃ phase', phase.Goes (.heard nodeCall answer) phase' ∧ Obeys Q (next answer) phase'
  | .ask (.awaitReceipt hash) next, phase =>
    ∃ nonce, phase = .waiting nonce hash ∧ ∀ result, Obeys Q (next result) phase
  | .ask .reserveNonce next, phase =>
    phase = .idle ∧ ∀ nonce, Obeys Q (next nonce) (.holding nonce)
  | .ask .commitNonce next, phase =>
    ∃ nonce hash, phase = .accepted nonce hash ∧ Obeys Q (next ()) (.waiting nonce hash)
  | .ask .releaseNonce next, phase => ∃ nonce, phase = .refused nonce ∧ Obeys Q (next ()) .idle

theorem Obeys.goes {Q : α → Phase → Prop} (h : Obeys Q d phase) (goes : Goes d m e) :
    ∃ phase', phase.Goes m phase' ∧ Obeys Q e phase' := by
  cases goes with
  | heard nodeCall answer => exact h answer
  | polled hash next =>
    obtain ⟨nonce, rfl, h⟩ := h
    exact ⟨_, .follow nonce _, nonce, rfl, h⟩
  | awaited hash next =>
    obtain ⟨nonce, rfl, h⟩ := h
    exact ⟨_, .follow nonce _, h _⟩
  | reserved nonce =>
    obtain ⟨rfl, h⟩ := h
    exact ⟨_, .reserve nonce, h nonce⟩
  | committed =>
    obtain ⟨nonce, hash, rfl, h⟩ := h
    exact ⟨_, .commit nonce hash, h⟩
  | released =>
    obtain ⟨nonce, rfl, h⟩ := h
    exact ⟨_, .release nonce, h⟩

/-- What is used up is not given back by a drop: a dialogue does not wait before it commits. -/
theorem Obeys.taken_of_awaits {Q : α → Phase → Prop} (h : Obeys Q d phase) (awaits : d.Awaits) :
    phase.taken = 0 := by
  cases d with
  | done => cases awaits
  | ask question next =>
    cases question with
    | call nodeCall =>
      obtain ⟨phase', goes, -⟩ := h (.error (.rpc ""))
      obtain ⟨held, taken⟩ := goes.heard_inv
      cases phase with
      | accepted => cases goes; contradiction
      | _ => rfl
    | awaitReceipt hash =>
      obtain ⟨nonce, rfl, -⟩ := h
      rfl
    | reserveNonce =>
      obtain ⟨rfl, -⟩ := h
      rfl
    | commitNonce | releaseNonce => cases awaits

/-- A dialogue that signs or sends a transaction. -/
def Submits : AccountDialogue α → Prop
  | .ask (.call (.signTransaction _ _)) _ | .ask (.call (.sendRawTransaction _)) _ => True
  | _ => False

theorem Obeys.held_of_submits {Q : α → Phase → Prop} (h : Obeys Q d phase) (submits : d.Submits) :
    phase.held ≠ none := by
  unfold Submits at submits
  split at submits
  · obtain ⟨phase', goes, -⟩ := h (.error (.rpc ""))
    cases goes with
    | read _ _ hc => cases hc
    | unsigned => exact (nomatch ·)
  · obtain ⟨phase', goes, -⟩ := h (.error (.rpc ""))
    cases goes with
    | read _ _ hc => cases hc
    | refuse => exact (nomatch ·)
  · cases submits

theorem obeys_bind_iff {Q : β → Phase → Prop} :
    Obeys Q (d.bind f) phase ↔ Obeys (fun a phase => Obeys Q (f a) phase) d phase := by
  induction d generalizing phase with
  | done a => rfl
  | ask question next ih =>
    cases question with
    | call =>
      exact forall_congr' fun answer => exists_congr fun _ => and_congr_right fun _ => ih answer
    | awaitReceipt | reserveNonce => simp only [Dialogue.bind, Obeys, ih]
    | commitNonce => simp only [Dialogue.bind, Obeys, ih ()]
    | releaseNonce => simp only [Dialogue.bind, Obeys, ih ()]

theorem Obeys.mono {P Q : α → Phase → Prop} (h : Obeys P d phase)
    (imp : ∀ a phase, P a phase → Q a phase) : Obeys Q d phase := by
  induction d generalizing phase with
  | done a => exact imp a phase h
  | ask question next ih =>
    cases question with
    | call nodeCall =>
      intro answer
      obtain ⟨phase', goes, h⟩ := h answer
      exact ⟨phase', goes, ih answer h⟩
    | awaitReceipt hash =>
      obtain ⟨nonce, he, h⟩ := h
      exact ⟨nonce, he, fun result => ih result (h result)⟩
    | reserveNonce => exact ⟨h.1, fun nonce => ih nonce (h.2 nonce)⟩
    | commitNonce =>
      obtain ⟨nonce, hash, he, h⟩ := h
      exact ⟨nonce, hash, he, ih () h⟩
    | releaseNonce =>
      obtain ⟨nonce, he, h⟩ := h
      exact ⟨nonce, he, ih () h⟩

theorem obeys_except_bind_iff {Q : Except ε β → Phase → Prop} {x : ExceptT ε AccountDialogue α}
    {k : α → ExceptT ε AccountDialogue β} :
    Obeys Q (x >>= k).run phase ↔ Obeys (fun result phase => match result with
      | .ok a => Obeys Q (k a).run phase
      | .error e => Q (.error e) phase) x.run phase := by
  refine obeys_bind_iff.trans ?_
  apply iff_of_eq
  congr
  funext result phase
  cases result <;> rfl

theorem obeys_lift_iff {Q : Except ε α → Phase → Prop} :
    Obeys Q (ExceptT.lift d : ExceptT ε AccountDialogue α).run phase ↔
      Obeys (fun a phase => Q (.ok a) phase) d phase := obeys_bind_iff

end AccountDialogue

open AccountDialogue

/-! ## Transactions -/

section

variable {phase : Phase}

theorem call_obeys {nodeCall : NodeCall}
    {Q : Except TransactionError nodeCall.Answer → Phase → Prop} (hp : phase.held = none)
    (hc : nodeCall.Reads) (h : ∀ result, Q result phase) :
    Obeys Q (Submission.call nodeCall).run phase :=
  fun answer => ⟨phase, .read answer hp hc, h _⟩

theorem checkFunds_obeys {Q : Except TransactionError Unit → Phase → Prop}
    (hp : phase.held = none) (h : ∀ result, Q result phase) (account : Address)
    (gas gasPrice : Amount) : Obeys Q (checkFunds account gas gasPrice).run phase := by
  refine obeys_except_bind_iff.mpr ?_
  refine call_obeys hp trivial ?_
  rintro (e | current)
  · exact h _
  · dsimp only
    split <;> exact h _

theorem revertReason_obeys {Q : String → Phase → Prop} (hp : phase.held = none)
    (h : ∀ reason, Q reason phase) (account contract : Address) (data : Bytes)
    (block : Option BlockNumber) : Obeys Q (revertReason account contract data block) phase := by
  intro answer
  refine ⟨phase, .read answer hp trivial, ?_⟩
  rcases answer with (reason | reason | reason) | output <;> exact h _

theorem awaitReceipt_obeys {Q : Except TransactionError Receipt → Phase → Prop} {nonce : Amount}
    {hash : Hash} (h : ∀ result, Q result (.waiting nonce hash)) :
    Obeys Q (Submission.ofNode (awaitReceipt hash)).run (.waiting nonce hash) :=
  ⟨nonce, rfl, fun _ => h _⟩

/-- An error means that the nonce was given back. -/
theorem sendNext_obeys (key : PrivateKey) (transaction : TransactionRequest) :
    Obeys (fun result phase => match result with
      | .ok hash => ∃ nonce, phase = .waiting nonce hash
      | .error _ => phase = .idle) (sendNext key transaction).run .idle := by
  refine ⟨rfl, fun nonce => ?_⟩
  rintro (e | signed)
  · exact ⟨_, .unsigned key e rfl, _, rfl, rfl⟩
  · refine ⟨_, .sign key signed rfl, ?_⟩
    rintro (e | hash)
    · exact ⟨_, .refuse nonce _ e, _, rfl, rfl⟩
    · exact ⟨_, .accept nonce _ hash, _, _, rfl, _, rfl⟩

/-- **The transactions of an account obey**, and hold no nonce in the end. -/
theorem transact_obeys (key : PrivateKey) (contract : Address) (data : Bytes)
    (gas gasPrice : Amount) : Obeys (fun _ phase => phase.held = none)
      (transact key contract data gas gasPrice).run .idle := by
  refine obeys_except_bind_iff.mpr ?_
  refine checkFunds_obeys rfl ?_ key.address gas gasPrice
  rintro (e | ⟨⟩)
  · rfl
  refine obeys_except_bind_iff.mpr ?_
  refine call_obeys rfl trivial ?_
  rintro (e | chain)
  · rfl
  refine obeys_except_bind_iff.mpr ?_
  refine (sendNext_obeys key _).mono ?_
  rintro (e | hash) phase h
  · exact h ▸ rfl
  obtain ⟨nonce, rfl⟩ := h
  refine obeys_except_bind_iff.mpr (awaitReceipt_obeys ?_)
  rintro (e | receipt)
  · rfl
  dsimp only
  split
  · rfl
  · refine obeys_except_bind_iff.mpr (obeys_lift_iff.mpr ?_)
    refine revertReason_obeys ?_ ?_ _ _ _ _
    · rfl
    · intro reason
      rfl

end

/-- A transaction that the account can pay for is sent, if the node does its part. -/
theorem transact_taken (key : PrivateKey) (contract : Address) (data : Bytes)
    {gas gasPrice balance : Amount} (funds : ¬balance < gas.saturatingMul gasPrice)
    (chain : ChainId) (nonce : Amount) (signed : SignedTransaction) (hash : Hash) :
    ∃ d₁ d₂ d₃ d₄,
      Path (transact key contract data gas gasPrice).run
        [.heard (.balanceAt key.address none) (.ok balance), .heard .chainId (.ok chain)] d₁ ∧
      d₁.Goes (.reserved nonce) d₂ ∧ d₂.Awaits ∧
      Path d₂ [.heard (.signTransaction ⟨some nonce, some contract, gas, some gasPrice, 0, data,
          some chain.toQuantity⟩ key) (.ok signed),
        .heard (.sendRawTransaction signed.raw) (.ok hash)] d₃ ∧
      d₃.Goes .committed d₄ ∧
      ∀ receipt : Receipt, receipt.isMined = true → receipt.isSuccess = true →
        Path d₄ [.heard (.transactionReceipt hash) (.ok (some receipt))] (.done (.ok hash)) := by
  have checked : Path (checkFunds key.address gas gasPrice).run
      [.heard (.balanceAt key.address none) (.ok balance)] (.done (.ok ())) := by
    refine returns_bind_iff.mpr ⟨balance, [_], [], rfl, returns_call_iff.mpr rfl, ?_⟩
    dsimp only
    rw [if_neg funds]
    exact .nil
  refine ⟨_, _, _, _, .snoc (checked.bind _) (.heard .chainId (.ok chain) _), .reserved nonce _,
    trivial, .cons (.heard (.signTransaction _ key) (.ok signed) _)
      (.single (.heard (.sendRawTransaction _) (.ok hash) _)), .committed _, ?_⟩
  intro receipt mined success
  have ends : Receipt.awaited? (.ok (some receipt)) = some (.ok receipt) := if_pos mined
  refine returns_bind_iff.mpr ⟨receipt, [_], [], rfl,
    returns_mapError_iff.mpr (.single (.awaited hash .done ends)), ?_⟩
  rw [if_pos success]
  exact .nil

def Sample.key : PrivateKey := ⟨1, by decide, by decide⟩

end PaymentChannel
