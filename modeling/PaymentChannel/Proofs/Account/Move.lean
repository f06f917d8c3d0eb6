import PaymentChannel.Account.Submission

/-!
# Moves of an account dialogue

A dialogue meets the world one move at a time: an answer of the node, or something done with the
nonce.  What the node answers is not restricted.  The wait for a receipt takes as many moves as the
node is asked for it.

* `Move`, `AccountDialogue.Goes` : a move, and what it makes of a dialogue.
* `AccountDialogue.Path` : the moves so far.
* `AccountDialogue.Awaits` : a dialogue that waits, and so can be dropped.
* `AccountDialogue.Path.bind_inv` : a path through two parts is a path through each.
* `AccountDialogue.Returns` : a path to a result that is not an error, with one lemma for each form
  of a submission.
-/

namespace PaymentChannel

inductive Move where
  | heard (nodeCall : NodeCall) (answer : NodeAnswer nodeCall.Answer)
  | reserved (nonce : Amount)
  | committed
  | released

namespace AccountDialogue

variable {ε α β : Type} {d d' e : AccountDialogue α} {f : α → AccountDialogue β} {m : Move}
  {moves : List Move}

inductive Goes : AccountDialogue α → Move → AccountDialogue α → Prop
  | heard (nodeCall : NodeCall) (answer : NodeAnswer nodeCall.Answer)
      (next : NodeAnswer nodeCall.Answer → AccountDialogue α) :
      Goes (.ask (.call nodeCall) next) (.heard nodeCall answer) (next answer)
  | polled {answer : NodeAnswer (Option Receipt)} (hash : Hash)
      (next : NodeAnswer Receipt → AccountDialogue α) (h : Receipt.awaited? answer = none) :
      Goes (.ask (.awaitReceipt hash) next) (.heard (.transactionReceipt hash) answer)
        (.ask (.awaitReceipt hash) next)
  | awaited {answer : NodeAnswer (Option Receipt)} {result : NodeAnswer Receipt} (hash : Hash)
      (next : NodeAnswer Receipt → AccountDialogue α) (h : Receipt.awaited? answer = some result) :
      Goes (.ask (.awaitReceipt hash) next) (.heard (.transactionReceipt hash) answer) (next result)
  | reserved (nonce : Amount) (next : Amount → AccountDialogue α) :
      Goes (.ask .reserveNonce next) (.reserved nonce) (next nonce)
  | committed (next : Unit → AccountDialogue α) :
      Goes (.ask .commitNonce next) .committed (next ())
  | released (next : Unit → AccountDialogue α) :
      Goes (.ask .releaseNonce next) .released (next ())

/-- The nonce is committed or released at once.  Everything else may take time. -/
def Awaits : AccountDialogue α → Prop
  | .ask (.call _) _ | .ask (.awaitReceipt _) _ | .ask .reserveNonce _ => True
  | _ => False

/-- The moves that lead from one dialogue to another. -/
inductive Path (d : AccountDialogue α) : List Move → AccountDialogue α → Prop
  | nil : Path d [] d
  | snoc {moves m e e'} (path : Path d moves e) (goes : Goes e m e') : Path d (moves ++ [m]) e'

/-! ## Two parts -/

theorem Goes.bind (h : Goes d m e) (f : α → AccountDialogue β) :
    Goes (d.bind f) m (e.bind f) := by
  cases h with
  | heard | reserved | committed | released => constructor
  | polled hash next h => exact .polled hash _ h
  | awaited hash next h => exact .awaited hash _ h

theorem Goes.bind_inv {e : AccountDialogue β} (h : Goes (d.bind f) m e) :
    (∃ a, d = .done a) ∨ ∃ d', Goes d m d' ∧ e = d'.bind f := by
  cases d with
  | done a => exact Or.inl ⟨a, rfl⟩
  | ask question next =>
    right
    rw [Dialogue.bind] at h
    cases h with
    | heard nodeCall answer => exact ⟨_, .heard nodeCall answer next, rfl⟩
    | polled hash _ h => exact ⟨_, .polled hash next h, rfl⟩
    | awaited hash _ h => exact ⟨_, .awaited hash next h, rfl⟩
    | reserved nonce => exact ⟨_, .reserved nonce next, rfl⟩
    | committed => exact ⟨_, .committed next, rfl⟩
    | released => exact ⟨_, .released next, rfl⟩

namespace Path

theorem single (h : Goes d m e) : Path d [m] e := .snoc .nil h

theorem append {before after : List Move} (h : Path d before d') (g : Path d' after e) :
    Path d (before ++ after) e := by
  induction g with
  | nil => rwa [List.append_nil]
  | snoc _ goes ih =>
    rw [← List.append_assoc]
    exact .snoc ih goes

theorem cons (h : Goes d m d') (g : Path d' moves e) : Path d (m :: moves) e :=
  (single h).append g

theorem cases_first (h : Path d moves e) :
    moves = [] ∧ e = d ∨ ∃ m rest d', moves = m :: rest ∧ Goes d m d' ∧ Path d' rest e := by
  induction h with
  | nil => exact Or.inl ⟨rfl, rfl⟩
  | snoc path goes ih =>
    right
    rcases ih with ⟨rfl, rfl⟩ | ⟨m, rest, d', rfl, first, path⟩
    · exact ⟨_, [], _, rfl, goes, .nil⟩
    · exact ⟨m, _, d', rfl, first, .snoc path goes⟩

theorem single_inv (h : Path d [m] e) : Goes d m e := by
  rcases h.cases_first with ⟨he, -⟩ | ⟨_, _, d', he, goes, rest⟩
  · cases he
  · cases he
    rcases rest.cases_first with ⟨-, rfl⟩ | ⟨_, _, _, he, -⟩
    · exact goes
    · cases he

theorem done_inv {a : α} (h : Path (.done a) moves e) : moves = [] ∧ e = .done a := by
  rcases h.cases_first with h | ⟨_, _, _, _, goes, _⟩
  · exact h
  · cases goes

theorem bind (h : Path d moves e) (f : α → AccountDialogue β) :
    Path (d.bind f) moves (e.bind f) := by
  induction h with
  | nil => exact .nil
  | snoc _ goes ih => exact .snoc ih (goes.bind f)

/-- **A path through two parts.**  It ends in the first part, or the first part is done. -/
theorem bind_inv {e : AccountDialogue β} (h : Path (d.bind f) moves e) :
    (∃ d', Path d moves d' ∧ e = d'.bind f) ∨
      ∃ a before after, moves = before ++ after ∧ Path d before (.done a) ∧ Path (f a) after e := by
  induction h with
  | nil => exact Or.inl ⟨d, .nil, rfl⟩
  | snoc _ goes ih =>
    rcases ih with ⟨d', path, rfl⟩ | ⟨a, before, after, rfl, first, second⟩
    · rcases goes.bind_inv with ⟨a, rfl⟩ | ⟨d'', goes', rfl⟩
      · exact Or.inr ⟨a, _, _, rfl, path, .single goes⟩
      · exact Or.inl ⟨d'', .snoc path goes', rfl⟩
    · exact Or.inr ⟨a, before, _, List.append_assoc .., first, .snoc second goes⟩

theorem bind_done_iff {b : β} : Path (d.bind f) moves (.done b) ↔
    ∃ a before after,
      moves = before ++ after ∧ Path d before (.done a) ∧ Path (f a) after (.done b) := by
  constructor
  · intro h
    rcases h.bind_inv with ⟨d', path, he⟩ | h
    · cases d' with
      | done a =>
        rw [Dialogue.bind] at he
        exact ⟨a, moves, [], (List.append_nil _).symm, path, he ▸ .nil⟩
      | ask => cases he
    · exact h
  · rintro ⟨a, before, after, rfl, first, second⟩
    exact (first.bind f).append second

end Path

/-! ## Results -/

/-- The moves lead to a result that is not an error. -/
def Returns (x : ExceptT ε AccountDialogue α) (moves : List Move) (a : α) : Prop :=
  Path x.run moves (.done (.ok a))

section Returns

variable {x : ExceptT ε AccountDialogue α} {k : α → ExceptT ε AccountDialogue β}

theorem path_done_iff {a b : α} : Path (.done a) moves (.done b) ↔ moves = [] ∧ b = a := by
  constructor
  · intro h
    obtain ⟨rfl, he⟩ := h.done_inv
    exact ⟨rfl, (Dialogue.done.inj he)⟩
  · rintro ⟨rfl, rfl⟩
    exact .nil

theorem returns_bind_iff {b : β} : Returns (x >>= k) moves b ↔
    ∃ a before after, moves = before ++ after ∧ Returns x before a ∧ Returns (k a) after b := by
  refine Path.bind_done_iff.trans ⟨?_, ?_⟩
  · rintro ⟨a | a, before, after, he, first, second⟩
    · cases (path_done_iff.mp second).2
    · exact ⟨a, before, after, he, first, second⟩
  · rintro ⟨a, before, after, he, first, second⟩
    exact ⟨.ok a, before, after, he, first, second⟩

theorem returns_pure_iff {a b : α} :
    Returns (pure a : ExceptT ε AccountDialogue α) moves b ↔ moves = [] ∧ b = a := by
  refine path_done_iff.trans (and_congr_right fun _ => ?_)
  exact Except.ok.injEq b a ▸ Iff.rfl

theorem returns_lift_iff {a : α} {dialogue : AccountDialogue α} :
    Returns (ExceptT.lift dialogue : ExceptT ε AccountDialogue α) moves a ↔
      Path dialogue moves (.done a) := by
  refine Path.bind_done_iff.trans ⟨?_, ?_⟩
  · rintro ⟨b, before, after, rfl, first, second⟩
    obtain ⟨rfl, he⟩ := path_done_iff.mp second
    cases he
    rwa [List.append_nil]
  · intro h
    exact ⟨a, moves, [], (List.append_nil _).symm, h, .nil⟩

theorem returns_ofExcept_iff {a : α} {result : Except TransactionError α} :
    Returns (Submission.ofExcept result) moves a ↔ moves = [] ∧ result = .ok a :=
  path_done_iff.trans (and_congr_right fun _ => eq_comm)

/-- A change of the error does not change the result. -/
theorem returns_mapError_iff {ε' : Type} {a : α} {g : ε' → ε}
    {dialogue : AccountDialogue (Except ε' α)} :
    Returns (ExceptT.mk do return (← dialogue).mapError g) moves a ↔
      Path dialogue moves (.done (.ok a)) := by
  refine Path.bind_done_iff.trans ⟨?_, ?_⟩
  · rintro ⟨b | b, before, after, rfl, first, second⟩
    · cases (path_done_iff.mp second).2
    · obtain ⟨rfl, he⟩ := path_done_iff.mp second
      cases he
      rwa [List.append_nil]
  · intro h
    exact ⟨.ok a, moves, [], (List.append_nil _).symm, h, .nil⟩

theorem path_call_iff {nodeCall : NodeCall} {answer : NodeAnswer nodeCall.Answer} :
    Path (call nodeCall) moves (.done answer) ↔ moves = [.heard nodeCall answer] := by
  constructor
  · intro h
    rcases h.cases_first with ⟨_, he⟩ | ⟨_, _, _, rfl, goes, rest⟩
    · cases he
    · cases goes
      obtain ⟨rfl, he⟩ := path_done_iff.mp rest
      rw [he]
  · rintro rfl
    exact .single (.heard nodeCall answer .done)

theorem returns_call_iff {nodeCall : NodeCall} {answer : nodeCall.Answer} :
    Returns (Submission.call nodeCall) moves answer ↔ moves = [.heard nodeCall (.ok answer)] :=
  returns_mapError_iff.trans path_call_iff

end Returns

end AccountDialogue

end PaymentChannel
