import PaymentChannel.Dispute.Service
import PaymentChannel.Proofs.Account.Confirmed
import PaymentChannel.Proofs.Channel.Step

/-!
# What a step of our own has done when it succeeds

* `Event.handle_returns_iff`, `Event.handle_confirmed` : the call behind an event is carried out,
  and so it is confirmed.
* `Channel.submit_returns_iff` : the block was asked for first, the step was taken at that block,
  and the one call that followed was carried out.
* `Channel.submit_returns` : so the step is confirmed.
* `Event.handle_succeeds`, `Channel.submit_refused` : a call that can be carried out, and a step
  that the rules refuse.
-/

namespace PaymentChannel

open AccountDialogue

variable {moves : List Move} {hash : Hash} {key : PrivateKey}

theorem returns_ofTransition_iff {α : Type} {a : α} {result : Except DisputeError α} :
    Returns (ServiceDialogue.ofTransition result) moves a ↔ moves = [] ∧ result = .ok a := by
  refine path_done_iff.trans (and_congr_right fun _ => ?_)
  rw [eq_comm, mapError_eq_ok_iff]

theorem Event.handle_returns_iff {tokenNetwork : Address} {channel : Channel} {event : Event} :
    Returns (event.handle key tokenNetwork channel) moves hash ↔
      ∃ contractCall, event.contractCall channel = .ok contractCall ∧
        Returns (contractCall.execute key tokenNetwork) moves hash := by
  refine returns_bind_iff.trans ⟨?_, ?_⟩
  · rintro ⟨contractCall, _, _, rfl, called, executed⟩
    obtain ⟨rfl, hc⟩ := returns_ofExcept_iff.mp called
    exact ⟨contractCall, hc, executed⟩
  · rintro ⟨contractCall, hc, executed⟩
    exact ⟨contractCall, [], moves, rfl, returns_ofExcept_iff.mpr ⟨rfl, hc⟩, executed⟩

theorem Event.handle_confirmed {tokenNetwork : Address} {channel : Channel} {event : Event}
    (h : Returns (event.handle key tokenNetwork channel) moves hash) : Confirmed moves hash := by
  obtain ⟨contractCall, -, executed⟩ := Event.handle_returns_iff.mp h
  exact ContractCall.execute_confirmed executed

theorem returns_mapM_singleton_iff {ε α β : Type} {f : α → ExceptT ε AccountDialogue β} {a : α}
    {bs : List β} : Returns ([a].mapM f) moves bs ↔ ∃ b, Returns (f a) moves b ∧ bs = [b] := by
  rw [List.mapM_cons]
  refine returns_bind_iff.trans ⟨?_, ?_⟩
  · rintro ⟨b, _, _, rfl, first, h⟩
    obtain ⟨none, _, _, rfl, hnone, h'⟩ := returns_bind_iff.mp h
    rw [List.mapM_nil] at hnone
    obtain ⟨rfl, rfl⟩ := returns_pure_iff.mp hnone
    obtain ⟨rfl, rfl⟩ := returns_pure_iff.mp h'
    exact ⟨b, by rwa [List.append_nil, List.append_nil], rfl⟩
  · rintro ⟨b, first, rfl⟩
    exact ⟨b, moves, [], (List.append_nil _).symm, first,
      returns_bind_iff.mpr ⟨[], [], [], rfl, .nil, .nil⟩⟩

/-- **When a step of our own succeeds.**  It was taken at the block that the node reported, and the
call that follows from it was carried out. -/
theorem Channel.submit_returns_iff {c c' : Channel} {change : StateChange} {hashes : List Hash} :
    Returns (c.submit key change) moves (c', hashes) ↔ ∃ (block : BlockNumber) (rest : List Move)
      (event : Event) (hash : Hash), moves = .heard .blockNumber (.ok block) :: rest ∧
        c.transition change block = .ok ⟨c', [event]⟩ ∧
        Returns (event.handle key c.identifier.tokenNetwork c') rest hash ∧ hashes = [hash] := by
  constructor
  · intro h
    obtain ⟨block, _, _, rfl, asked, h₁⟩ := returns_bind_iff.mp h
    obtain ⟨⟨after, events⟩, _, _, rfl, stepped, h₂⟩ := returns_bind_iff.mp h₁
    obtain ⟨found, handling, _, rfl, handled, h₃⟩ := returns_bind_iff.mp h₂
    obtain rfl := returns_call_iff.mp (returns_mapError_iff.mp asked)
    obtain ⟨rfl, accepted⟩ := returns_ofTransition_iff.mp stepped
    obtain ⟨rfl, he⟩ := returns_pure_iff.mp h₃
    cases he
    obtain ⟨event, rfl⟩ : ∃ event, events = [event] := event_of_transition accepted
    obtain ⟨hash, sent, rfl⟩ := returns_mapM_singleton_iff.mp handled
    refine ⟨block, handling, event, hash, ?_, accepted, returns_mapError_iff.mp sent, rfl⟩
    rw [List.append_nil]
    rfl
  · rintro ⟨block, rest, event, hash, rfl, accepted, handled, rfl⟩
    have asked : Returns (ServiceDialogue.ofSubmission (Submission.call .blockNumber))
        [.heard .blockNumber (.ok block)] block :=
      returns_mapError_iff.mpr (returns_call_iff.mpr rfl)
    exact returns_bind_iff.mpr ⟨block, _, rest, rfl, asked,
      returns_bind_iff.mpr ⟨_, [], rest, rfl, returns_ofTransition_iff.mpr ⟨rfl, accepted⟩,
        returns_bind_iff.mpr ⟨[hash], rest, [], (List.append_nil _).symm,
          returns_mapM_singleton_iff.mpr ⟨hash, returns_mapError_iff.mpr handled, rfl⟩, .nil⟩⟩⟩

/-- A step of our own that succeeds was taken at the reported block, and its one transaction is
confirmed. -/
theorem Channel.submit_returns {c c' : Channel} {change : StateChange} {hashes : List Hash}
    (h : Returns (c.submit key change) moves (c', hashes)) :
    ∃ block rest t, moves = .heard .blockNumber (.ok block) :: rest ∧
      c.transition change block = .ok t ∧ c' = t.channel ∧
        ∃ hash, hashes = [hash] ∧ Confirmed moves hash := by
  obtain ⟨block, rest, event, hash, rfl, accepted, handled, rfl⟩ := submit_returns_iff.mp h
  have confirmed : Confirmed rest hash := Event.handle_confirmed handled
  exact ⟨block, rest, _, rfl, accepted, rfl, hash, rfl,
    confirmed.mono (List.subset_cons_self _ _)⟩

/-! ## It can succeed -/

theorem Event.handle_succeeds {tokenNetwork : Address} {channel : Channel} {event : Event}
    {contractCall : ContractCall} {chain : ChainId} {block : BlockNumber}
    (hc : event.contractCall channel = .ok contractCall)
    (h : contractCall.check key.address tokenNetwork chain block = .ok ()) (hash : Hash) :
    ∃ moves, Returns (event.handle key tokenNetwork channel) moves hash := by
  have mined : (Receipt.mk hash (some 0) (some 1)).isMined = true := rfl
  obtain ⟨transaction, executed⟩ := ContractCall.execute_carriedOut
    (ContractCall.check_eq_ok_iff.mp h) 0 ⟨.zero, 0, .zero, .zero, [], .zero⟩ hash mined rfl
  exact ⟨_, Event.handle_returns_iff.mpr ⟨contractCall, hc, executed⟩⟩

/-- A step that the rules refuse sends nothing. -/
theorem Channel.submit_refused {c : Channel} {change : StateChange} {block : BlockNumber}
    {e : DisputeError} (h : c.transition change block = .error e) :
    Path (c.submit key change).run [.heard .blockNumber (.ok block)]
      (.done (.error (.transition e))) := by
  have asked : Returns (ServiceDialogue.ofSubmission (Submission.call .blockNumber))
      [.heard .blockNumber (.ok block)] block :=
    returns_mapError_iff.mpr (returns_call_iff.mpr rfl)
  refine Path.bind_done_iff.mpr ⟨.ok block, _, [], rfl, asked, ?_⟩
  simp only [ExceptT.bindCont, h]
  exact .nil

end PaymentChannel
