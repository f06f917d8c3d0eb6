import PaymentChannel.Proofs.Channel.Mirror
import PaymentChannel.Proofs.Contract.CallData
import PaymentChannel.Proofs.Dispute.Caseload
import PaymentChannel.Proofs.Dispute.Sendable

/-!
# The call behind a settlement

A settlement is called with the terms of two ends: for each one its address, what it has transferred
and which locks are pending.  The channel calls the ends by their roles, the call names the first
one by the account that sends it.  So the terms of an end stand behind its own address exactly if
the account is our end of the registered channel.

* `Participant.terms`, `settleData` : the terms of an end, and the call data for two of them.
* `settleData_inj` : the call data tells the terms.
* `Channel.Paired` : both ends are named, each with its own terms.
* `SentWith`, `ContractCall.execute_sent` : what was signed and sent when a contract call is carried
  out.
* `Channel.call_of_settle`, `Channel.settle_sent` : the call of a settlement of our own, and what is
  sent with it.
* `Caseload.settlement_of_returned` : the same in a run of all disputes of the account, with the
  condition for the ends to be paired.
* `Caseload.Sample.settlement_unpaired` : a settlement in which the other end is not named at all.
-/

namespace PaymentChannel

open AccountDialogue Moment

/-! ## The call data -/

/-- What a settlement says of an end: its address, and what is recorded for it. -/
def Participant.terms (p : Participant) : List Token :=
  [.address p.address, .uint p.transferredAmount, .fixedBytes p.locksroot.bytes]

/-- The call data of a settlement. -/
def settleData (first second : Participant) : Bytes :=
  ContractFunction.settleChannel.callData (first.terms ++ second.terms)

variable {p q p' q' : Participant}

theorem Participant.length_terms (p : Participant) : p.terms.length = 3 := rfl

theorem Participant.terms_typed (p q : Participant) :
    List.Forall₂ Token.HasType (p.terms ++ q.terms) ContractFunction.settleChannel.parameters :=
  .cons trivial (.cons (BitVec.isLt _) (.cons (.hash _) (.cons trivial
    (.cons (BitVec.isLt _) (.cons (.hash _) .nil)))))

/-- **The call data tells the terms** of both ends. -/
theorem settleData_inj (h : settleData p q = settleData p' q') :
    p.terms = p'.terms ∧ q.terms = q'.terms := by
  have encoding := List.append_cancel_left h
  have terms := encodeTokens_inj (p.terms_typed q) (p'.terms_typed q')
    (ContractFunction.bytes_last _) encoding
  exact List.append_inj terms (p.length_terms.trans p'.length_terms.symm)

theorem Participant.address_of_terms (h : p.terms = q.terms) : p.address = q.address := by
  have head := (List.cons.inj h).1
  exact Token.address.inj head

namespace Channel

variable {c : Channel}

/-- The call data names both ends of the channel, which differ, each with its own terms. -/
def Paired (c : Channel) (data : Bytes) : Prop :=
  c.Distinct ∧ ∃ r, data = settleData (c.party r) (c.party r.other)

/-- If the first end is named by the account, the ends are paired exactly if it is the account's. -/
theorem paired_iff {account : Address} :
    c.Paired (settleData { c.ours with address := account } c.partner) ↔
      c.Distinct ∧ account = c.ours.address := by
  refine and_congr_right fun distinct => ?_
  constructor
  · rintro ⟨r, same⟩
    obtain ⟨first, second⟩ := settleData_inj same
    have named : account = (c.party r).address := Participant.address_of_terms first
    -- The second end is named by the channel, and this tells its role.
    obtain rfl : Role.ours = r :=
      distinct.role_eq_of_other (Participant.address_of_terms second)
    exact named
  · rintro rfl
    exact ⟨.ours, rfl⟩

end Channel

/-! ## What is sent -/

variable {moves before after : List Move} {hash : Hash} {key : PrivateKey} {data : Bytes}
  {tokenNetwork : Address}

/-- A transaction with this call data was signed with the key and taken by the node, and nothing
else was signed. -/
structure SentWith (moves : List Move) (key : PrivateKey) (data : Bytes) (hash : Hash) : Prop where
  taken : ∃ transaction signed, .heard (.signTransaction transaction key) (.ok signed) ∈ moves ∧
    .heard (.sendRawTransaction signed.raw) (.ok hash) ∈ moves
  data : ∀ transaction signer answer, .heard (.signTransaction transaction signer) answer ∈ moves →
    signer = key ∧ transaction.data = data

/-- Nothing was signed. -/
def Unsigned (moves : List Move) : Prop :=
  ∀ transaction signer answer, .heard (.signTransaction transaction signer) answer ∉ moves

theorem SentWith.frame (h : SentWith moves key data hash) (early : Unsigned before)
    (late : Unsigned after) : SentWith (before ++ (moves ++ after)) key data hash := by
  have within : moves ⊆ before ++ (moves ++ after) := fun m hm =>
    List.mem_append_right _ (List.mem_append_left _ hm)
  obtain ⟨⟨transaction, signed, signing, sending⟩, data⟩ := h
  refine ⟨⟨transaction, signed, within signing, within sending⟩, ?_⟩
  intro transaction signer answer asked
  rcases List.mem_append.mp asked with asked | asked
  · exact absurd asked (early _ _ _)
  rcases List.mem_append.mp asked with asked | asked
  · exact data transaction signer answer asked
  · exact absurd asked (late _ _ _)

theorem handover_sentWith (nonce : Amount) (transaction : TransactionRequest) (key : PrivateKey)
    (signed : SignedTransaction) (hash : Hash) :
    SentWith (handover nonce transaction key signed hash) key transaction.data hash := by
  refine ⟨⟨transaction, signed, by simp [handover], by simp [handover]⟩, ?_⟩
  intro transaction' signer answer asked
  simp only [handover, List.mem_cons, List.not_mem_nil, or_false] at asked
  rcases asked with h | h | h | h <;> cases h
  exact ⟨rfl, rfl⟩

theorem OnlyReads.unsigned (h : OnlyReads moves) : Unsigned moves := by
  intro transaction signer answer asked
  obtain ⟨_, _, ⟨⟩, reads⟩ := h _ asked
  cases reads

/-- **What is signed and sent** when a contract call is carried out is the data of that call. -/
theorem ContractCall.execute_sent {contractCall : ContractCall}
    (h : Returns (contractCall.execute key tokenNetwork) moves hash) :
    SentWith moves key (contractCall.data key.address) hash := by
  obtain ⟨before, chain, gas, gasPrice, nonce, signed, after, rfl, ready, followed⟩ := execute_inv h
  have late : Unsigned after := by
    intro transaction signer answer asked
    obtain ⟨question, follows, answers⟩ := ((follow_asks ..).path followed).2 _ asked
    rcases follows.nodeCall (answers.nodeCall rfl) with ⟨_, ⟨⟩⟩ | ⟨_, _, ⟨⟩⟩
  exact (handover_sentWith ..).frame ready.onlyReads.unsigned late

/-- An admitted settlement is followed by one call, which may be made at once. -/
theorem Channel.call_of_settle {c : Channel} {t : Transition} {sender : Address}
    {block : BlockNumber} (h : c.transition (.settle sender) block = .ok t) :
    ∃ event timeoutEnd, t.events = [event] ∧ timeoutEnd < block ∧
      event.contractCall t.channel = .ok (.settle c.identifier c.partner.address c.settlementNow
        (timeoutEnd.saturatingAdd 1)) := by
  obtain ⟨-, settled⟩ := ite_error_eq_ok_iff.mp h
  obtain ⟨-, -, ⟨timeoutEnd, ends, elapsed⟩, rfl⟩ := settle_eq_ok_iff.mp settled
  have ends' : (c.afterSettle block).settleTimeoutEnd = some timeoutEnd := ends
  exact ⟨_, timeoutEnd, rfl, elapsed, by rw [Event.contractCall, ends']⟩

/-- **What a settlement of our own is called with.** -/
theorem Channel.settle_sent {c c' : Channel} {sender : Address} {hashes : List Hash}
    (h : Returns (c.submit key (.settle sender)) moves (c', hashes)) : ∃ hash, hashes = [hash] ∧
      SentWith moves key (settleData { c.ours with address := key.address } c.partner) hash := by
  obtain ⟨block, rest, event, hash, rfl, taken, handled, rfl⟩ := Channel.submit_returns_iff.mp h
  obtain ⟨event', timeoutEnd, followed, -, made⟩ := Channel.call_of_settle taken
  obtain rfl : event = event' := List.singleton_inj.mp followed
  obtain ⟨contractCall, called, executed⟩ := Event.handle_returns_iff.mp handled
  obtain rfl := Except.ok.inj (called.symm.trans made)
  have asked : Unsigned [.heard .blockNumber (.ok block)] := by
    intro transaction signer answer mem
    cases List.mem_singleton.mp mem
  have none : Unsigned [] := fun _ _ _ => List.not_mem_nil
  have sent := (ContractCall.execute_sent executed).frame asked none
  rw [List.append_nil] at sent
  exact ⟨hash, rfl, sent⟩

/-! ## Settlements in a run -/

namespace Caseload

variable {w w' : Caseload} {log : List CaseEntry} {identifier : Hash} {s : Channel} {i : Nat}
  {config : DisputeConfig} {sender : Address} {d : Submitting} {hashes : List Hash}

/-- The account stays the same. -/
theorem key_of_run {service : DisputeService} (h : Run (fresh service) log w) :
    w.service.key = service.key := by
  induction h with
  | nil => rfl
  | snoc _ step ih =>
    cases step with
    | register hr =>
      rcases DisputeService.register_cases hr with ⟨-, rfl, -⟩ | ⟨-, same, -⟩
      · exact ih
      · exact same.trans ih
    | call _ step =>
      rcases step.value_eq with same | ⟨c, same⟩
      · exact (congrArg (·.key) same).trans ih
      · exact (congrArg (·.key) same).trans ih

/-- A settlement that is returned was sent with the terms of the channel as it is, whose ends are
those of the registered channel. -/
theorem settlement_sent (run : Run (fresh (.ofConfig key config)) log w)
    (registered : founder log identifier = some s)
    (submitting : w.task identifier i = .submitting (.settle sender) d)
    (step : Step w (.called identifier (.event (.returned i (.ok hashes)))) w') :
    ∃ c hash, w.service.channel identifier = .ok c ∧ Channel.SameTerms s c ∧ hashes = [hash] ∧
      SentWith (movesOf i (momentsOf identifier log)) key
        (settleData { c.ours with address := key.address } c.partner) hash := by
  have inv := (inv_of_run rfl run).docket registered
  obtain ⟨-, -, c, hc, path⟩ := inv.submitting submitting
  obtain ⟨attempts, -, -, stored⟩ := inv.folds
  have terms : Channel.SameTerms s c := by
    obtain rfl := Except.ok.inj (hc.symm.trans stored)
    exact s.sameTerms_run attempts
  cases step with
  | call _ step =>
    cases step with
    | conclude hi ends hr =>
      cases submitting.symm.trans hi
      rcases DisputeService.conclude_cases hr with ⟨e, ⟨⟩, -⟩ | ⟨c', found, rfl, he, rfl⟩
      cases he
      cases ends
      obtain ⟨hash, rfl, sent⟩ := Channel.settle_sent path
      have account : (w.docket identifier).value.key = key := key_of_run run
      rw [account] at sent
      exact ⟨c, hash, hc, terms, rfl, sent⟩

/-- What is known of a settlement of the account in the dispute of a registered channel. -/
structure Settled (s c : Channel) (key : PrivateKey) (moves : List Move) (data : Bytes)
    (hash : Hash) : Prop where
  /-- The ends are those of the registered channel. -/
  ends : ∀ r, (c.party r).address = (s.party r).address
  sent : SentWith moves key data hash
  /-- The account stands for our end, and the partner for the other one. -/
  call : data = settleData { c.ours with address := key.address } c.partner
  paired_iff : c.Paired data ↔ s.Distinct ∧ key.address = s.ours.address

/-- **What a settlement pairs.**  Whenever a settlement of our own is returned, its transaction
carries the terms of both ends as they are recorded.  It names the first end by the account and the
second one by the partner of the registered channel.  So the ends are paired exactly if the account
is our end of that channel. -/
theorem settlement_of_returned (run : Run (fresh (.ofConfig key config)) log w)
    (registered : founder log identifier = some s)
    (submitting : w.task identifier i = .submitting (.settle sender) d)
    (step : Step w (.called identifier (.event (.returned i (.ok hashes)))) w') :
    ∃ c data hash, w.service.channel identifier = .ok c ∧ hashes = [hash] ∧
      Settled s c key (movesOf i (momentsOf identifier log)) data hash := by
  obtain ⟨c, hash, hc, terms, rfl, sent⟩ := settlement_sent run registered submitting step
  refine ⟨c, _, hash, hc, rfl, terms.address, sent, rfl, ?_⟩
  have ours : c.ours.address = s.ours.address := terms.address .ours
  have partner : c.partner.address = s.partner.address := terms.address .partner
  rw [Channel.paired_iff, Channel.Distinct, Channel.Distinct, ours, partner]

/-- What happens on a dispute alone happens in a run of all disputes. -/
theorem Run.calls {w₀ : Caseload} {moments : List (Moment CallEvent)} {d : Docket} {init : Channel}
    (h : Run w₀ log w) (idle : w.docket identifier = .fresh w.service)
    (hc : w.service.channel identifier = .ok init)
    (run : Docket.Run identifier (.fresh w.service) moments d) :
    ∃ w', Run w₀ (log ++ moments.map (.called identifier)) w' ∧ w'.docket identifier = d := by
  induction run with
  | nil => exact ⟨w, by rwa [List.map_nil, List.append_nil], idle⟩
  | @snoc moments d d' moment run step ih =>
    obtain ⟨w', run', hd⟩ := ih
    obtain ⟨attempts, -, -, stored⟩ := (Docket.inv_of_run hc run).folds
    rw [← hd] at stored step
    refine ⟨w'.enter identifier d', ?_, docket_enter_self⟩
    rw [List.map_append, ← List.append_assoc]
    exact run'.snoc (.call stored step)

end Caseload

/-! ## Both sides of one channel -/

namespace Caseload.Sample

open PaymentChannel.Sample Docket.Sample

/-- The service of the first end, with the dispute of one channel. -/
def serving (c : Channel) : DisputeService := ⟨Sample.key, {}, [(c.identifier.channel, c)]⟩

/-- A channel that the first end can settle at block 16 is registered, and settled. -/
theorem settles {c : Channel} {t : Transition} (named : c.identifier = identifier)
    (taken : c.transition settle.change 16 = .ok t) : ∃ log w w' d,
      Run (fresh (.ofConfig Sample.key {})) log w ∧ founder log identifier.channel = some c ∧
      w.service.channel identifier.channel = .ok c ∧
      w.task identifier.channel 0 = .submitting settle.change d ∧
      Step w (.called identifier.channel (.event (.returned 0 (.ok [.zero])))) w' := by
  have here : c.identifier.channel = identifier.channel := congrArg (·.channel) named
  obtain ⟨event, timeoutEnd, followed, elapsed, called⟩ := Channel.call_of_settle taken
  obtain ⟨c', events⟩ := t
  obtain rfl : events = [event] := followed
  obtain ⟨moves, handled⟩ :=
    Event.handle_succeeds called (ContractCall.check_settle elapsed) .zero
  have submitted : Returns (c.submit Sample.key settle.change)
      (.heard .blockNumber (.ok (16 : BlockNumber)) :: moves) (c', [.zero]) :=
    Channel.submit_returns_iff.mpr ⟨16, moves, event, .zero, rfl, taken, handled, rfl⟩
  have registered : Run (fresh (.ofConfig Sample.key {})) [.registered c false] _ :=
    .single (.register rfl)
  have stored : (serving c).channel identifier.channel = .ok c := by
    rw [DisputeService.channel_eq_ok_iff, serving, here]
    exact List.lookup_cons_self
  have invoked : Docket.Run identifier.channel (.fresh (serving c))
      [.event (.invoked 0 (.submit settle.change))] _ :=
    .snoc .nil (.invoke (.submit settle.change) rfl)
  have started := invoked.snoc (.start (i := 0) (c := c) rfl rfl stored)
  have answered := started.moves Guarded.put_task submitted
  obtain ⟨w, run, hd⟩ := registered.calls rfl stored answered
  have service : w.service = serving c := congrArg (·.value) hd
  have stored' : w.service.channel identifier.channel = .ok c := service ▸ stored
  have task : w.task identifier.channel 0 = _ := (congrArg (·.task 0) hd).trans Guarded.put_task
  have founded : ∀ rest, founder ([.registered c false] ++ rest) identifier.channel = some c :=
    fun _ => List.find?_cons_of_pos (decide_eq_true here)
  exact ⟨_, w, _, _, run, founded _, stored', task, .call stored' (.conclude task (.done _) rfl)⟩

/-- The first end, which sent an update, settles the sample dispute as it has it registered. -/
theorem settlement_of_sample : ∃ log w w' d, Run (fresh (.ofConfig Sample.key {})) log w ∧
    founder log identifier.channel = some updated ∧
    w.task identifier.channel 0 = .submitting settle.change d ∧
    Step w (.called identifier.channel (.event (.returned 0 (.ok [.zero])))) w' ∧
    ∃ data hash, Settled updated updated Sample.key (movesOf 0 (momentsOf identifier.channel log))
      data hash ∧ updated.Paired data := by
  have hs : updated.Step settle.block settle.change ⟨_, _⟩ :=
    .settle .ours (by decide) ⟨15, by decide, by decide⟩
  obtain ⟨log, w, w', d, run, registered, stored, submitting, step⟩ :=
    settles rfl (hs.transition_eq (by decide))
  obtain ⟨c, data, hash, hc, -, settled⟩ :=
    settlement_of_returned run registered submitting step
  cases stored.symm.trans hc
  have paired := settled.paired_iff.mpr ⟨by decide, address_key⟩
  exact ⟨log, w, w', d, run, registered, submitting, step, data, hash, settled, paired⟩

/-- **The other end may not be named at all.**  The same channel is registered with the first end as
the partner.  Its settlement succeeds all the same, and names the first end twice, once with what is
recorded for the second one. -/
theorem settlement_unpaired : ∃ log w w' d, Run (fresh (.ofConfig Sample.key {})) log w ∧
    founder log identifier.channel = some updated.mirror ∧
    w.task identifier.channel 0 = .submitting settle.change d ∧
    Step w (.called identifier.channel (.event (.returned 0 (.ok [.zero])))) w' ∧
    (∃ hash, SentWith (movesOf 0 (momentsOf identifier.channel log)) Sample.key
      (settleData { updated.partner with address := Sample.first } updated.ours) hash) ∧
    updated.ours.address = Sample.first ∧ updated.partner.address = Sample.second ∧
    ¬updated.mirror.Paired
      (settleData { updated.partner with address := Sample.first } updated.ours) := by
  have hs : updated.mirror.Step settle.block settle.change ⟨_, _⟩ :=
    .settle .partner (by decide) ⟨15, by decide, by decide⟩
  obtain ⟨log, w, w', d, run, registered, stored, submitting, step⟩ :=
    settles rfl (hs.transition_eq (by decide))
  obtain ⟨c, hash, hc, -, -, sent⟩ := settlement_sent run registered submitting step
  cases stored.symm.trans hc
  rw [address_key] at sent
  refine ⟨log, w, w', d, run, registered, submitting, step, ⟨hash, sent⟩, rfl, rfl, ?_⟩
  intro paired
  have own := (Channel.paired_iff.mp paired).2
  exact absurd own (by decide)

end Caseload.Sample

end PaymentChannel
