import PaymentChannel.Proofs.ByteForms
import PaymentChannel.Proofs.Channel.Run
import PaymentChannel.Proofs.Json.Text
import PaymentChannel.Proofs.TextForms

/-!
# JSON forms lose nothing

* `Lossless` : a value whose JSON form reads back and has a text.
* `Fields.Reads` : what a reader gives for the members of an object, with one lemma for each way to
  build a reader.
* `ChainId.Narrow` : a chain that goes by a 64-bit number.  Only the last 64 bits of a chain's number
  are written, so that no other chain reads back.
* `Channel.chains`, `StateChange.chains`, `Event.chains` : the chains that a form names.
* `forms_lossless` : **channels, steps and calls read back from their texts**, if their chains are
  narrow.
-/

namespace PaymentChannel

variable {α β : Type}

structure Lossless [Codec α] (a : α) : Prop where
  decode_encode : decode (encode a) = .ok a
  textual : (encode a).Textual

theorem Lossless.parse [Codec α] {a : α} (h : Lossless a) :
    (Json.parse? (encode a).render).map decode = some (.ok a : Decoded α) := by
  rw [h.textual.parse?_render, Option.map_some, h.decode_encode]

/-! ## Readers of members -/

namespace Fields

variable {members : List (String × Json)} {fields : Fields α} {a : α}

/-- The reader gives the value for the members. -/
def Reads (fields : Fields α) (members : List (String × Json)) (a : α) : Prop :=
  fields.read members = .ok a

theorem Reads.seq {f : Fields (α → β)} {g : α → β} (hf : f.Reads members g)
    (h : fields.Reads members a) : (f <*> fields).Reads members (g a) := by
  rw [Reads] at hf h
  show (f.apply fields).read members = .ok (g a)
  simp only [apply, hf, h]

theorem Reads.map (f : α → β) (h : fields.Reads members a) : (f <$> fields).Reads members (f a) :=
  Reads.seq (f := pure f) rfl h

theorem Reads.member [Codec α] {name : String} (present : members.lookup name = some (encode a))
    (h : Lossless a) : (Fields.member name : Fields α).Reads members a := by
  rw [Reads, Fields.member, memberBy]
  simp only [present, Option.getD_some, h.decode_encode]

theorem Reads.run (h : fields.Reads members a) : fields.run (.object members) = .ok a := by
  rw [Fields.run, h]

end Fields

open Fields

/-! ## Texts -/

@[simp] theorem Quantity.lossless (q : Quantity) : Lossless q where
  decode_encode := by simp [encode, decode, ofText?_text]
  textual := .string _

@[simp] theorem Amount.lossless (a : Amount) : Lossless a where
  decode_encode := by simp [encode, decode, ofHex?_markedNat, Decoded.ofOption]
  textual := .string _

@[simp] theorem Hash.lossless (h : Hash) : Lossless h where
  decode_encode := by
    simp [encode, decode, text, Hex.fixedBytes?_marked h.length_bytes, Decoded.ofOption]
  textual := .string _

@[simp] theorem Address.lossless (a : Address) : Lossless a where
  decode_encode := by
    simp [encode, decode, text, Hex.fixedBytes?_marked a.length_bytes, Decoded.ofOption]
  textual := .string _

@[simp] theorem Bytes.lossless (bytes : Bytes) : Lossless bytes where
  decode_encode := by
    simp [encode, decode, Hex.marked, Hex.toBytes?_ofBytes, Decoded.ofOption]
  textual := .string _

/-- The chain goes by a 64-bit number. -/
def ChainId.Narrow (chain : ChainId) : Prop := ∃ q, chain = ofQuantity q

theorem ChainId.toAmount_ofQuantity (q : Quantity) : (ofQuantity q).toAmount = .ofQuantity q := by
  unfold ofQuantity
  split
  · next h => rw [h]; rfl
  split
  · next h => rw [h]; rfl
  split
  · next h => rw [h]; rfl
  · rfl

theorem ChainId.toQuantity_ofQuantity (q : Quantity) : (ofQuantity q).toQuantity = q := by
  rw [toQuantity, toAmount_ofQuantity, Amount.lowQuantity, Amount.toNat_ofQuantity,
    UInt64.ofNat_toNat]

theorem ChainId.decode_encode (chain : ChainId) :
    decode (encode chain) = .ok (ofQuantity chain.toQuantity) := by
  simp [encode, decode, ofText?_text]

theorem ChainId.lossless_iff {chain : ChainId} : Lossless chain ↔ chain.Narrow := by
  constructor
  · intro h
    have same := chain.decode_encode.symm.trans h.decode_encode
    exact ⟨chain.toQuantity, (Except.ok.inj same).symm⟩
  · rintro ⟨q, rfl⟩
    exact ⟨by rw [decode_encode, toQuantity_ofQuantity], .string _⟩

@[simp] theorem Side.lossless (side : Side) : Lossless side := by
  cases side <;> exact ⟨rfl, .string _⟩

@[simp] theorem TransactionOutcome.lossless (outcome : TransactionOutcome) : Lossless outcome := by
  cases outcome <;> exact ⟨rfl, .string _⟩

/-! ## Options and lists -/

theorem Lossless.option [Codec α] {o : Option α} (h : ∀ a ∈ o, Lossless a)
    (present : ∀ a : α, encode a ≠ .null) : Lossless o := by
  cases o with
  | none => exact ⟨rfl, .null⟩
  | some a =>
    have ha := h a rfl
    have hd := ha.decode_encode
    refine ⟨?_, ha.textual⟩
    show decode (encode a) = .ok (some a)
    cases he : encode a with
    | null => exact absurd he (present a)
    | bool | natural | otherNumber | string | array | object =>
      rw [he] at hd
      show (decode _).map some = .ok (some a)
      rw [hd]
      rfl

theorem Lossless.list [Codec α] {l : List α} (h : ∀ a ∈ l, Lossless a) : Lossless l where
  decode_encode := by
    show (l.map encode).mapM decode = Except.ok l
    induction l with
    | nil => rfl
    | cons a l ih =>
      have ha := (h a List.mem_cons_self).decode_encode
      have hl := ih fun a hm => h a (List.mem_cons_of_mem _ hm)
      rw [List.map_cons, List.mapM_cons, ha, hl]
      rfl
  textual := by
    refine .array fun json hj => ?_
    obtain ⟨a, ha, rfl⟩ := List.mem_map.mp hj
    exact (h a ha).textual

/-! ## Records -/

theorem Fields.Reads.lossless [Codec α] {members : List (String × Json)} {fields : Fields α} {a : α}
    (h : fields.Reads members a) (he : encode a = .object members)
    (hd : decode (.object members) = fields.run (.object members))
    (distinct : (members.map (·.1)).Nodup) (textual : ∀ m ∈ members, m.2.Textual) : Lossless a where
  decode_encode := by rw [he, hd, h.run]
  textual := he ▸ .object distinct textual

theorem CanonicalIdentifier.lossless {identifier : CanonicalIdentifier}
    (h : identifier.chain.Narrow) : Lossless identifier := by
  obtain ⟨chain, tokenNetwork, channel⟩ := identifier
  have hc := ChainId.lossless_iff.mpr h
  refine Reads.lossless ?_ rfl rfl (by simp) ?_
  · exact .seq (.seq (.map _ (.member rfl hc)) (.member rfl tokenNetwork.lossless))
      (.member rfl channel.lossless)
  · simp [Lossless.textual, hc]

@[simp] theorem ProofElement.lossless (element : ProofElement) : Lossless element := by
  obtain ⟨hash, position⟩ := element
  refine Reads.lossless ?_ rfl rfl (by simp) ?_
  · exact .seq (.map _ (.member rfl hash.lossless)) (.member rfl position.lossless)
  · simp [Lossless.textual]

theorem signature_lossless (signature : Option Bytes) : Lossless signature :=
  .option (fun _ _ => Bytes.lossless _) fun _ => (nomatch ·)

theorem block_lossless (block : Option BlockNumber) : Lossless block :=
  .option (fun _ _ => Quantity.lossless _) fun _ => (nomatch ·)

theorem address_lossless (address : Option Address) : Lossless address :=
  .option (fun _ _ => Address.lossless _) fun _ => (nomatch ·)

@[simp] theorem Lock.lossless (lock : Lock) : Lossless lock := by
  obtain ⟨amount, expiration, secretHash, secret, encoded⟩ := lock
  refine Reads.lossless ?_ rfl rfl (by simp) ?_
  · exact .seq (.seq (.seq (.seq (.map _ (.member rfl (Amount.lossless amount)))
      (.member rfl (Quantity.lossless expiration))) (.member rfl secretHash.lossless))
      (.member rfl (signature_lossless secret))) (.member rfl (Bytes.lossless encoded))
  · simp [Lossless.textual, signature_lossless]

theorem BalanceProof.lossless {proof : BalanceProof} (h : proof.identifier.chain.Narrow) :
    Lossless proof := by
  obtain ⟨nonce, transferredAmount, locksroot, additionalHash, identifier, openBlock, signature,
    sender⟩ := proof
  have named := CanonicalIdentifier.lossless h
  have signed := signature_lossless signature
  have sent := address_lossless sender
  refine Reads.lossless ?_ rfl rfl (by simp) ?_
  · exact .seq (.seq (.seq (.seq (.seq (.seq (.seq (.map _ (.member rfl (Quantity.lossless nonce)))
      (.member rfl (Amount.lossless transferredAmount))) (.member rfl locksroot.lossless))
      (.member rfl additionalHash.lossless)) (.member rfl named))
      (.member rfl (Quantity.lossless openBlock))) (.member rfl signed)) (.member rfl sent)
  · simp [Lossless.textual, named, signed, sent]

theorem PunishRequest.lossless {request : PunishRequest} (h : request.identifier.chain.Narrow) :
    Lossless request := by
  obtain ⟨identifier, openBlock, beneficiary, lockHash, additionalHash, merkleProof, signature⟩ :=
    request
  have named := CanonicalIdentifier.lossless h
  have proven : Lossless merkleProof := .list fun element _ => element.lossless
  have signed := signature_lossless signature
  refine Reads.lossless ?_ rfl rfl (by simp) ?_
  · exact .seq (.seq (.seq (.seq (.seq (.seq (.map _ (.member rfl named))
      (.member rfl (Quantity.lossless openBlock))) (.member rfl beneficiary.lossless))
      (.member rfl lockHash.lossless)) (.member rfl additionalHash.lossless))
      (.member rfl proven)) (.member rfl signed)
  · simp [Lossless.textual, named, proven, signed]

@[simp] theorem TransactionStatus.lossless (status : TransactionStatus) : Lossless status := by
  obtain ⟨startedBlock, finishedBlock, outcome⟩ := status
  have ended : Lossless outcome :=
    .option (fun outcome _ => outcome.lossless) fun outcome => by cases outcome <;> exact (nomatch ·)
  refine Reads.lossless ?_ rfl rfl (by simp) ?_
  · exact .seq (.seq (.map _ (.member rfl (block_lossless startedBlock)))
      (.member rfl (block_lossless finishedBlock))) (.member rfl ended)
  · simp [Lossless.textual, block_lossless, ended]

@[simp] theorem Punishment.lossless (punishment : Punishment) : Lossless punishment := by
  obtain ⟨beneficiary, cheater, lockHash, locksroot, amount, block⟩ := punishment
  refine Reads.lossless ?_ rfl rfl (by simp) ?_
  · exact .seq (.seq (.seq (.seq (.seq (.map _ (.member rfl beneficiary.lossless))
      (.member rfl cheater.lossless)) (.member rfl lockHash.lossless))
      (.member rfl locksroot.lossless)) (.member rfl (Amount.lossless amount)))
      (.member rfl (Quantity.lossless block))
  · simp [Lossless.textual]

@[simp] theorem Settlement.lossless (settlement : Settlement) : Lossless settlement := by
  obtain ⟨ourTransferred, ourRoot, ourBalance, partnerTransferred, partnerRoot, partnerBalance⟩ :=
    settlement
  refine Reads.lossless ?_ rfl rfl (by simp) ?_
  · exact .seq (.seq (.seq (.seq (.seq (.map _ (.member rfl (Amount.lossless ourTransferred)))
      (.member rfl ourRoot.lossless)) (.member rfl (Amount.lossless ourBalance)))
      (.member rfl (Amount.lossless partnerTransferred))) (.member rfl partnerRoot.lossless))
      (.member rfl (Amount.lossless partnerBalance))
  · simp [Lossless.textual]

/-! ## Channels, steps and calls -/

theorem evidence_lossless {proof : Option BalanceProof}
    (h : ∀ p ∈ proof, p.identifier.chain.Narrow) : Lossless proof :=
  .option (fun p hp => BalanceProof.lossless (h p hp)) fun _ => (nomatch ·)

theorem status_lossless (status : Option TransactionStatus) : Lossless status :=
  .option (fun status _ => status.lossless) fun _ => (nomatch ·)

/-- The chains that the recorded evidence names. -/
def Participant.chains (participant : Participant) : List ChainId :=
  participant.balanceProof.toList.map (·.identifier.chain)

/-- The chains that the state of a channel names. -/
def Channel.chains (channel : Channel) : List ChainId :=
  channel.identifier.chain :: (channel.ours.chains ++ channel.partner.chains)

/-- The chains that a step names. -/
def StateChange.chains : StateChange → List ChainId
  | close _ proof => proof.toList.map (·.identifier.chain)
  | update _ proof => [proof.identifier.chain]
  | punish _ request _ => [request.identifier.chain]
  | settle _ => []

/-- The chains that a call names. -/
def Event.chains : Event → List ChainId
  | sendClose _ identifier _ proof => identifier.chain :: proof.toList.map (·.identifier.chain)
  | sendUpdate _ identifier _ proof => [identifier.chain, proof.identifier.chain]
  | sendPunish _ identifier .. => [identifier.chain]
  | sendSettle _ identifier .. => [identifier.chain]

theorem Participant.lossless {participant : Participant}
    (h : ∀ chain ∈ participant.chains, chain.Narrow) : Lossless participant := by
  obtain ⟨address, deposit, balanceProof, updateBlock⟩ := participant
  have proven : Lossless balanceProof := evidence_lossless (by simpa [chains] using h)
  refine Reads.lossless ?_ rfl rfl (by simp) ?_
  · exact .seq (.seq (.seq (.map _ (.member rfl address.lossless))
      (.member rfl (Amount.lossless deposit))) (.member rfl proven))
      (.member rfl (block_lossless updateBlock))
  · simp [Lossless.textual, proven, block_lossless]

theorem Channel.lossless {channel : Channel} (h : ∀ chain ∈ channel.chains, chain.Narrow) :
    Lossless channel := by
  obtain ⟨identifier, openBlock, settleTimeout, punishWindow, ours, partner, closingParticipant,
    closeTransaction, updateTransaction, settleTransaction, punishments, settlement⟩ := channel
  have named : Lossless identifier := CanonicalIdentifier.lossless (h _ (by simp [chains]))
  have our : Lossless ours := Participant.lossless fun chain hc => h chain (by simp [chains, hc])
  have their : Lossless partner :=
    Participant.lossless fun chain hc => h chain (by simp [chains, hc])
  have closing := address_lossless closingParticipant
  have punished : Lossless punishments := .list fun punishment _ => punishment.lossless
  have settled : Lossless settlement :=
    .option (fun settlement _ => settlement.lossless) fun _ => (nomatch ·)
  refine Reads.lossless ?_ rfl rfl (by simp) ?_
  · exact .seq (.seq (.seq (.seq (.seq (.seq (.seq (.seq (.seq (.seq (.seq (.map _
      (.member rfl named)) (.member rfl (Quantity.lossless openBlock)))
      (.member rfl (Quantity.lossless settleTimeout)))
      (.member rfl (Quantity.lossless punishWindow))) (.member rfl our)) (.member rfl their))
      (.member rfl closing)) (.member rfl (status_lossless closeTransaction)))
      (.member rfl (status_lossless updateTransaction)))
      (.member rfl (status_lossless settleTransaction))) (.member rfl punished))
      (.member rfl settled)
  · simp [Lossless.textual, named, our, their, closing, status_lossless, punished, settled]

theorem StateChange.lossless {change : StateChange} (h : ∀ chain ∈ change.chains, chain.Narrow) :
    Lossless change := by
  cases change with
  | close sender proof =>
    have proven : Lossless proof := evidence_lossless (by simpa [chains] using h)
    refine Reads.lossless ?_ rfl rfl (by simp) ?_
    · exact .seq (.map _ (.member rfl sender.lossless)) (.member rfl proven)
    · simp [Lossless.textual, Json.Textual.string, proven]
  | update sender proof =>
    have proven : Lossless proof := BalanceProof.lossless (by simpa [chains] using h)
    refine Reads.lossless ?_ rfl rfl (by simp) ?_
    · exact .seq (.map _ (.member rfl sender.lossless)) (.member rfl proven)
    · simp [Lossless.textual, Json.Textual.string, proven]
  | punish sender request lock =>
    have declared : Lossless request := PunishRequest.lossless (by simpa [chains] using h)
    refine Reads.lossless ?_ rfl rfl (by simp) ?_
    · exact .seq (.seq (.map _ (.member rfl sender.lossless)) (.member rfl declared))
        (.member rfl lock.lossless)
    · simp [Lossless.textual, Json.Textual.string, declared]
  | settle sender =>
    refine Reads.lossless ?_ rfl rfl (by simp) ?_
    · exact .map _ (.member rfl sender.lossless)
    · simp [Lossless.textual, Json.Textual.string]

theorem Event.Trigger.lossless (trigger : Trigger) : Lossless trigger := by
  refine Reads.lossless (.map _ (.member rfl (Quantity.lossless trigger.block))) rfl rfl ?_ ?_
  · simp
  · simp [Lossless.textual]

/-- A call is the only member of an object, so that what its members read as is what it reads as. -/
theorem Fields.Reads.event {members : List (String × Json)} {fields : Fields Event} {event : Event}
    (h : fields.Reads members event) (he : encode event = .object [(event.typeName, .object members)])
    (hd : decode (encode event) = fields.run (.object members))
    (distinct : (members.map (·.1)).Nodup) (textual : ∀ m ∈ members, m.2.Textual) :
    Lossless event where
  decode_encode := hd.trans h.run
  textual := by
    rw [he]
    refine .object (List.nodup_singleton _) fun m hm => ?_
    rw [List.mem_singleton.mp hm]
    exact .object distinct textual

theorem Event.lossless {event : Event} (h : ∀ chain ∈ event.chains, chain.Narrow) :
    Lossless event := by
  cases event with
  | sendClose block identifier partner proof =>
    have triggered := Trigger.lossless ⟨block⟩
    have named : Lossless identifier := CanonicalIdentifier.lossless (h _ (by simp [chains]))
    have proven : Lossless proof :=
      evidence_lossless fun p hp => h _ (List.mem_cons_of_mem _ (List.mem_map.mpr
        ⟨p, Option.mem_toList.mpr hp, rfl⟩))
    refine Reads.event ?_ rfl rfl (by simp) ?_
    · exact .seq (.seq (.seq (.map _ (.member rfl triggered)) (.member rfl named))
        (.member rfl partner.lossless)) (.member rfl proven)
    · simp [Lossless.textual, triggered, named, proven]
  | sendUpdate block identifier partner proof =>
    have triggered := Trigger.lossless ⟨block⟩
    have named : Lossless identifier := CanonicalIdentifier.lossless (h _ (by simp [chains]))
    have proven : Lossless proof := BalanceProof.lossless (h _ (by simp [chains]))
    refine Reads.event ?_ rfl rfl (by simp) ?_
    · exact .seq (.seq (.seq (.map _ (.member rfl triggered)) (.member rfl named))
        (.member rfl partner.lossless)) (.member rfl proven)
    · simp [Lossless.textual, triggered, named, proven]
  | sendPunish block identifier openBlock beneficiary cheater lockHash additionalHash signature =>
    have triggered := Trigger.lossless ⟨block⟩
    have named : Lossless identifier := CanonicalIdentifier.lossless (h _ (by simp [chains]))
    refine Reads.event ?_ rfl rfl (by simp) ?_
    · exact .seq (.seq (.seq (.seq (.seq (.seq (.seq (.map _ (.member rfl triggered))
        (.member rfl named)) (.member rfl (Quantity.lossless openBlock)))
        (.member rfl beneficiary.lossless)) (.member rfl cheater.lossless))
        (.member rfl lockHash.lossless)) (.member rfl additionalHash.lossless))
        (.member rfl (Bytes.lossless signature))
    · simp [Lossless.textual, triggered, named]
  | sendSettle block identifier ourAddress partnerAddress settlement =>
    have triggered := Trigger.lossless ⟨block⟩
    have named : Lossless identifier := CanonicalIdentifier.lossless (h _ (by simp [chains]))
    refine Reads.event ?_ rfl rfl (by simp) ?_
    · exact .seq (.seq (.seq (.seq (.map _ (.member rfl triggered)) (.member rfl named))
        (.member rfl ourAddress.lossless)) (.member rfl partnerAddress.lossless))
        (.member rfl settlement.lossless)
    · simp [Lossless.textual, triggered, named]

/-- The JSON form of the value reads as the value, and so does the text of the form. -/
def RoundTrips [Codec α] (a : α) : Prop :=
  decode (encode a) = .ok a ∧ (Json.parse? (encode a).render).map decode = some (.ok a)

theorem Lossless.roundTrips [Codec α] {a : α} (h : Lossless a) : RoundTrips a :=
  ⟨h.decode_encode, h.parse⟩

/-- **JSON forms lose nothing**: every channel, step and call whose chains go by 64-bit numbers
reads back from its form and from the text of its form. -/
theorem forms_lossless :
    (∀ channel : Channel, (∀ chain ∈ channel.chains, chain.Narrow) → RoundTrips channel) ∧
    (∀ change : StateChange, (∀ chain ∈ change.chains, chain.Narrow) → RoundTrips change) ∧
    ∀ event : Event, (∀ chain ∈ event.chains, chain.Narrow) → RoundTrips event := by
  refine ⟨fun channel h => ?_, fun change h => ?_, fun event h => ?_⟩
  · exact (Channel.lossless h).roundTrips
  · exact (StateChange.lossless h).roundTrips
  · exact (Event.lossless h).roundTrips

theorem forms_lossless_sample :
    RoundTrips Sample.updated ∧
    RoundTrips (StateChange.punish Sample.first Sample.request Sample.smallLock) ∧
    RoundTrips (Event.sendClose 10 ⟨.ofQuantity 1337, ⟨7⟩, ⟨9⟩⟩ Sample.second none) := by
  refine ⟨forms_lossless.1 _ ?_, forms_lossless.2.1 _ ?_, forms_lossless.2.2 _ ?_⟩
  · exact List.forall_mem_cons.mpr ⟨⟨1, rfl⟩, List.forall_mem_singleton.mpr ⟨1, rfl⟩⟩
  · exact List.forall_mem_singleton.mpr ⟨1, rfl⟩
  · exact List.forall_mem_singleton.mpr ⟨1337, rfl⟩

end PaymentChannel
