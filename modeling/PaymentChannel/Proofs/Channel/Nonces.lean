import PaymentChannel.Proofs.ByteForms
import PaymentChannel.Proofs.Channel.Evidence

/-!
# The nonces of the recorded evidence

A balance proof that is made by its constructor has a nonce of at least 1.  The steps of a dispute
take balance proofs from outside, and they compare the nonce of a proof with that of the recorded
one only.  So the constructor's rule is kept by every proof that replaces another, and by the first
one just if it was handed in that way.

* `BalanceProof.Constructed`, `BalanceProof.constructed_iff` : apart from its signature, the proof
  is one that the constructor makes.
* `StateChange.evidenceFor?`, `Channel.proofs` : the proofs that one participant hands in, and those
  that a run admits for an end.
* `Channel.Step.balanceProof_eq` : what a step leaves recorded.
* `Channel.recorded_of_mem_proofs` : every admitted proof was recorded, and a recorded proof is only
  replaced by newer ones.
* `Channel.Nonces`, `Channel.nonces_of_run` : the recorded proofs of a run, by their nonces.
* `Sample.nonce_zero_recorded` : a close that records a proof of nonce 0.
-/

namespace PaymentChannel

/-! ## The constructor -/

/-- Apart from its signature and sender, the proof is what the constructor makes of its fields. -/
def BalanceProof.Constructed (p : BalanceProof) : Prop :=
  create p.identifier p.openBlock p.nonce p.transferredAmount p.locksroot.bytes p.additionalHash =
    .ok { p with signature := none, sender := none }

theorem BalanceProof.constructed_iff {p : BalanceProof} : p.Constructed ↔ p.nonce ≠ 0 := by
  rw [Constructed, create]
  by_cases zero : p.nonce = 0
  · simp [zero]
  · simp [zero]

/-- A nonce above another one is not zero. -/
theorem Quantity.ne_zero_of_lt {a b : Quantity} (h : a < b) : b ≠ 0 := by
  rintro rfl
  exact UInt64.not_lt_zero h

/-! ## The proofs handed in for an end -/

/-- The balance proof that the change submits, if the given participant sends it. -/
def StateChange.evidenceFor? (submitter : Address) (change : StateChange) : Option BalanceProof :=
  if change.sender = submitter then change.evidence? else none

namespace Channel

variable {c : Channel} {block : BlockNumber} {change : StateChange} {t : Transition} {r : Role}
  {p : BalanceProof} {attempts : List Attempt}

/-- The balance proofs of an end that a run admits, in the order of the steps. -/
def proofs (c : Channel) (r : Role) (attempts : List Attempt) : List BalanceProof :=
  (c.history attempts).filterMap fun a => a.change.evidenceFor? (c.party r.other).address

theorem proofs_append (c : Channel) (r : Role) (past future : List Attempt) :
    c.proofs r past <+: c.proofs r (past ++ future) := by
  rw [proofs, proofs, history_append, List.filterMap_append]
  exact List.prefix_append ..

/-- A step leaves the proof that it hands in for an end, or else the one that was recorded. -/
theorem Step.balanceProof_eq (h : c.Lawful) (hs : c.Step block change t) (r : Role) :
    (t.channel.party r).balanceProof =
      (change.evidenceFor? (c.party r.other).address).or (c.party r).balanceProof := by
  cases handed : change.evidenceFor? (c.party r.other).address with
  | some p =>
    obtain ⟨sent, submitted⟩ := Option.ite_none_right_eq_some.mp handed
    exact (hs.recorded h.distinct sent submitted).1
  | none =>
    rcases hs.party_cases r with e | ⟨proof, rfl, opened, -, e⟩ | ⟨proof, rfl, -, -, -⟩
    · rw [e, Option.none_or]
    · -- This close hands in no proof, and before a close none is recorded.
      obtain rfl : proof = none := (if_pos rfl).symm.trans handed
      rw [e, (h.party_of_opened opened r).1, Option.none_or]
    · cases (if_pos rfl).symm.trans handed

/-- A proof that is handed in for an end supersedes the recorded one. -/
theorem Step.supersedes (h : c.Lawful) (hs : c.Step block change t)
    (handed : change.evidenceFor? (c.party r.other).address = some p) :
    Supersedes p (c.party r).balanceProof := by
  obtain ⟨sent, submitted⟩ := Option.ite_none_right_eq_some.mp handed
  cases hs with
  | close _ _ opened =>
    intro q hq
    rw [(h.party_of_opened opened r).1] at hq
    cases hq
  | update signer _ _ _ _ newer =>
    obtain rfl : signer = r := h.distinct.role_eq_of_other sent
    obtain rfl := Option.some.inj submitted
    exact newer
  | punish | settle => cases submitted

/-! ## The proofs of a run -/

theorem proofs_concat {past : List Attempt} {a : Attempt}
    (events : c.history (past ++ [a]) = c.history past ++ [a]) :
    c.proofs r (past ++ [a]) =
      c.proofs r past ++ (a.change.evidenceFor? (c.party r.other).address).toList := by
  rw [proofs, events, List.filterMap_append]
  cases h : a.change.evidenceFor? (c.party r.other).address <;> simp [proofs, h]

/-- The recorded proof is the last one that was handed in. -/
theorem latest_of_run (h : c.Fresh) (attempts : List Attempt) (r : Role) :
    ((c.run attempts).party r).balanceProof = (c.proofs r attempts).getLast? := by
  have lawful := lawful_of_fresh h
  refine lawful.attempts_induction (P := fun attempts =>
    ((c.run attempts).party r).balanceProof = (c.proofs r attempts).getLast?) ?_ ?_ ?_ attempts
  · exact (lawful.party_of_opened (status_of_fresh h) r).1
  · intro past a ih e events
    rwa [e, proofs, events]
  · intro past a t ih hs e events
    obtain ⟨hl, terms⟩ := lawful_run lawful past
    rw [e, hs.balanceProof_eq hl r, ih, proofs_concat events, terms.address r.other]
    cases a.change.evidenceFor? (c.party r.other).address <;> simp

/-- Every proof that was handed in was recorded at some point of the run. -/
theorem recorded_of_mem_proofs (h : c.Lawful) (hp : p ∈ c.proofs r attempts) :
    ∃ past future, attempts = past ++ future ∧ ((c.run past).party r).balanceProof = some p := by
  obtain ⟨a, ha, handed⟩ := List.mem_filterMap.mp hp
  obtain ⟨past, future, t, rfl, hl, hs, -⟩ := h.history_inv ha
  have terms := (lawful_run h past).2
  refine ⟨past ++ [a], future, List.append_cons .., ?_⟩
  rw [run_append, run_cons, hs.attempt_eq hl.distinct, run_nil, hs.balanceProof_eq hl r,
    terms.address r.other, handed, Option.some_or]

/-- The proofs that are handed in one after the other grow in nonce, and take nothing back. -/
theorem increasing_of_run (h : c.Fresh) (attempts : List Attempt) (r : Role) :
    (c.proofs r attempts).Pairwise fun p q =>
      p.nonce < q.nonce ∧ p.transferredAmount ≤ q.transferredAmount := by
  have lawful := lawful_of_fresh h
  refine lawful.attempts_induction (P := fun attempts =>
    (c.proofs r attempts).Pairwise fun p q =>
      p.nonce < q.nonce ∧ p.transferredAmount ≤ q.transferredAmount) ?_ ?_ ?_ attempts
  · exact List.Pairwise.nil
  · intro past a ih _ events
    rwa [proofs, events]
  · intro past a t ih hs _ events
    obtain ⟨hl, terms⟩ := lawful_run lawful past
    rw [proofs_concat events]
    cases handed : a.change.evidenceFor? (c.party r.other).address with
    | none => simpa using ih
    | some q =>
      refine List.pairwise_append.mpr ⟨ih, List.pairwise_singleton .., fun p hp q' hq' => ?_⟩
      obtain rfl := List.mem_singleton.mp hq'
      rw [← terms.address r.other] at handed
      have newer := hs.supersedes hl handed
      -- The proof was recorded, so what is recorded now is the same or newer.
      obtain ⟨before, after, rfl, hrec⟩ := recorded_of_mem_proofs lawful hp
      rw [run_append] at newer
      rcases retained_run (lawful_run lawful before).1 hrec after with same | ⟨p', hp', hn, ha⟩
      · rw [same] at newer
        exact newer p hrec
      · obtain ⟨hn', ha'⟩ := newer p' hp'
        exact ⟨UInt64.lt_trans hn hn', BitVec.le_trans ha ha'⟩

/-- The nonces of the proofs that a run records for an end. -/
structure Nonces (c : Channel) (attempts : List Attempt) (r : Role) : Prop where
  latest : ((c.run attempts).party r).balanceProof = (c.proofs r attempts).getLast?
  increasing : (c.proofs r attempts).Pairwise fun p q =>
    p.nonce < q.nonce ∧ p.transferredAmount ≤ q.transferredAmount
  /-- What replaces a recorded proof satisfies the constructor. -/
  replaced : ∀ p ∈ (c.proofs r attempts).tail, p.Constructed
  /-- All that was ever recorded satisfies the constructor if the first proof does. -/
  constructed_iff : (∀ past future p, attempts = past ++ future →
      ((c.run past).party r).balanceProof = some p → p.Constructed) ↔
    ∀ p, (c.proofs r attempts).head? = some p → p.nonce ≠ 0

/-- **The nonces of the recorded evidence.**  What is recorded for an end is the last of the proofs
that the opposite end handed in, and their nonces grow.  So at most the first of them has the
nonce 0, which the constructor refuses, and the steps take it if it does. -/
theorem nonces_of_run (h : c.Fresh) (attempts : List Attempt) (r : Role) :
    c.Nonces attempts r := by
  have increasing := increasing_of_run h attempts r
  have replaced : ∀ p ∈ (c.proofs r attempts).tail, p.Constructed := by
    intro p hp
    cases e : c.proofs r attempts with
    | nil =>
      rw [e] at hp
      cases hp
    | cons first rest =>
      rw [e] at hp increasing
      have above := (List.pairwise_cons.mp increasing).1 p hp
      exact BalanceProof.constructed_iff.mpr (Quantity.ne_zero_of_lt above.1)
  refine ⟨latest_of_run h attempts r, increasing, replaced, ?_, ?_⟩
  · intro constructed p hp
    obtain ⟨past, future, rfl, hrec⟩ :=
      recorded_of_mem_proofs (lawful_of_fresh h) (List.mem_of_head? hp)
    exact BalanceProof.constructed_iff.mp (constructed past future p rfl hrec)
  · rintro first past future p rfl hrec
    rw [latest_of_run h past r] at hrec
    have mem := (proofs_append c r past future).subset (List.mem_of_getLast? hrec)
    cases e : c.proofs r (past ++ future) with
    | nil =>
      rw [e] at mem
      cases mem
    | cons q rest =>
      rw [e] at mem first replaced
      rcases List.mem_cons.mp mem with rfl | later
      · exact BalanceProof.constructed_iff.mpr (first p rfl)
      · exact replaced p later

/-- All that the sample dispute records for the second end satisfies the constructor. -/
theorem nonces_of_sample : Sample.channel.Fresh ∧ ∀ past future p,
    [Sample.close, Sample.update] = past ++ future →
      ((Sample.channel.run past).party .partner).balanceProof = some p → p.Constructed := by
  have nonces := nonces_of_run Sample.fresh_channel [Sample.close, Sample.update] .partner
  refine ⟨Sample.fresh_channel, nonces.constructed_iff.mpr fun p hp => ?_⟩
  obtain ⟨a, ha, handed⟩ := List.mem_filterMap.mp (List.mem_of_head? hp)
  rcases List.mem_cons.mp (mem_of_mem_history ha) with rfl | ha
  · cases handed
  · obtain rfl := List.mem_singleton.mp ha
    obtain rfl : Sample.proof = p := Option.some.inj handed
    decide

end Channel

namespace Sample

/-- A signed proof of the second end whose nonce is 0. -/
def unnumbered : BalanceProof where
  nonce := 0
  transferredAmount := 10
  locksroot := .zero
  additionalHash := .zero
  identifier := identifier
  openBlock := 1
  signature := some (bigEndian 65
    0xe9335cbe4e9c1a26060f34e59bd8f9bdaa0d31ec1218aa6e3732851a296f5c537ef9825d743517ed2c21b8ffe39c85ed4fd7896910b00afb8ce5c3af6e9e90dd1b)
  sender := none

def closeUnnumbered : Attempt := ⟨.close first (some unnumbered), 10⟩

/-- The first end can close the channel with it, and it is recorded. -/
theorem nonce_zero_recorded : channel.Fresh ∧
    ((channel.run [closeUnnumbered]).party .partner).balanceProof = some unnumbered ∧
    unnumbered.nonce = 0 ∧
    BalanceProof.create unnumbered.identifier unnumbered.openBlock unnumbered.nonce
      unnumbered.transferredAmount unnumbered.locksroot.bytes unnumbered.additionalHash =
        .error (.validation .zeroNonce) := by
  have signer : unnumbered.signer = .ok second := signerOf_eq_ok_iff.mpr ⟨_, rfl, by decide +kernel⟩
  have authentic : ∀ p, some unnumbered = some p → channel.Authentic .partner p := by
    rintro p ⟨⟩
    exact ⟨rfl, rfl, BalanceProof.verify_eq_ok_iff.mpr signer⟩
  have hs : channel.Step closeUnnumbered.block closeUnnumbered.change ⟨_, _⟩ :=
    .close .partner (some unnumbered) (by decide) authentic
  have closed : channel.attempt closeUnnumbered =
      channel.afterClose .partner (some unnumbered) 10 :=
    hs.attempt_eq (by decide)
  rw [Channel.run_cons, closed, Channel.run_nil]
  exact ⟨fresh_channel, rfl, rfl, rfl⟩

end Sample

end PaymentChannel
