import Mathlib.Data.List.Infix
import PaymentChannel.Client.Redialing
import PaymentChannel.Node.Call
import PaymentChannel.Proofs.Logged

/-!
# What a caller does

A caller that has a client for itself makes one call after another until an answer counts, and dials
whenever there is no connection.

* `Errand`, `Progress`, `Deed` : what a caller wants, how far it has come, and what it does.
* `Works` : what it can do next.  `Errand.start` is how it begins.
* `Doing` : what its deeds say of its progress.  `Doing.work` : whatever it does keeps this.
* `Ended` : how an errand ends.  `Ended.unavailable_iff` : it ends in vain exactly if the dials fail
  as often in a row as the limit says.
* `Brief` : a bound for the number of deeds, which grows with unavailable answers and failed dials
  only.
-/

namespace PaymentChannel

variable {κ : Type}

/-- What a caller wants of a client. -/
inductive Errand where
  | call (request : Request)
  /-- Gives up the connection and dials another one. -/
  | redial
  deriving DecidableEq

def Errand.Result : Errand → Type
  | call request => request.Answer
  | redial => Unit

/-- How far an errand has come. -/
inductive Progress (κ : Type) (errand : Errand) where
  | stage (stage : Stage κ)
  /-- A call over the connection is under way. -/
  | awaiting (connection : κ)
  /-- The connection is in place, and the signals have yet to fire. -/
  | announcing (connection : κ)
  | ending (result : NodeAnswer errand.Result)

inductive Deed (κ : Type) where
  | asked (request : Request) (connection : κ)
  | heard (request : Request) (answer : NodeAnswer request.Answer)
  | dialed (outcome : NodeAnswer κ)
  | rested
  | notified (count : Nat)

def Unavailable {α : Type} (answer : NodeAnswer α) : Prop :=
  ∃ reason, answer = .error (.unavailable reason)

namespace RedialingClient

variable {client client' : RedialingClient κ} {ρ : Type} {answer result : NodeAnswer ρ}
  {limit : Option Nat} {attempt next : Nat} {e error : NodeError}

/-- The status says whether there is a connection, and nobody dials. -/
def Truthful (client : RedialingClient κ) : Prop :=
  client.status = if client.connection.isSome then .connected else .failed

/-- The client is connected exactly if it says so. -/
def Coherent (client : RedialingClient κ) : Prop :=
  client.status = .connected ↔ client.connection.isSome

/-- How a client comes into being. -/
inductive Opened : RedialingClient κ → Prop
  | unconnected : Opened .unconnected
  | ofConnection (c : κ) : Opened (.ofConnection c)

theorem Opened.truthful : client.Opened → client.Truthful
  | unconnected => rfl
  | ofConnection _ => rfl

theorem Opened.signals_eq : client.Opened → client.signals = .empty
  | unconnected => rfl
  | ofConnection _ => rfl

theorem Truthful.coherent (h : client.Truthful) : client.Coherent := by
  rw [Coherent, h]
  cases client.connection <;> simp

theorem begin_disconnect (client : RedialingClient κ) : client.disconnect.begin =
    ({ client with connection := none, status := .reconnecting }, .dialing 1) := rfl

theorem answered_eq_none_iff :
    client.answered answer = (client', none) ↔
      Unavailable answer ∧ client' = client.disconnect := by
  unfold answered Unavailable
  split
  · simp [eq_comm]
  · next other =>
    simp only [Prod.mk.injEq, reduceCtorEq, and_false, false_iff, not_and]
    rintro ⟨reason, rfl⟩
    exact absurd rfl (other reason)

theorem answered_eq_some_iff : client.answered answer = (client', some result) ↔
    ¬Unavailable answer ∧ client' = client ∧ result = answer := by
  unfold answered Unavailable
  split
  · simp
  · next other =>
    have final : ¬∃ reason, answer = .error (.unavailable reason) := fun ⟨reason, h⟩ =>
      other reason h
    simp [final, eq_comm]

theorem any_le_iff : limit.any (· ≤ attempt) = true ↔ ∃ n, limit = some n ∧ n ≤ attempt := by
  cases limit <;> simp

theorem dialed_error_eq_again_iff :
    client.dialed limit attempt (.error e) = (client', .again next) ↔
      (∀ n, limit = some n → attempt < n) ∧ client' = client ∧ next = attempt + 1 := by
  rw [dialed]
  by_cases h : limit.any (· ≤ attempt) = true
  · obtain ⟨n, hn, hle⟩ := any_le_iff.mp h
    rw [if_pos h]
    simp [hn, Nat.not_lt.mpr hle]
  · have more : ∀ n, limit = some n → attempt < n := fun n hn =>
      Nat.lt_of_not_le fun hle => h (any_le_iff.mpr ⟨n, hn, hle⟩)
    rw [if_neg h]
    simp only [Prod.mk.injEq, DialResult.again.injEq, eq_comm, iff_and_self]
    exact fun _ => more

theorem dialed_error_eq_gaveUp_iff :
    client.dialed limit attempt (.error e) = (client', .gaveUp error) ↔
      (∃ n, limit = some n ∧ n ≤ attempt) ∧ client' = { client with status := .failed } ∧
        error = gaveUpAfter attempt := by
  rw [dialed, ← any_le_iff]
  by_cases h : limit.any (· ≤ attempt) = true
  · rw [if_pos h]
    simp [h, eq_comm]
  · rw [if_neg h]
    simp [h]

end RedialingClient

open RedialingClient

/-- How an errand begins. -/
def Errand.start (errand : Errand) (client : RedialingClient κ) : RedialingClient κ × Stage κ :=
  match errand with
  | .call _ => client.begin
  | .redial => client.disconnect.begin

/-- What a caller can do next. -/
inductive Works (limit : Option Nat) : (errand : Errand) → RedialingClient κ → Progress κ errand →
    Deed κ → RedialingClient κ → Progress κ errand → Prop
  | ask {request : Request} {client : RedialingClient κ} {c : κ} :
      Works limit (.call request) client (.stage (.invoking c)) (.asked request c) client
        (.awaiting c)
  | retry {request : Request} {client client' : RedialingClient κ} {c : κ}
      {answer : NodeAnswer request.Answer} (h : client.answered answer = (client', none)) :
      Works limit (.call request) client (.awaiting c) (.heard request answer) client'.begin.1
        (.stage client'.begin.2)
  | answer {request : Request} {client client' : RedialingClient κ} {c : κ}
      {answer result : NodeAnswer request.Answer}
      (h : client.answered answer = (client', some result)) :
      Works limit (.call request) client (.awaiting c) (.heard request answer) client'
        (.ending result)
  | establish {errand : Errand} {client : RedialingClient κ} {attempt : Nat} {c : κ} :
      Works limit errand client (.stage (.dialing attempt)) (.dialed (.ok c)) (client.connect c)
        (.announcing c)
  | fail {errand : Errand} {client client' : RedialingClient κ} {attempt next : Nat}
      {e : NodeError} (h : client.dialed limit attempt (.error e) = (client', .again next)) :
      Works limit errand client (.stage (.dialing attempt)) (.dialed (.error e)) client'
        (.stage (.pausing next))
  | giveUp {errand : Errand} {client client' : RedialingClient κ} {attempt : Nat}
      {e error : NodeError}
      (h : client.dialed limit attempt (.error e) = (client', .gaveUp error)) :
      Works limit errand client (.stage (.dialing attempt)) (.dialed (.error e)) client'
        (.ending (.error error))
  | rest {errand : Errand} {client : RedialingClient κ} {attempt : Nat} :
      Works limit errand client (.stage (.pausing attempt)) .rested client
        (.stage (.dialing attempt))
  | resume {request : Request} {client : RedialingClient κ} {c : κ} :
      Works limit (.call request) client (.announcing c) (.notified client.announce.1)
        client.announce.2 (.stage (.invoking c))
  | finish {client : RedialingClient κ} {c : κ} :
      Works limit .redial client (.announcing c) (.notified client.announce.1) client.announce.2
        (.ending (.ok ()))

/-- A client that one caller has for itself, and how far the caller has come. -/
abbrev Errand.Step (limit : Option Nat) (errand : Errand)
    (s : RedialingClient κ × Progress κ errand) (deed : Deed κ)
    (s' : RedialingClient κ × Progress κ errand) : Prop :=
  Works limit errand s.1 s.2 deed s'.1 s'.2

/-! ## What the deeds say -/

namespace Deed

def isAsk : Deed κ → Bool
  | asked .. => true
  | _ => false

def isAnswer : Deed κ → Bool
  | heard .. => true
  | _ => false

/-- The node was found unavailable. -/
def isRefusal : Deed κ → Bool
  | heard _ (.error (.unavailable _)) => true
  | _ => false

/-- Whether a dial has succeeded. -/
def dial? : Deed κ → Option Bool
  | dialed (.ok _) => some true
  | dialed (.error _) => some false
  | _ => none

/-- Something has to follow at once. -/
def Opens : Deed κ → Prop
  | asked .. | dialed (.ok _) => True
  | _ => False

/-- Something has to come right before. -/
def Follows : Deed κ → Prop
  | heard .. | notified _ => True
  | _ => False

/-- An answer follows a question, and the signals fire after a dial that has succeeded. -/
inductive Closes : Deed κ → Deed κ → Prop
  | answer {request : Request} {answer : NodeAnswer request.Answer} {c : κ} :
      Closes (heard request answer) (asked request c)
  | signals {count : Nat} {c : κ} : Closes (notified count) (dialed (.ok c))

end Deed

def asks (deeds : List (Deed κ)) : Nat := deeds.countP (·.isAsk)

def refusals (deeds : List (Deed κ)) : Nat := deeds.countP (·.isRefusal)

/-- Whether the dials have succeeded, one after the other. -/
def dials (deeds : List (Deed κ)) : List Bool := deeds.filterMap (·.dial?)

/-- Every answer so far has found the node unavailable. -/
def Refused (deeds : List (Deed κ)) : Prop := ∀ d ∈ deeds, d.isAnswer = true → d.isRefusal = true

/-- The dials never fail as often in a row as the limit says. -/
def Patient (limit : Option Nat) (deeds : List (Deed κ)) : Prop :=
  ∀ n, limit = some n → ¬List.replicate (max 1 n) false <:+: dials deeds

/-- How an errand ends. -/
inductive Ended (limit : Option Nat) :
    (errand : Errand) → List (Deed κ) → NodeAnswer errand.Result → Prop
  /-- With the first answer that counts. -/
  | answered {request : Request} {earlier : List (Deed κ)} {answer : NodeAnswer request.Answer}
      (counts : ¬Unavailable answer) (refused : Refused earlier)
      (asked : asks earlier = refusals earlier + 1) (patient : Patient limit earlier) :
      Ended limit (.call request) (earlier ++ [.heard request answer]) answer
  /-- In vain. -/
  | gaveUp {errand : Errand} {deeds : List (Deed κ)} {n : Nat} (bound : limit = some n)
      (refused : Refused deeds) (asked : asks deeds = refusals deeds)
      (failed : List.replicate (max 1 n) false <:+ dials deeds) :
      Ended limit errand deeds (.error (gaveUpAfter (max 1 n)))
  | redialed {earlier : List (Deed κ)} {count : Nat} (refused : Refused earlier)
      (patient : Patient limit earlier) :
      Ended limit .redial (earlier ++ [.notified count]) (.ok ())

namespace Progress

variable {errand : Errand}

/-- The number of the dial that is due. -/
def attempt : Progress κ errand → Nat
  | stage (.dialing attempt) | stage (.pausing attempt) => attempt
  | _ => 1

/-- Whether an answer is due. -/
def due : Progress κ errand → Nat
  | awaiting _ => 1
  | _ => 0

/-- A call over a connection is about to be made, or under way. -/
def Calls : Progress κ errand → Prop
  | stage (.invoking _) | awaiting _ => True
  | _ => False

/-- The deed that something has to follow. -/
def since : Progress κ errand → Option (Deed κ)
  | announcing c => some (.dialed (.ok c))
  | awaiting c =>
    match errand with
    | .call request => some (.asked request c)
    | .redial => none
  | stage _ | ending _ => none

/-- A bound for the deeds that are left, as long as nothing goes wrong. -/
def rest : Progress κ errand → Nat
  | stage (.invoking _) => 2
  | awaiting _ => 1
  | stage (.dialing _) => 4
  | stage (.pausing _) => 5
  | announcing _ => 3
  | ending _ => 0

end Progress

/-- What the deeds say before the end. -/
structure Underway {errand : Errand} (limit : Option Nat) (deeds : List (Deed κ))
    (progress : Progress κ errand) : Prop where
  calls : progress.Calls → ∃ request, errand = .call request
  refused : Refused deeds
  asked : asks deeds = refusals deeds + progress.due
  /-- The dials since the last one that has succeeded. -/
  streak : ∀ k, List.replicate k false <:+ dials deeds ↔ k < progress.attempt
  bound : ∀ n, limit = some n → progress.attempt ≤ max 1 n
  patient : Patient limit deeds

/-- What the deeds say of the progress. -/
def Doing {errand : Errand} (limit : Option Nat) (deeds : List (Deed κ)) :
    Progress κ errand → Prop
  | .ending result => Ended limit errand deeds result
  | progress => Underway limit deeds progress

/-- How many deeds there are at most. -/
def allowance (deeds : List (Deed κ)) : Nat :=
  4 * refusals deeds + 2 * (dials deeds).count false + 4

def Brief {errand : Errand} (deeds : List (Deed κ)) (progress : Progress κ errand) : Prop :=
  deeds.length + progress.rest ≤ allowance deeds

/-- What the progress says of the client. -/
def Agrees {errand : Errand} (client : RedialingClient κ) : Progress κ errand → Prop
  | .stage (.invoking c) | .awaiting c | .announcing c =>
    client.connection = some c ∧ client.status = .connected
  | .stage (.dialing _) | .stage (.pausing _) =>
    client.connection = none ∧ client.status = .reconnecting
  | .ending _ => client.Truthful

section

variable {limit : Option Nat} {errand : Errand} {client client' : RedialingClient κ}
  {deeds : List (Deed κ)} {deed : Deed κ} {progress progress' : Progress κ errand}

theorem truthful_of_connected {c : κ} (h : client.connection = some c)
    (hs : client.status = .connected) : client.Truthful := by
  rw [Truthful, h, hs]
  rfl

theorem truthful_of_failed (h : client.connection = none) :
    { client with status := .failed : RedialingClient κ }.Truthful := by
  rw [Truthful, h]
  rfl

theorem Errand.start_cases (errand : Errand) (client : RedialingClient κ) :
    (∃ request c, errand = .call request ∧ client.connection = some c ∧
        errand.start client = (client, .invoking c)) ∨
      errand.start client =
        ({ client with connection := none, status := .reconnecting }, .dialing 1) := by
  cases errand with
  | redial => exact Or.inr (begin_disconnect client)
  | call request =>
    show (∃ request' c, _ ∧ _ ∧ client.begin = _) ∨ client.begin = _
    cases h : client.connection with
    | some c => exact Or.inl ⟨request, c, rfl, rfl, by rw [RedialingClient.begin, h]⟩
    | none =>
      rw [RedialingClient.begin, h, startDialing, h]
      exact Or.inr rfl

theorem Agrees.start (h : client.Coherent) (errand : Errand) :
    Agrees (errand.start client).1 (.stage (errand.start client).2 : Progress κ errand) := by
  rcases errand.start_cases client with ⟨_, c, -, hc, he⟩ | he
  · rw [he]
    exact ⟨hc, h.mpr (by rw [hc]; rfl)⟩
  · rw [he]
    exact ⟨rfl, rfl⟩

theorem Agrees.congr (h : Agrees client progress)
    (hc : client'.connection = client.connection) (hs : client'.status = client.status) :
    Agrees client' progress := by
  unfold Agrees Truthful at h ⊢
  rwa [hc, hs]

theorem Agrees.coherent (h : Agrees client progress) : client.Coherent := by
  cases progress with
  | ending result => exact Truthful.coherent h
  | awaiting c | announcing c => exact (truthful_of_connected h.1 h.2).coherent
  | stage s =>
    cases s with
    | invoking c => exact (truthful_of_connected h.1 h.2).coherent
    | dialing attempt | pausing attempt =>
      rw [Coherent, h.1, h.2]
      exact iff_of_false (nomatch ·) (nomatch ·)

theorem Agrees.work (h : Agrees client progress)
    (works : Works limit errand client progress deed client' progress') :
    Agrees client' progress' := by
  cases works with
  | ask | rest | resume => exact h
  | retry answered =>
    obtain ⟨-, rfl⟩ := answered_eq_none_iff.mp answered
    exact ⟨rfl, rfl⟩
  | answer answered =>
    obtain ⟨-, rfl, -⟩ := answered_eq_some_iff.mp answered
    exact truthful_of_connected h.1 h.2
  | establish => exact ⟨rfl, rfl⟩
  | fail dialed =>
    obtain ⟨-, rfl, rfl⟩ := dialed_error_eq_again_iff.mp dialed
    exact h
  | giveUp dialed =>
    obtain ⟨-, rfl, rfl⟩ := dialed_error_eq_gaveUp_iff.mp dialed
    exact truthful_of_failed h.1
  | @finish client c =>
    have connected : client.announce.2.connection = some c := h.1
    exact truthful_of_connected connected h.2

/-! ### One deed more -/

theorem asks_snoc : asks (deeds ++ [deed]) = asks deeds + if deed.isAsk then 1 else 0 := by
  simp [asks, List.countP_append, List.countP_singleton]

theorem refusals_snoc :
    refusals (deeds ++ [deed]) = refusals deeds + if deed.isRefusal then 1 else 0 := by
  simp [refusals, List.countP_append, List.countP_singleton]

theorem dials_snoc : dials (deeds ++ [deed]) = dials deeds ++ deed.dial?.toList :=
  filterMap_snoc _

theorem Refused.snoc (h : Refused deeds) (hd : deed.isAnswer = true → deed.isRefusal = true) :
    Refused (deeds ++ [deed]) := by
  intro d hm
  rcases List.mem_append.mp hm with hm | hm
  · exact h d hm
  · cases List.mem_singleton.mp hm
    exact hd

theorem replicate_suffix_snoc_true {k : Nat} {l : List Bool} :
    List.replicate k false <:+ l ++ [true] ↔ k < 1 := by
  cases k with
  | zero => simp
  | succ k =>
    refine iff_of_false ?_ (by omega)
    rw [List.suffix_concat_iff, List.replicate_succ']
    rintro (h | ⟨t, h, -⟩)
    · simp at h
    · cases (List.append_inj' h rfl).2

theorem replicate_suffix_snoc_false {k : Nat} {l : List Bool} :
    List.replicate (k + 1) false <:+ l ++ [false] ↔ List.replicate k false <:+ l := by
  rw [List.suffix_concat_iff, List.replicate_succ']
  simp

theorem Patient.snoc_of_other (h : Patient limit deeds) (hd : deed.dial? = none) :
    Patient limit (deeds ++ [deed]) := by
  intro n hn
  rw [dials_snoc, hd, Option.toList_none, List.append_nil]
  exact h n hn

theorem Patient.snoc_true {c : κ} (h : Patient limit deeds) :
    Patient limit (deeds ++ [.dialed (.ok c)]) := by
  intro n hn
  show ¬_ <:+: dials (deeds ++ _)
  rw [dials_snoc, Deed.dial?, Option.toList_some, List.infix_concat_iff,
    replicate_suffix_snoc_true]
  rintro (hk | hk)
  · omega
  · exact h n hn hk

theorem Doing.start (errand : Errand) (client : RedialingClient κ) :
    Doing limit [] (.stage (errand.start client).2 : Progress κ errand) := by
  have none_yet : Patient limit ([] : List (Deed κ)) := by
    intro n _ h
    have bound := h.length_le
    rw [List.length_replicate] at bound
    simp [dials] at bound
  have empty (k : Nat) : List.replicate k false <:+ dials ([] : List (Deed κ)) ↔ k < 1 := by
    cases k <;> simp [dials, List.replicate_succ]
  rcases errand.start_cases client with ⟨request, c, called, -, he⟩ | he <;> rw [he]
  · exact ⟨fun _ => ⟨request, called⟩, fun _ => (nomatch ·), rfl, empty,
      fun n _ => Nat.le_max_left 1 n, none_yet⟩
  · exact ⟨(nomatch ·), fun _ => (nomatch ·), rfl, empty, fun n _ => Nat.le_max_left 1 n, none_yet⟩

/-- A deed that is not a dial. -/
theorem Underway.undialed (h : Underway limit deeds progress) (other : deed.dial? = none)
    (calls : progress'.Calls → ∃ request, errand = .call request)
    (refused : deed.isAnswer = true → deed.isRefusal = true)
    (asked : progress.due + (if deed.isAsk then 1 else 0) =
      (if deed.isRefusal then 1 else 0) + progress'.due)
    (same : progress'.attempt = progress.attempt) :
    Underway limit (deeds ++ [deed]) progress' where
  calls := calls
  refused := h.refused.snoc refused
  asked := by
    rw [asks_snoc, refusals_snoc, h.asked]
    omega
  streak k := by
    rw [dials_snoc, other, Option.toList_none, List.append_nil, same]
    exact h.streak k
  bound n hn := same ▸ h.bound n hn
  patient := h.patient.snoc_of_other other

/-- A dial that fails makes the streak longer. -/
theorem Underway.streak_snoc {attempt : Nat} {e : NodeError}
    (h : Underway limit deeds (.stage (.dialing attempt) : Progress κ errand)) (k : Nat) :
    List.replicate k false <:+ dials (deeds ++ [.dialed (.error e)]) ↔ k < attempt + 1 := by
  rw [dials_snoc]
  cases k with
  | zero => exact iff_of_true List.nil_suffix (Nat.succ_pos attempt)
  | succ k =>
    refine replicate_suffix_snoc_false.trans ((h.streak k).trans ?_)
    exact (Nat.add_lt_add_iff_right (k := 1)).symm

/-- **Whatever a caller does, its deeds keep to its progress.** -/
theorem Doing.work (h : Doing limit deeds progress)
    (works : Works limit errand client progress deed client' progress') :
    Doing limit (deeds ++ [deed]) progress' := by
  cases works with
  | ask => exact Underway.undialed h rfl (fun _ => ⟨_, rfl⟩) (nomatch ·) rfl rfl
  | rest => exact Underway.undialed h rfl (nomatch ·) (nomatch ·) rfl rfl
  | resume => exact Underway.undialed h rfl (fun _ => ⟨_, rfl⟩) (nomatch ·) rfl rfl
  | retry answered =>
    obtain ⟨⟨reason, rfl⟩, rfl⟩ := answered_eq_none_iff.mp answered
    exact Underway.undialed h rfl (fun _ => ⟨_, rfl⟩) (fun _ => rfl) rfl rfl
  | answer answered =>
    obtain ⟨final, rfl, rfl⟩ := answered_eq_some_iff.mp answered
    exact Ended.answered final h.refused h.asked h.patient
  | @establish errand client attempt c =>
    refine ⟨(nomatch ·), h.refused.snoc (nomatch ·), ?_, ?_, fun n _ => Nat.le_max_left 1 n,
      h.patient.snoc_true⟩
    · rw [asks_snoc, refusals_snoc, h.asked]
      rfl
    · intro k
      rw [dials_snoc]
      exact replicate_suffix_snoc_true
  | @fail errand client client' attempt next e dialed =>
    obtain ⟨more, rfl, rfl⟩ := dialed_error_eq_again_iff.mp dialed
    have streak := Underway.streak_snoc (e := e) h
    refine ⟨(nomatch ·), h.refused.snoc (nomatch ·), ?_, streak, ?_, ?_⟩
    · rw [asks_snoc, refusals_snoc, h.asked]
      rfl
    · intro n hn
      have left := more n hn
      show attempt + 1 ≤ max 1 n
      omega
    · intro n hn
      have left := more n hn
      have before := h.patient n hn
      rw [dials_snoc, Deed.dial?, Option.toList_some, List.infix_concat_iff]
      -- A streak that is too long would have to end with this dial.
      rintro (late | early)
      · have reached := (streak _).mp (by rwa [dials_snoc])
        omega
      · exact before early
  | @giveUp errand client client' attempt e error dialed =>
    obtain ⟨⟨n, hn, reached⟩, rfl, rfl⟩ := dialed_error_eq_gaveUp_iff.mp dialed
    -- The attempts are counted from 1, and none of them has gone beyond the limit.
    have streak := Underway.streak_snoc (e := e) h
    have counted : 0 < attempt := (h.streak 0).mp List.nil_suffix
    have bound : attempt ≤ max 1 n := h.bound n hn
    obtain rfl : attempt = max 1 n := by omega
    refine Ended.gaveUp hn (h.refused.snoc (nomatch ·)) ?_ ((streak _).mpr (Nat.lt_succ_self _))
    rw [asks_snoc, refusals_snoc, h.asked]
    rfl
  | finish => exact Ended.redialed h.refused h.patient

/-! ### The end -/

/-- An errand fails for want of a node exactly if the dials fail as often in a row as the limit
says. -/
theorem Ended.unavailable_iff {result : NodeAnswer errand.Result}
    (h : Ended limit errand deeds result) :
    Unavailable result ↔
      ∃ n, limit = some n ∧ List.replicate (max 1 n) false <:+: dials deeds := by
  cases h with
  | @answered request earlier answer final refused asked patient =>
    refine iff_of_false final ?_
    rintro ⟨n, hn, failed⟩
    exact patient.snoc_of_other rfl n hn failed
  | @gaveUp errand deeds n bound refused asked failed =>
    exact iff_of_true ⟨_, rfl⟩ ⟨n, bound, failed.isInfix⟩
  | @redialed earlier count refused patient =>
    refine iff_of_false (fun ⟨_, he⟩ => nomatch he) ?_
    rintro ⟨n, hn, failed⟩
    exact patient.snoc_of_other rfl n hn failed

theorem isRefusal_heard_iff {request : Request} {answer : NodeAnswer request.Answer} :
    (Deed.heard request answer : Deed κ).isRefusal = true ↔ Unavailable answer := by
  unfold Deed.isRefusal Unavailable
  split
  · next heq =>
    cases heq
    exact iff_of_true rfl ⟨_, rfl⟩
  · next other =>
    refine iff_of_false (nomatch ·) ?_
    rintro ⟨reason, rfl⟩
    exact other _ reason rfl

theorem Refused.unavailable {request : Request} {answer : NodeAnswer request.Answer}
    (h : Refused deeds) (hm : .heard request answer ∈ deeds) : Unavailable answer :=
  isRefusal_heard_iff.mp (h _ hm rfl)

/-- The only answer that counts is the last deed, and the result. -/
theorem Ended.heard_inv {result : NodeAnswer errand.Result} {request : Request}
    {answer : NodeAnswer request.Answer} {earlier later : List (Deed κ)}
    (h : Ended limit errand deeds result) (hd : deeds = earlier ++ .heard request answer :: later)
    (counts : ¬Unavailable answer) : later = [] ∧
      (⟨errand, result⟩ : (errand : Errand) × NodeAnswer errand.Result) =
        ⟨.call request, answer⟩ := by
  cases h with
  | answered final refused asked patient =>
    rcases snoc_eq_append_cons_iff.mp hd with ⟨rfl, last, rfl⟩ | ⟨before, rfl, rfl⟩
    · cases last
      exact ⟨rfl, rfl⟩
    · exact absurd (refused.unavailable (by simp)) counts
  | gaveUp bound refused asked failed =>
    subst hd
    exact absurd (refused.unavailable (by simp)) counts
  | redialed refused patient =>
    rcases snoc_eq_append_cons_iff.mp hd with ⟨rfl, last, rfl⟩ | ⟨before, rfl, rfl⟩
    · cases last
    · exact absurd (refused.unavailable (by simp)) counts

theorem Ended.answered_inv {request : Request} {result : NodeAnswer request.Answer}
    (h : Ended limit (.call request) deeds result) (counts : ¬Unavailable result) :
    (∃ earlier, deeds = earlier ++ [.heard request result] ∧ Refused earlier) ∧
      asks deeds = refusals deeds + 1 := by
  cases h with
  | @answered _ earlier _ _ refused asked _ =>
    refine ⟨⟨earlier, rfl, refused⟩, ?_⟩
    rw [asks_snoc, refusals_snoc, asked, if_neg (isRefusal_heard_iff.not.mpr counts)]
    rfl
  | gaveUp => exact absurd ⟨_, rfl⟩ counts

theorem Ended.unavailable_inv {result : NodeAnswer errand.Result}
    (h : Ended limit errand deeds result) (vain : Unavailable result) :
    Refused deeds ∧ asks deeds = refusals deeds := by
  cases h with
  | answered final => exact absurd vain final
  | gaveUp bound refused asked failed => exact ⟨refused, asked⟩
  | redialed =>
    obtain ⟨reason, he⟩ := vain
    cases he

/-! ### The number of deeds -/

theorem Brief.start (errand : Errand) (client : RedialingClient κ) :
    Brief [] (.stage (errand.start client).2 : Progress κ errand) := by
  rcases errand.start_cases client with ⟨_, c, -, -, he⟩ | he <;> rw [he] <;>
    simp [Brief, Progress.rest, allowance, refusals, dials]

theorem Brief.snoc (h : Brief deeds progress)
    (spent : 1 + progress'.rest ≤
      progress.rest + (if deed.isRefusal then 4 else 0) + 2 * deed.dial?.toList.count false) :
    Brief (deeds ++ [deed]) progress' := by
  unfold Brief allowance at h ⊢
  rw [List.length_append, List.length_singleton, refusals_snoc, dials_snoc, List.count_append]
  split at spent <;> split <;> first | contradiction | omega

/-- **Only unavailable answers and failed dials keep a caller busy.** -/
theorem Brief.work (h : Brief deeds progress)
    (works : Works limit errand client progress deed client' progress') :
    Brief (deeds ++ [deed]) progress' := by
  refine h.snoc ?_
  cases works with
  | ask | rest | resume | establish | finish | fail | giveUp =>
    simp [Progress.rest, Deed.isRefusal, Deed.dial?]
  | retry answered =>
    obtain ⟨⟨reason, rfl⟩, rfl⟩ := answered_eq_none_iff.mp answered
    simp [begin_disconnect, Progress.rest, Deed.isRefusal]
  | answer =>
    simp only [Progress.rest]
    omega

/-! ### What follows at once -/

theorem Works.since_eq_some_iff {d : Deed κ}
    (works : Works limit errand client progress deed client' progress') :
    progress'.since = some d ↔ deed.Opens ∧ d = deed := by
  cases works <;> simp [Progress.since, Deed.Opens, eq_comm]

theorem Works.closes {d : Deed κ}
    (works : Works limit errand client progress deed client' progress')
    (h : progress.since = some d) : deed.Closes d := by
  cases works with
  | ask | establish | fail | giveUp | rest => cases h
  | retry | answer =>
    cases h
    exact .answer
  | resume | finish =>
    cases h
    exact .signals

theorem Works.since_of_follows
    (works : Works limit errand client progress deed client' progress') (h : deed.Follows) :
    ∃ d, progress.since = some d := by
  cases works with
  | ask | establish | fail | giveUp | rest => cases h
  | retry | answer | resume | finish => exact ⟨_, rfl⟩

theorem since_eq_asked_iff {request : Request} {c : κ} :
    progress.since = some (.asked request c) ↔
      (⟨errand, progress⟩ : (errand : Errand) × Progress κ errand) =
        ⟨.call request, .awaiting c⟩ := by
  constructor
  · intro h
    cases progress with
    | stage | announcing | ending => cases h
    | awaiting c' =>
      cases errand with
      | redial => cases h
      | call request' =>
        cases h
        rfl
  · intro h
    cases h
    rfl

theorem since_eq_dialed_iff {c : κ} :
    progress.since = some (.dialed (.ok c)) ↔ progress = .announcing c := by
  constructor
  · intro h
    cases progress with
    | stage | ending => cases h
    | announcing c' =>
      cases h
      rfl
    | awaiting c' =>
      cases errand with
      | redial => cases h
      | call request' => cases h
  · rintro rfl
    rfl

/-! ### The next deed -/

/-- A caller takes every answer. -/
theorem exists_works_heard {request : Request} {c : κ} (answer : NodeAnswer request.Answer) :
    ∃ client' progress', Works limit (.call request) client (.awaiting c) (.heard request answer)
      client' progress' := by
  rcases h : client.answered answer with ⟨client', _ | result⟩
  · exact ⟨_, _, .retry h⟩
  · exact ⟨_, _, .answer h⟩

/-- A caller takes every outcome of a dial. -/
theorem exists_works_dialed {attempt : Nat} (outcome : NodeAnswer κ) :
    ∃ client' progress', Works limit errand client (.stage (.dialing attempt)) (.dialed outcome)
      client' progress' := by
  cases outcome with
  | ok c => exact ⟨_, _, .establish⟩
  | error e =>
    by_cases reached : ∃ n, limit = some n ∧ n ≤ attempt
    · exact ⟨_, _, .giveUp (dialed_error_eq_gaveUp_iff.mpr ⟨reached, rfl, rfl⟩)⟩
    · have more : ∀ n, limit = some n → attempt < n := fun n hn =>
        Nat.lt_of_not_le fun hle => reached ⟨n, hn, hle⟩
      exact ⟨_, _, .fail (dialed_error_eq_again_iff.mpr ⟨more, rfl, rfl⟩)⟩

/-- Before its end, a caller can always go on. -/
theorem Doing.exists_works (client : RedialingClient κ) (h : Doing limit deeds progress) :
    (∃ result, progress = .ending result) ∨
      ∃ deed client' progress', Works limit errand client progress deed client' progress' := by
  cases progress with
  | ending result => exact Or.inl ⟨result, rfl⟩
  | announcing c =>
    cases errand with
    | call request => exact Or.inr ⟨_, _, _, .resume⟩
    | redial => exact Or.inr ⟨_, _, _, .finish⟩
  | awaiting c =>
    obtain ⟨request, rfl⟩ := h.calls trivial
    exact Or.inr ⟨_, exists_works_heard (.error (.rpc ""))⟩
  | stage s =>
    cases s with
    | invoking c =>
      obtain ⟨request, rfl⟩ := h.calls trivial
      exact Or.inr ⟨_, _, _, .ask⟩
    | dialing attempt => exact Or.inr ⟨_, exists_works_dialed (.error (.rpc ""))⟩
    | pausing attempt => exact Or.inr ⟨_, _, _, .rest⟩

end

end PaymentChannel
