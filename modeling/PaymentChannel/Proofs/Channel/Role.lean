import PaymentChannel.Channel.View

/-!
# The two ends of a channel

A rule of the dispute picks the end it reads and the end it changes by address.  Here an end is
named by its `Role` instead, so that a statement about both ends is one statement about a role.

* `Channel.party`, `Channel.setParty` : the end in a role, and the channel with it replaced.
* `Channel.Distinct` : the two ends have different addresses.
* `Channel.ends_eq_ok`, `Channel.ends_eq_error` : what a lookup by address finds is the end in some
  role, and it finds nothing for any other address.
* `Channel.ends_address`, `Channel.updateEnd_address` : on different addresses, the lookup and the
  change by the address of an end reach exactly that end.
-/

namespace PaymentChannel

/-- One of the two ends of a channel. -/
inductive Role where
  | ours
  | partner
  deriving DecidableEq

namespace Role

/-- The opposite end. -/
def other : Role → Role
  | ours => partner
  | partner => ours

@[simp] theorem other_other (r : Role) : r.other.other = r := by cases r <;> rfl

@[simp] theorem other_ne (r : Role) : r.other ≠ r := by cases r <;> decide

@[simp] theorem ne_other (r : Role) : r ≠ r.other := r.other_ne.symm

theorem eq_or_eq_other (r s : Role) : s = r ∨ s = r.other := by
  cases r <;> cases s <;> simp [other]

theorem forall_iff {P : Role → Prop} : (∀ r, P r) ↔ P ours ∧ P partner := by
  constructor
  · exact fun h => ⟨h ours, h partner⟩
  · rintro ⟨ho, hp⟩ r
    cases r
    · exact ho
    · exact hp

end Role

namespace Channel

variable {c : Channel} {r s : Role}

/-- The end in the given role. -/
def party (c : Channel) : Role → Participant
  | .ours => c.ours
  | .partner => c.partner

/-- The channel with the end in the given role replaced. -/
def setParty (c : Channel) : Role → Participant → Channel
  | .ours, p => { c with ours := p }
  | .partner, p => { c with partner := p }

/-- The two ends have different addresses. -/
def Distinct (c : Channel) : Prop := c.ours.address ≠ c.partner.address

instance (c : Channel) : Decidable c.Distinct :=
  inferInstanceAs (Decidable (c.ours.address ≠ c.partner.address))

/-! ## Replacing an end -/

section setParty

variable (c : Channel) (r : Role) (p : Participant)

@[simp] theorem party_setParty : (c.setParty r p).party r = p := by cases r <;> rfl

@[simp] theorem party_setParty_other : (c.setParty r p).party r.other = c.party r.other := by
  cases r <;> rfl

@[simp] theorem identifier_setParty : (c.setParty r p).identifier = c.identifier := by
  cases r <;> rfl

@[simp] theorem openBlock_setParty : (c.setParty r p).openBlock = c.openBlock := by
  cases r <;> rfl

@[simp] theorem settleTimeout_setParty : (c.setParty r p).settleTimeout = c.settleTimeout := by
  cases r <;> rfl

@[simp] theorem punishWindow_setParty : (c.setParty r p).punishWindow = c.punishWindow := by
  cases r <;> rfl

@[simp] theorem closeTransaction_setParty :
    (c.setParty r p).closeTransaction = c.closeTransaction := by cases r <;> rfl

@[simp] theorem updateTransaction_setParty :
    (c.setParty r p).updateTransaction = c.updateTransaction := by cases r <;> rfl

@[simp] theorem settleTransaction_setParty :
    (c.setParty r p).settleTransaction = c.settleTransaction := by cases r <;> rfl

@[simp] theorem closingParticipant_setParty :
    (c.setParty r p).closingParticipant = c.closingParticipant := by cases r <;> rfl

@[simp] theorem punishments_setParty : (c.setParty r p).punishments = c.punishments := by
  cases r <;> rfl

@[simp] theorem settlement_setParty : (c.setParty r p).settlement = c.settlement := by
  cases r <;> rfl

end setParty

/-! ## Lookup by address -/

theorem Distinct.ne (h : c.Distinct) (r : Role) :
    (c.party r).address ≠ (c.party r.other).address := by
  cases r
  · exact h
  · exact h.symm

/-- On different addresses the address tells the role. -/
theorem Distinct.role_eq (h : c.Distinct) (e : (c.party r).address = (c.party s).address) :
    r = s := by
  rcases r.eq_or_eq_other s with rfl | rfl
  · rfl
  · exact absurd e (h.ne r)

theorem Distinct.role_eq_of_other (h : c.Distinct)
    (e : (c.party r.other).address = (c.party s.other).address) : r = s := by
  have same := congrArg Role.other (h.role_eq e)
  rwa [Role.other_other, Role.other_other] at same

theorem distinct_of_addresses {d : Channel} (h : c.Distinct)
    (ha : ∀ r, (d.party r).address = (c.party r).address) : d.Distinct := by
  have ours := ha .ours
  have partner := ha .partner
  simp only [party] at ours partner
  rw [Distinct, ours, partner]
  exact h

/-- What a lookup finds is the end in some role, with that address, and the opposite one. -/
theorem ends_eq_ok {x : Address} {a b : Participant} (h : c.ends x = .ok (a, b)) :
    ∃ r, x = (c.party r).address ∧ a = c.party r ∧ b = c.party r.other := by
  unfold ends at h
  split at h
  · next e =>
    cases h
    exact ⟨.ours, e, rfl, rfl⟩
  · split at h
    · next e =>
      cases h
      exact ⟨.partner, e, rfl, rfl⟩
    · cases h

theorem ends_eq_error {x : Address} (h : ∀ r, x ≠ (c.party r).address) :
    c.ends x = .error (.validation (.notParticipant x c.identifier.channel)) := by
  have hours : x ≠ c.ours.address := h .ours
  have hpartner : x ≠ c.partner.address := h .partner
  rw [ends, if_neg hours, if_neg hpartner]

theorem ends_address (h : c.Distinct) (r : Role) :
    c.ends (c.party r).address = .ok (c.party r, c.party r.other) := by
  cases r
  · simp [ends, party, Role.other]
  · simp [ends, party, Role.other, Ne.symm h]

theorem counterparty_eq_ok {x y : Address} (h : c.counterparty x = .ok y) :
    ∃ r, x = (c.party r.other).address ∧ y = (c.party r).address := by
  unfold counterparty at h
  cases he : c.ends x with
  | error e => rw [he] at h; cases h
  | ok e =>
    obtain ⟨a, b⟩ := e
    rw [he] at h
    cases h
    obtain ⟨r, hx, -, rfl⟩ := ends_eq_ok he
    exact ⟨r.other, by rwa [Role.other_other], rfl⟩

theorem counterparty_address (h : c.Distinct) (r : Role) :
    c.counterparty (c.party r.other).address = .ok (c.party r).address := by
  rw [counterparty, ends_address h, Role.other_other]
  rfl

theorem updateEnd_address (h : c.Distinct) (r : Role) (f : Participant → Participant) :
    c.updateEnd (c.party r).address f = c.setParty r (f (c.party r)) := by
  cases r
  · simp [updateEnd, party, setParty]
  · simp [updateEnd, party, setParty, Ne.symm h]

end Channel

end PaymentChannel
