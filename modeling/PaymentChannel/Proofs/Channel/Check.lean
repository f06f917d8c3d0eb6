import PaymentChannel.Channel.Transition
import PaymentChannel.Proofs.Channel.Role

/-!
# What the checks of the dispute accept

Each check is a sequence of guards that may refuse.  The predicates below say what it means that
none of them does, and the lemmas say that a check accepts exactly then.

* `Channel.Authentic` : a balance proof of this channel, signed by the end in a role.
* `Channel.Supersedes` : a balance proof that is newer than the recorded one, if there is one.
* `Channel.Punishable` : the evidence behind a punishment.
* `Channel.checkBalanceProof_eq_ok_iff`, `Channel.checkUpdate_eq_ok_iff`,
  `Channel.checkPunish_eq_ok_iff` : the checks accept exactly that.
-/

namespace PaymentChannel

/-! ## Guards -/

section Guards

variable {ε α β : Type} {x : Except ε α} {f : α → Except ε β} {e : ε} {b : β}

theorem bind_eq_ok_iff : (x >>= f) = .ok b ↔ ∃ a, x = .ok a ∧ f a = .ok b := by
  cases x <;> simp [bind, Except.bind]

theorem bind_eq_error_iff :
    (x >>= f) = .error e ↔ x = .error e ∨ ∃ a, x = .ok a ∧ f a = .error e := by
  cases x <;> simp [bind, Except.bind]

@[simp] theorem error_bind : ((.error e : Except ε α) >>= f) = .error e := rfl

theorem ok_bind {a : α} : ((.ok a : Except ε α) >>= f) = f a := rfl

@[simp] theorem pure_eq_ok_iff {a a' : α} : (pure a : Except ε α) = .ok a' ↔ a = a' := by
  simp [pure, Except.pure]

theorem ite_error_eq_ok_iff {p : Prop} [Decidable p] {a : α} :
    (if p then .error e else x) = .ok a ↔ ¬p ∧ x = .ok a := by
  split <;> simp_all

theorem mapError_eq_ok_iff {ε' : Type} {g : ε → ε'} {a : α} :
    x.mapError g = .ok a ↔ x = .ok a := by
  cases x with
  | error => exact ⟨(nomatch ·), (nomatch ·)⟩
  | ok value =>
    constructor
    · rintro ⟨⟩
      rfl
    · rintro ⟨⟩
      rfl

end Guards

namespace Channel

variable {c : Channel} {block : BlockNumber}

/-! ## Balance proofs -/

/-- A balance proof of this channel, signed by the end in the given role. -/
structure Authentic (c : Channel) (signer : Role) (proof : BalanceProof) : Prop where
  identifier : proof.identifier = c.identifier
  openBlock : proof.openBlock = c.openBlock
  verify : proof.verify (c.party signer).address = .ok ()

theorem checkBalanceProof_eq_ok_iff {signer : Role} {proof : BalanceProof} :
    c.checkBalanceProof proof (c.party signer).address = .ok () ↔ c.Authentic signer proof := by
  simp only [checkBalanceProof, ite_error_eq_ok_iff, ne_eq, Decidable.not_not]
  exact ⟨fun ⟨h₁, h₂, h₃⟩ => ⟨h₁, h₂, h₃⟩, fun h => ⟨h.identifier, h.openBlock, h.verify⟩⟩

/-- The proof is newer than the recorded one, if there is one, and takes nothing back. -/
def Supersedes (proof : BalanceProof) (recorded : Option BalanceProof) : Prop :=
  ∀ r, recorded = some r → r.nonce < proof.nonce ∧ r.transferredAmount ≤ proof.transferredAmount

theorem checkNewer_eq_ok_iff {proof : BalanceProof} {recorded : Option BalanceProof} :
    checkNewer proof recorded = .ok () ↔ Supersedes proof recorded := by
  cases recorded with
  | none => simp [checkNewer, Supersedes]
  | some r => simp [checkNewer, Supersedes, ite_error_eq_ok_iff]

theorem requireSettleTimeoutEnd_eq_ok_iff {e : BlockNumber} :
    c.requireSettleTimeoutEnd = .ok e ↔ c.settleTimeoutEnd = some e := by
  unfold requireSettleTimeoutEnd
  split <;> simp_all

theorem checkUnderDispute_eq_ok_iff {u : Unit} :
    c.checkUnderDispute = .ok u ↔ c.status.isUnderDispute = true := by
  unfold checkUnderDispute
  split <;> simp_all

theorem checkUpdate_eq_ok_iff (h : c.Distinct) {signer : Role} {proof : BalanceProof} :
    c.checkUpdate proof (c.party signer).address block = .ok () ↔
      (∃ e, c.settleTimeoutEnd = some e ∧ block ≤ e) ∧ c.Authentic signer proof ∧
        Supersedes proof (c.party signer).balanceProof := by
  simp only [checkUpdate, bind_eq_ok_iff, error_bind, ite_error_eq_ok_iff, UInt64.not_lt,
    requireSettleTimeoutEnd_eq_ok_iff, ends_address h]
  constructor
  · rintro ⟨e, he, hle, ⟨⟩, hproof, _, ⟨⟩, hnewer⟩
    exact ⟨⟨e, he, hle⟩, checkBalanceProof_eq_ok_iff.mp hproof, checkNewer_eq_ok_iff.mp hnewer⟩
  · rintro ⟨⟨e, he, hle⟩, hproof, hnewer⟩
    exact ⟨e, he, hle, (), checkBalanceProof_eq_ok_iff.mpr hproof, _, rfl,
      checkNewer_eq_ok_iff.mpr hnewer⟩

/-! ## Punishments -/

/-- The evidence behind a punishment: a declaration by the cheater that a lock is obsolete, and a
proof that the beneficiary's balance proof, recorded by an update at `updated`, commits to it. -/
structure Punishable (c : Channel) (beneficiary cheater : Participant) (request : PunishRequest)
    (lock : Lock) (block : BlockNumber) (updated : BlockNumber) (proof : BalanceProof) : Prop where
  identifier : request.identifier = c.identifier
  openBlock : request.openBlock = c.openBlock
  ends : c.ends request.beneficiary = .ok (beneficiary, cheater)
  updateBlock : beneficiary.updateBlock = some updated
  balanceProof : beneficiary.balanceProof = some proof
  inWindow : block ≤ updated.saturatingAdd c.punishWindow
  signer : request.signer = .ok cheater.address
  hash : lock.hash = request.lockHash
  committed : verifyProof request.lockHash request.merkleProof proof.locksroot = true
  unpunished : c.isLockPunished cheater.address request.lockHash = false

/-- The evidence names the beneficiary by its address. -/
theorem Punishable.beneficiary_eq (hc : c.Distinct) {r : Role} {cheater : Participant}
    {request : PunishRequest} {lock : Lock} {updated : BlockNumber} {proof : BalanceProof}
    (evidence : c.Punishable (c.party r) cheater request lock block updated proof) :
    request.beneficiary = (c.party r).address := by
  obtain ⟨s, found, same, -⟩ := ends_eq_ok evidence.ends
  obtain rfl : r = s := hc.role_eq (congrArg Participant.address same)
  exact found

theorem updateOf_eq_ok_iff {p : Participant} {u : BlockNumber} {root : Hash} :
    updateOf p = .ok (u, root) ↔
      ∃ proof, p.updateBlock = some u ∧ p.balanceProof = some proof ∧ root = proof.locksroot := by
  unfold updateOf
  split
  · next u' proof hu hp =>
    rw [hu, hp]
    constructor
    · intro h
      cases h
      exact ⟨proof, rfl, rfl, rfl⟩
    · rintro ⟨_, ⟨⟩, ⟨⟩, rfl⟩
      rfl
  · next hne =>
    constructor
    · intro h
      cases h
    · rintro ⟨proof, hu, hp, -⟩
      exact absurd hp (hne u proof hu)

theorem checkPunish_eq_ok_iff {sender : Address} {request : PunishRequest} {lock : Lock}
    {result : Address × Hash} :
    c.checkPunish sender request lock block = .ok result ↔
      (∃ e, c.ends sender = .ok e) ∧ ∃ beneficiary cheater updated proof,
        c.Punishable beneficiary cheater request lock block updated proof ∧
          result = (cheater.address, proof.locksroot) := by
  simp only [checkPunish, bind_eq_ok_iff, error_bind, ite_error_eq_ok_iff, UInt64.not_lt, not_or,
    ne_eq, Decidable.not_not, Bool.not_eq_true', Bool.not_eq_true, Bool.not_eq_false,
    pure_eq_ok_iff, Prod.exists, updateOf_eq_ok_iff]
  constructor
  · rintro ⟨a, b, hs, ⟨hid, hopen⟩, beneficiary, cheater, hends, u, _, ⟨proof, hu, hp, rfl⟩, hw, x,
      hx, rfl, hh, hv, hn, rfl⟩
    exact ⟨⟨a, b, hs⟩, beneficiary, cheater, u, proof,
      ⟨hid, hopen, hends, hu, hp, hw, hx, hh, hv, hn⟩, rfl⟩
  · rintro ⟨⟨a, b, hs⟩, beneficiary, cheater, u, proof, h, rfl⟩
    exact ⟨a, b, hs, ⟨h.identifier, h.openBlock⟩, beneficiary, cheater, h.ends, u, proof.locksroot,
      ⟨proof, h.updateBlock, h.balanceProof, rfl⟩, h.inWindow, _, h.signer, rfl, h.hash,
      h.committed, h.unpunished, rfl⟩

end Channel

end PaymentChannel
