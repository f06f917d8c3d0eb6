import PaymentChannel.Proofs.Lock.Soundness

/-!
# Every committed leaf has an inclusion proof

The leaves of a tree are in strict order, so looking a leaf up by halving finds it exactly if it is
there.  From its position the siblings are read layer by layer; a node without a sibling moves up as
it is, and so does the proof.

* `LockTree.pairwise_sortLeaves` : the leaves are in strict order.
* `LockTree.lt_iff_of_getElem?`, `LockTree.search_eq_some_iff` : positions are in the order of the
  leaves, so halving finds the position of a leaf, and only that.
* `LockTree.getElem?_parents` : a node and its sibling, if it has one, lead to its parent.
* `LockTree.top_layersAbove` : the siblings lead from a node to the root of the layers above it.
* `LockTree.inclusion_complete` : every committed leaf has a proof that verifies, and nothing else
  has one.
-/

namespace PaymentChannel

/-! ## The order of hashes -/

namespace Hash

variable {a b : Hash}

theorem lt_iff_toNat : a < b ↔ a.bits.toNat < b.bits.toNat := BitVec.lt_def

theorem eq_iff_toNat : a = b ↔ a.bits.toNat = b.bits.toNat := by
  constructor
  · rintro rfl
    rfl
  · intro h
    cases a
    cases b
    exact congrArg Hash.mk (BitVec.eq_of_toNat_eq h)

end Hash

theorem pairBytes_comm (a b : Hash) : pairBytes a b = pairBytes b a := by
  rw [pairBytes, pairBytes]
  by_cases hab : a < b
  · have hba : ¬b < a := by
      rw [Hash.lt_iff_toNat] at hab ⊢
      omega
    rw [if_pos hab, if_neg hba]
  · by_cases hba : b < a
    · rw [if_neg hab, if_pos hba]
    · have same : a = b := by
        rw [Hash.lt_iff_toNat] at hab hba
        rw [Hash.eq_iff_toNat]
        omega
      rw [same]

theorem hashPair_comm (a b : Hash) : hashPair a b = hashPair b a := by
  rw [hashPair_eq, hashPair_eq, pairBytes_comm]

namespace LockTree

variable {leaf : Hash} {leaves : List Hash}

/-! ## Leaves in order -/

theorem pairwise_insertLeaf (h : leaves.Pairwise (· < ·)) :
    (insertLeaf leaf leaves).Pairwise (· < ·) := by
  induction leaves with
  | nil => simp [insertLeaf]
  | cons first rest ih =>
    obtain ⟨hfirst, hrest⟩ := List.pairwise_cons.mp h
    rw [insertLeaf]
    by_cases hlt : leaf < first
    · rw [if_pos hlt]
      refine List.pairwise_cons.mpr ⟨fun x hx => ?_, h⟩
      rcases List.mem_cons.mp hx with rfl | hx
      · exact hlt
      · have := hfirst x hx
        rw [Hash.lt_iff_toNat] at *
        omega
    · rw [if_neg hlt]
      by_cases he : leaf = first
      · rwa [if_pos he]
      · rw [if_neg he]
        refine List.pairwise_cons.mpr ⟨fun x hx => ?_, ih hrest⟩
        rcases mem_insertLeaf.mp hx with rfl | hx
        · rw [Hash.lt_iff_toNat] at hlt ⊢
          rw [Hash.eq_iff_toNat] at he
          omega
        · exact hfirst x hx

theorem pairwise_sortLeaves (leaves : List Hash) : (sortLeaves leaves).Pairwise (· < ·) := by
  induction leaves with
  | nil => exact List.Pairwise.nil
  | cons first rest ih => exact pairwise_insertLeaf ih

/-! ## Looking a leaf up -/

theorem getElem?_of_search {low high i : Nat} (h : search leaves leaf low high = some i) :
    leaves[i]? = some leaf := by
  fun_induction search leaves leaf low high with
  | case1 => cases h
  | case2 low high hlt middle hfound =>
    obtain rfl : middle = i := Option.some.inj h
    exact hfound
  | case3 low high hlt middle found hfound hne hless ih => exact ih h
  | case4 low high hlt middle found hfound hne hless ih => exact ih h
  | case5 => cases h

theorem lt_iff_of_getElem? (ordered : leaves.Pairwise (· < ·)) {a b : Hash} {i j : Nat}
    (ha : leaves[i]? = some a) (hb : leaves[j]? = some b) : a < b ↔ i < j := by
  obtain ⟨hi, rfl⟩ := List.getElem?_eq_some_iff.mp ha
  obtain ⟨hj, rfl⟩ := List.getElem?_eq_some_iff.mp hb
  have forward := List.pairwise_iff_getElem.mp ordered
  constructor
  · intro hlt
    rw [Hash.lt_iff_toNat] at hlt
    rcases Nat.lt_trichotomy i j with hij | rfl | hji
    · exact hij
    · omega
    · have := Hash.lt_iff_toNat.mp (forward j i hj hi hji)
      omega
  · exact forward i j hi hj

theorem search_of_getElem? (ordered : leaves.Pairwise (· < ·)) {low high i : Nat}
    (hi : leaves[i]? = some leaf) (hlow : low ≤ i) (hhigh : i < high)
    (hlength : high ≤ leaves.length) : search leaves leaf low high = some i := by
  -- The position stays between the two ends, which move towards each other.
  fun_induction search leaves leaf low high with
  | case1 low high hlt middle hnone =>
    have : leaves.length ≤ middle := List.getElem?_eq_none_iff.mp hnone
    omega
  | case2 low high hlt middle hfound =>
    -- The leaf in the middle is the one, since no leaf is below itself.
    have hright := lt_iff_of_getElem? ordered hfound hi
    have hleft := lt_iff_of_getElem? ordered hi hfound
    rw [Hash.lt_iff_toNat] at hright hleft
    have : middle = i := by omega
    rw [this]
  | case3 low high hlt middle found hfound hne hless ih =>
    have right : middle < i := (lt_iff_of_getElem? ordered hfound hi).mp hless
    exact ih right hhigh hlength
  | case4 low high hlt middle found hfound hne hless ih =>
    have reached : ¬middle < i := fun h => hless ((lt_iff_of_getElem? ordered hfound hi).mpr h)
    have apart : middle ≠ i := by
      intro he
      rw [he, hi] at hfound
      exact hne (Option.some.inj hfound).symm
    have left : i < middle := by omega
    exact ih hlow left (by omega)
  | case5 low high hlt => omega

/-- **Halving finds the position of a leaf, and only that.** -/
theorem search_eq_some_iff (ordered : leaves.Pairwise (· < ·)) {i : Nat} :
    search leaves leaf 0 leaves.length = some i ↔ leaves[i]? = some leaf := by
  constructor
  · exact getElem?_of_search
  · intro h
    obtain ⟨hi, -⟩ := List.getElem?_eq_some_iff.mp h
    exact search_of_getElem? ordered h (Nat.zero_le i) hi (Nat.le_refl _)

theorem position?_eq_some_iff {i : Nat} :
    (ofLeaves leaves).position? leaf = some i ↔ (sortLeaves leaves)[i]? = some leaf := by
  rw [position?, leaves_ofLeaves, search_eq_some_iff (pairwise_sortLeaves leaves)]

theorem contains_iff_mem : (ofLeaves leaves).contains leaf = true ↔ leaf ∈ leaves := by
  rw [contains, Option.isSome_iff_exists, ← mem_sortLeaves, List.mem_iff_getElem?]
  exact exists_congr fun _ => position?_eq_some_iff

/-! ## One level of a proof -/

theorem sibling?_cons_cons (a b : Hash) (rest : List Hash) (i : Nat) :
    sibling? (a :: b :: rest) (i + 2) = sibling? rest i := by
  unfold sibling?
  rw [Nat.add_mod_right]
  split
  · rfl
  · have : i + 2 - 1 = i - 1 + 2 := by omega
    rw [this]
    rfl

theorem getElem?_parents {node : Hash} : (layer : List Hash) → (i : Nat) →
    layer[i]? = some node →
      (parents layer)[i / 2]? = some (proofRoot node (sibling? layer i).toList)
  | [], _, h => by cases h
  | [a], i, h => by
    -- The last node of a layer has no sibling and is its own parent.
    obtain rfl : i = 0 := by
      obtain ⟨hi, -⟩ := List.getElem?_eq_some_iff.mp h
      simpa using hi
    exact h
  | a :: b :: rest, 0, h => by
    obtain rfl : a = node := Option.some.inj h
    rfl
  | a :: b :: rest, 1, h => by
    obtain rfl : b = node := Option.some.inj h
    exact congrArg some (hashPair_comm a b)
  | a :: b :: rest, i + 2, h => by
    have half : (i + 2) / 2 = i / 2 + 1 := by omega
    rw [half, sibling?_cons_cons]
    exact getElem?_parents rest i h

/-! ## A whole proof -/

theorem proofRoot_append (node : Hash) (lower upper : List ProofElement) :
    proofRoot node (lower ++ upper) = proofRoot (proofRoot node lower) upper :=
  List.foldl_append

/-- **The siblings lead to the root**, from any node of any layer. -/
theorem top_layersAbove {node : Hash} (layer : List Hash) (i : Nat) (h : layer[i]? = some node) :
    (layersAbove layer).getLast?.bind List.head? =
      some (proofRoot node (siblings (layersAbove layer) i)) := by
  induction layer using layersAbove.induct generalizing node i with
  | case1 layer hlt ih =>
    -- The rest of the siblings lead to the root from the parent.
    have parent := ih (i / 2) (getElem?_parents layer i h)
    obtain ⟨above, e⟩ := layersAbove_eq_cons (parents layer)
    rw [layersAbove, if_pos hlt]
    rw [e] at parent ⊢
    rw [List.getLast?_cons_cons, parent, siblings, proofRoot_append]
  | case2 layer hlt =>
    -- The one node of the top layer is the root.
    obtain ⟨hi, rfl⟩ := List.getElem?_eq_some_iff.mp h
    obtain ⟨a, rfl⟩ := List.length_eq_one_iff.mp (show layer.length = 1 by omega)
    obtain rfl : i = 0 := by simpa using hi
    rw [layersAbove, if_neg hlt]
    rfl

theorem prove_eq_ok_iff {proof : List ProofElement} :
    (ofLeaves leaves).prove leaf = .ok proof ↔
      ∃ i, (sortLeaves leaves)[i]? = some leaf ∧ siblings (ofLeaves leaves).layers i = proof := by
  rw [prove]
  cases hp : (ofLeaves leaves).position? leaf with
  | none =>
    have absent : ∀ i : Nat, (sortLeaves leaves)[i]? ≠ some leaf := by
      intro i hi
      rw [position?_eq_some_iff.mpr hi] at hp
      cases hp
    simp [absent]
  | some i =>
    have hi := position?_eq_some_iff.mp hp
    constructor
    · intro h
      exact ⟨i, hi, Except.ok.inj h⟩
    · rintro ⟨j, hj, rfl⟩
      obtain rfl : i = j := Option.some.inj (hp.symm.trans (position?_eq_some_iff.mpr hj))
      rfl

theorem proofRoot_of_prove {proof : List ProofElement}
    (h : (ofLeaves leaves).prove leaf = .ok proof) :
    proofRoot leaf proof = (ofLeaves leaves).root := by
  obtain ⟨i, hi, rfl⟩ := prove_eq_ok_iff.mp h
  have top := top_layersAbove (sortLeaves leaves) i hi
  rw [root, ofLeaves, top]
  rfl

/-- **Every committed leaf has an inclusion proof, and nothing else has one.**  The proof verifies
against the commitment unless this is the commitment over no locks. -/
theorem inclusion_complete (leaves : List Hash) (leaf : Hash) :
    ((ofLeaves leaves).contains leaf = true ↔ leaf ∈ leaves) ∧
    ((∃ proof, (ofLeaves leaves).prove leaf = .ok proof) ↔ leaf ∈ leaves) ∧
    (leaf ∉ leaves → (ofLeaves leaves).prove leaf = .error .proofNotFound) ∧
    ∀ proof, (ofLeaves leaves).prove leaf = .ok proof →
      (ofLeaves leaves).root ≠ emptyLocksroot →
        verifyProof leaf proof (ofLeaves leaves).root = true := by
  refine ⟨contains_iff_mem, ?_, ?_, ?_⟩
  · rw [← mem_sortLeaves, List.mem_iff_getElem?]
    constructor
    · rintro ⟨proof, h⟩
      obtain ⟨i, hi, -⟩ := prove_eq_ok_iff.mp h
      exact ⟨i, hi⟩
    · rintro ⟨i, hi⟩
      exact ⟨_, prove_eq_ok_iff.mpr ⟨i, hi, rfl⟩⟩
  · intro h
    have absent : (ofLeaves leaves).position? leaf = none := by
      rw [← contains_iff_mem, contains] at h
      simpa using h
    rw [prove, absent]
  · intro proof h hne
    have reached := proofRoot_of_prove h
    simp [verifyProof, hne, reached]

/-- Of three leaves the last one has no sibling, so it moves up a layer as it is. -/
theorem inclusion_complete_odd : ∃ proof,
    (ofLeaves [⟨3⟩, ⟨1⟩, ⟨2⟩, ⟨3⟩]).prove ⟨3⟩ = .ok proof ∧
    (ofLeaves [⟨3⟩, ⟨1⟩, ⟨2⟩, ⟨3⟩]).root ≠ emptyLocksroot ∧
    verifyProof ⟨3⟩ proof (ofLeaves [⟨3⟩, ⟨1⟩, ⟨2⟩, ⟨3⟩]).root = true ∧
    (ofLeaves [⟨3⟩, ⟨1⟩, ⟨2⟩, ⟨3⟩]).prove ⟨4⟩ = .error .proofNotFound := by
  have leaves : sortLeaves [⟨3⟩, ⟨1⟩, ⟨2⟩, ⟨3⟩] = [⟨1⟩, ⟨2⟩, ⟨3⟩] := by decide
  have top : (ofLeaves [⟨3⟩, ⟨1⟩, ⟨2⟩, ⟨3⟩]).root = hashPair (hashPair ⟨1⟩ ⟨2⟩) ⟨3⟩ := by
    rw [root, ofLeaves, leaves]
    simp [layersAbove, parents]
  have nonempty : (ofLeaves [⟨3⟩, ⟨1⟩, ⟨2⟩, ⟨3⟩]).root ≠ emptyLocksroot := by
    rw [top]
    decide +kernel
  obtain ⟨-, provable, -, verifies⟩ := inclusion_complete [⟨3⟩, ⟨1⟩, ⟨2⟩, ⟨3⟩] ⟨3⟩
  obtain ⟨-, -, absent, -⟩ := inclusion_complete [⟨3⟩, ⟨1⟩, ⟨2⟩, ⟨3⟩] ⟨4⟩
  obtain ⟨proof, h⟩ := provable.mpr (by decide)
  exact ⟨proof, h, nonempty, verifies proof h nonempty, absent (by decide)⟩

end LockTree

end PaymentChannel
