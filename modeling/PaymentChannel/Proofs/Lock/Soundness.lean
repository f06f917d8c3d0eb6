import PaymentChannel.Lock.Tree
import PaymentChannel.Proofs.ByteForms
import PaymentChannel.Proofs.Evidence

/-!
# What a commitment over locks binds

Leaves and inner nodes are hashes of the same kind.  What tells them apart is the length of the
strings that were hashed: 96 bytes for a lock, 64 bytes for a pair of nodes.

* `Collides` : two different ones of some byte strings have the same hash.
* `pairBytes`, `LockTree.hashed`, `proofHashed` : the strings hashed for a pair, for the inner nodes
  of a tree and for the steps of an inclusion proof.
* `LockTree.mem_nodes_cases` : a node of a tree is a leaf or the hash of a pair of nodes.
* `LockTree.mem_nodes_of_proofRoot` : an inclusion proof that ends in the tree starts in the tree.
* `LockTree.encoded_cases` : what an inclusion proof of a lock shows is that the lock has the
  encoded form of a committed one or the bytes of an inner node, unless there is a collision.
* `LockTree.inclusion_sound` : a lock as it is created has no room for an inner node, so its
  inclusion proof shows that it is committed.
-/

namespace PaymentChannel

/-! ## Collisions -/

/-- Two different ones of the byte strings have the same hash. -/
def Collides (inputs : List Bytes) : Prop :=
  ∃ a ∈ inputs, ∃ b ∈ inputs, a ≠ b ∧ keccak256 a = keccak256 b

theorem eq_or_collides {inputs : List Bytes} {a b : Bytes} (ha : a ∈ inputs) (hb : b ∈ inputs)
    (h : keccak256 a = keccak256 b) : a = b ∨ Collides inputs := by
  by_cases e : a = b
  · exact Or.inl e
  · exact Or.inr ⟨a, ha, b, hb, e, h⟩

theorem collides_pair_iff {a b : Bytes} :
    Collides [a, b] ↔ a ≠ b ∧ keccak256 a = keccak256 b := by
  constructor
  · rintro ⟨x, hx, y, hy, ne, h⟩
    simp only [List.mem_cons, List.not_mem_nil, or_false] at hx hy
    rcases hx with rfl | rfl <;> rcases hy with rfl | rfl
    · exact absurd rfl ne
    · exact ⟨ne, h⟩
    · exact ⟨ne.symm, h.symm⟩
    · exact absurd rfl ne
  · rintro ⟨ne, h⟩
    exact ⟨a, List.mem_cons_self, b, List.mem_cons_of_mem _ List.mem_cons_self, ne, h⟩

theorem not_collides_of_leftInverse {inputs : List Bytes} (g : Hash → Bytes)
    (h : ∀ a ∈ inputs, g (keccak256 a) = a) : ¬Collides inputs := by
  rintro ⟨a, ha, b, hb, hne, e⟩
  apply hne
  rw [← h a ha, ← h b hb, e]

/-! ## Encoded locks -/

namespace Lock

@[simp] theorem length_encodeFields (amount : Amount) (expiration : BlockNumber)
    (secretHash : Hash) : (encodeFields amount expiration secretHash).length = 96 := by
  simp [encodeFields, Quantity.word, Amount.bytes]

theorem length_encoded {lock : Lock}
    (created : ∃ amount expiration secretHash, lock = create amount expiration secretHash) :
    lock.encoded.length = 96 := by
  obtain ⟨amount, expiration, secretHash, rfl⟩ := created
  exact length_encodeFields ..

theorem encodeFields_inj {amount amount' : Amount} {expiration expiration' : BlockNumber}
    {secretHash secretHash' : Hash}
    (h : encodeFields amount expiration secretHash =
      encodeFields amount' expiration' secretHash') :
    amount = amount' ∧ expiration = expiration' ∧ secretHash = secretHash' := by
  have width : ∀ q : Quantity, q.word.length = 32 := fun q => length_bigEndian ..
  have widths : ∀ (q : Quantity) (a : Amount), (q.word ++ a.bytes).length = 64 := by
    intro q a
    simp [Quantity.word, Amount.bytes]
  obtain ⟨front, hs⟩ := List.append_inj h (by rw [widths, widths])
  obtain ⟨he, ha⟩ := List.append_inj front (by rw [width, width])
  exact ⟨Amount.bytes_inj ha, Quantity.word_inj he, Hash.bytes_inj hs⟩

end Lock

/-! ## Pairs of nodes -/

/-- What is hashed for a pair of nodes. -/
def pairBytes (a b : Hash) : Bytes := if a < b then a.bytes ++ b.bytes else b.bytes ++ a.bytes

theorem hashPair_eq (a b : Hash) : hashPair a b = keccak256 (pairBytes a b) := by
  rw [hashPair, pairBytes]
  split <;> rfl

@[simp] theorem length_pairBytes (a b : Hash) : (pairBytes a b).length = 64 := by
  rw [pairBytes]
  split <;> simp

theorem pairBytes_inj {a b c d : Hash} (h : pairBytes a b = pairBytes c d) :
    a = c ∧ b = d ∨ a = d ∧ b = c := by
  have front : ∀ {w x y z : Hash}, w.bytes ++ x.bytes = y.bytes ++ z.bytes → w = y ∧ x = z := by
    intro w x y z e
    obtain ⟨e₁, e₂⟩ := List.append_inj e (by simp)
    exact ⟨Hash.bytes_inj e₁, Hash.bytes_inj e₂⟩
  rw [pairBytes, pairBytes] at h
  split at h <;> split at h
  · exact Or.inl (front h)
  · exact Or.inr (front h)
  · obtain ⟨hb, ha⟩ := front h
    exact Or.inr ⟨ha, hb⟩
  · obtain ⟨hb, ha⟩ := front h
    exact Or.inl ⟨ha, hb⟩

/-- What is hashed on the way from a leaf along an inclusion proof. -/
def proofHashed (node : Hash) : List ProofElement → List Bytes
  | [] => []
  | element :: rest =>
    pairBytes node element.hash :: proofHashed (hashPair node element.hash) rest

namespace LockTree

/-! ## The nodes of a tree -/

/-- What is hashed for the parents of a layer. -/
def pairs : List Hash → List Bytes
  | a :: b :: rest => pairBytes a b :: pairs rest
  | _ => []

/-- What is hashed for the inner nodes. -/
def hashed (tree : LockTree) : List Bytes := tree.layers.flatMap pairs

/-- All nodes. -/
def nodes (tree : LockTree) : List Hash := tree.layers.flatten

theorem length_of_mem_pairs {bytes : Bytes} :
    (layer : List Hash) → bytes ∈ pairs layer → bytes.length = 64
  | [], h => by cases h
  | [_], h => by cases h
  | a :: b :: rest, h => by
    rcases List.mem_cons.mp h with rfl | h
    · exact length_pairBytes a b
    · exact length_of_mem_pairs rest h

theorem length_of_mem_hashed {tree : LockTree} {bytes : Bytes} (h : bytes ∈ tree.hashed) :
    bytes.length = 64 := by
  obtain ⟨layer, -, h⟩ := List.mem_flatMap.mp h
  exact length_of_mem_pairs layer h

theorem mem_insertLeaf {a leaf : Hash} {leaves : List Hash} :
    a ∈ insertLeaf leaf leaves ↔ a = leaf ∨ a ∈ leaves := by
  induction leaves with
  | nil => simp [insertLeaf]
  | cons first rest ih =>
    rw [insertLeaf]
    split
    · simp
    · split
      · next e => simp [e]
      · simp only [List.mem_cons, ih]
        exact or_left_comm

theorem mem_sortLeaves {a : Hash} {leaves : List Hash} : a ∈ sortLeaves leaves ↔ a ∈ leaves := by
  induction leaves with
  | nil => rfl
  | cons first rest ih => rw [sortLeaves, List.foldr_cons, mem_insertLeaf, List.mem_cons, ← ih]; rfl

theorem layersAbove_eq_cons (layer : List Hash) : ∃ above, layersAbove layer = layer :: above := by
  rw [layersAbove]
  split
  · exact ⟨_, rfl⟩
  · exact ⟨_, rfl⟩

theorem leaves_ofLeaves (leaves : List Hash) : (ofLeaves leaves).leaves = sortLeaves leaves := by
  obtain ⟨above, e⟩ := layersAbove_eq_cons (sortLeaves leaves)
  rw [LockTree.leaves, ofLeaves, e]
  rfl

/-- A parent was on the layer or is the hash of a pair on it. -/
theorem mem_parents_cases {n : Hash} :
    (layer : List Hash) → n ∈ parents layer → n ∈ layer ∨ ∃ a ∈ layer, ∃ b ∈ layer,
      n = hashPair a b ∧ pairBytes a b ∈ pairs layer
  | [], h => by cases h
  | [_], h => Or.inl h
  | a :: b :: rest, h => by
    rcases List.mem_cons.mp h with rfl | h
    · exact Or.inr ⟨a, by simp, b, by simp, rfl, List.mem_cons_self⟩
    · rcases mem_parents_cases rest h with hn | ⟨x, hx, y, hy, e, hp⟩
      · exact Or.inl (by simp [hn])
      · exact Or.inr ⟨x, by simp [hx], y, by simp [hy], e, List.mem_cons_of_mem _ hp⟩

theorem mem_layersAbove_cases {n : Hash} (layer : List Hash)
    (h : n ∈ (layersAbove layer).flatten) :
    n ∈ layer ∨ ∃ a ∈ (layersAbove layer).flatten, ∃ b ∈ (layersAbove layer).flatten,
      n = hashPair a b ∧ pairBytes a b ∈ (layersAbove layer).flatMap pairs := by
  induction layer using layersAbove.induct with
  | case1 layer hlt ih =>
    rw [layersAbove, if_pos hlt] at h ⊢
    simp only [List.flatten_cons, List.mem_append, List.flatMap_cons] at h ⊢
    rcases h with h | h
    · exact Or.inl h
    · rcases ih h with hn | ⟨a, ha, b, hb, e, hp⟩
      · rcases mem_parents_cases layer hn with hn | ⟨a, ha, b, hb, e, hp⟩
        · exact Or.inl hn
        · exact Or.inr ⟨a, Or.inl ha, b, Or.inl hb, e, Or.inl hp⟩
      · exact Or.inr ⟨a, Or.inr ha, b, Or.inr hb, e, Or.inr hp⟩
  | case2 layer hlt =>
    rw [layersAbove, if_neg hlt] at h
    exact Or.inl (by simpa using h)

/-- A node of the tree over some locks is the hash of a lock or of a pair of nodes. -/
theorem mem_nodes_cases {locks : List Lock} {n : Hash} (h : n ∈ (ofLocks locks).nodes) :
    (∃ l ∈ locks, n = l.hash) ∨ ∃ a ∈ (ofLocks locks).nodes, ∃ b ∈ (ofLocks locks).nodes,
      n = hashPair a b ∧ pairBytes a b ∈ (ofLocks locks).hashed := by
  rcases mem_layersAbove_cases _ h with hn | hn
  · rw [mem_sortLeaves, List.mem_map] at hn
    obtain ⟨l, hl, e⟩ := hn
    exact Or.inl ⟨l, hl, e.symm⟩
  · exact Or.inr hn

/-- The node that stands alone at the top is a node. -/
theorem mem_nodes_of_top {tree : LockTree} {n : Hash}
    (h : tree.layers.getLast?.bind List.head? = some n) : n ∈ tree.nodes := by
  obtain ⟨top, hlast, hhead⟩ := Option.bind_eq_some_iff.mp h
  exact List.mem_flatten.mpr ⟨top, List.mem_of_getLast? hlast, List.mem_of_head? hhead⟩

theorem root_mem_nodes {tree : LockTree} (h : tree.root ≠ emptyLocksroot) :
    tree.root ∈ tree.nodes := by
  cases htop : tree.layers.getLast?.bind List.head? with
  | none => exact absurd (by rw [root, htop]; rfl) h
  | some n =>
    have top : tree.root = n := by rw [root, htop]; rfl
    rw [top]
    exact mem_nodes_of_top htop

/-! ## Inclusion proofs -/

/-- What is hashed for the tree over some locks and for the inclusion proof of a lock. -/
def inputs (locks : List Lock) (lock : Lock) (proof : List ProofElement) : List Bytes :=
  lock.encoded :: (locks.map Lock.encoded ++ (ofLocks locks).hashed ++ proofHashed lock.hash proof)

theorem encoded_mem_inputs {locks : List Lock} {lock l : Lock} {proof : List ProofElement}
    (h : l ∈ locks) : l.encoded ∈ inputs locks lock proof := by
  simp only [inputs, List.mem_cons, List.mem_append]
  exact Or.inr (Or.inl (Or.inl (List.mem_map_of_mem h)))

section Inclusion

variable {locks : List Lock} (built : ∀ l ∈ locks, l.encoded.length = 96)

include built

/-- One step: if the hash of a pair is in the tree, so are the nodes of the pair. -/
theorem mem_nodes_of_hashPair {a b : Hash} {inputs : List Bytes}
    (h : hashPair a b ∈ (ofLocks locks).nodes) (hlocks : locks.map Lock.encoded ⊆ inputs)
    (htree : (ofLocks locks).hashed ⊆ inputs) (hpair : pairBytes a b ∈ inputs) :
    a ∈ (ofLocks locks).nodes ∨ Collides inputs := by
  rcases mem_nodes_cases h with ⟨l, hl, e⟩ | ⟨x, hx, y, hy, e, hxy⟩
  · -- A lock is too long for a pair.
    rw [hashPair_eq, Lock.hash] at e
    rcases eq_or_collides hpair (hlocks (List.mem_map_of_mem hl)) e with same | collision
    · have := congrArg List.length same
      rw [length_pairBytes, built l hl] at this
      omega
    · exact Or.inr collision
  · rw [hashPair_eq, hashPair_eq] at e
    rcases eq_or_collides hpair (htree hxy) e with same | collision
    · rcases pairBytes_inj same with ⟨rfl, -⟩ | ⟨rfl, -⟩
      · exact Or.inl hx
      · exact Or.inl hy
    · exact Or.inr collision

/-- **An inclusion proof that ends in the tree starts in the tree**, unless there is a collision. -/
theorem mem_nodes_of_proofRoot {proof : List ProofElement} {leaf : Hash} {inputs : List Bytes}
    (h : proofRoot leaf proof ∈ (ofLocks locks).nodes) (hlocks : locks.map Lock.encoded ⊆ inputs)
    (htree : (ofLocks locks).hashed ⊆ inputs) (hproof : proofHashed leaf proof ⊆ inputs) :
    leaf ∈ (ofLocks locks).nodes ∨ Collides inputs := by
  induction proof generalizing leaf with
  | nil => exact Or.inl h
  | cons element rest ih =>
    -- The rest of the proof starts at the parent, which is then in the tree.
    obtain ⟨hpair, hrest⟩ := List.cons_subset.mp hproof
    rcases ih h hrest with hn | collision
    · exact mem_nodes_of_hashPair built hn hlocks htree hpair
    · exact Or.inr collision

/-- **What an inclusion proof of a lock shows.**  The lock has the encoded form of a committed lock
or the bytes of an inner node, unless there is a collision. -/
theorem encoded_cases {lock : Lock} {proof : List ProofElement}
    (h : verifyProof lock.hash proof (ofLocks locks).root = true) :
    (∃ l ∈ locks, lock.encoded = l.encoded) ∨ lock.encoded ∈ (ofLocks locks).hashed ∨
      Collides (inputs locks lock proof) := by
  obtain ⟨hne, hroot⟩ : (ofLocks locks).root ≠ emptyLocksroot ∧
      proofRoot lock.hash proof = (ofLocks locks).root := by simpa [verifyProof] using h
  have hlock : lock.encoded ∈ inputs locks lock proof := List.mem_cons_self
  have hlocks : locks.map Lock.encoded ⊆ inputs locks lock proof := by
    intro x hx
    obtain ⟨l, hl, rfl⟩ := List.mem_map.mp hx
    exact encoded_mem_inputs hl
  have htree : (ofLocks locks).hashed ⊆ inputs locks lock proof := by
    intro x hx
    simp [inputs, hx]
  have hproof : proofHashed lock.hash proof ⊆ inputs locks lock proof := by
    intro x hx
    simp [inputs, hx]
  have hnode : proofRoot lock.hash proof ∈ (ofLocks locks).nodes := by
    rw [hroot]
    exact root_mem_nodes hne
  rcases mem_nodes_of_proofRoot built hnode hlocks htree hproof with hn | collision
  · -- The hash of the lock is in the tree, as a leaf or as an inner node.
    rcases mem_nodes_cases hn with ⟨l, hl, e⟩ | ⟨a, -, b, -, e, hp⟩
    · rcases eq_or_collides hlock (hlocks (List.mem_map_of_mem hl)) e with same | collision
      · exact Or.inl ⟨l, hl, same⟩
      · exact Or.inr (Or.inr collision)
    · rw [hashPair_eq] at e
      rcases eq_or_collides hlock (htree hp) e with same | collision
      · exact Or.inr (Or.inl (same ▸ hp))
      · exact Or.inr (Or.inr collision)
  · exact Or.inr (Or.inr collision)

end Inclusion

/-- **Inclusion proofs are sound.**  A lock whose inclusion proof verifies against the commitment
over some locks is one of its leaves, unless two different ones of the byte strings hashed for the
locks, the tree and the proof have the same hash. -/
theorem inclusion_sound {locks : List Lock} {lock : Lock} {proof : List ProofElement}
    (built : ∀ l ∈ locks, ∃ amount expiration secretHash,
      l = Lock.create amount expiration secretHash)
    (created : ∃ amount expiration secretHash, lock = Lock.create amount expiration secretHash)
    (verified : verifyProof lock.hash proof (ofLocks locks).root = true) :
    lock.hash ∈ (ofLocks locks).leaves ∨ Collides (inputs locks lock proof) := by
  have lengths : ∀ l ∈ locks, l.encoded.length = 96 := fun l hl => Lock.length_encoded (built l hl)
  rcases encoded_cases lengths verified with ⟨l, hl, e⟩ | inner | collision
  · have leaf : l.hash ∈ (ofLocks locks).leaves := by
      rw [ofLocks, leaves_ofLeaves, mem_sortLeaves]
      exact List.mem_map_of_mem hl
    rw [Lock.hash, e]
    exact Or.inl leaf
  · -- The pair of an inner node is too short for a lock.
    have short := length_of_mem_hashed inner
    rw [Lock.length_encoded created] at short
    omega
  · exact Or.inr collision

end LockTree

/-! ## The commitment of the sample dispute -/

namespace Sample

/-- The locks that the root commits to. -/
def locks : List Lock := [smallLock, largeLock]

theorem locks_built : ∀ l ∈ locks, ∃ amount expiration secretHash,
    l = Lock.create amount expiration secretHash := by
  intro l hl
  rcases List.mem_cons.mp hl with rfl | hl
  · exact ⟨5, 100, ⟨3⟩, rfl⟩
  · exact ⟨8, 100, ⟨4⟩, List.mem_singleton.mp hl⟩

theorem pairBytes_locks : pairBytes largeHash smallHash = pairBytes smallHash largeHash := by
  decide

theorem layers_locks : (LockTree.ofLocks locks).layers = [[largeHash, smallHash], [root]] := by
  have leaves : LockTree.sortLeaves (locks.map Lock.hash) = [largeHash, smallHash] := by
    simp only [locks, List.map_cons, List.map_nil, hash_smallLock, hash_largeLock]
    decide
  have top : LockTree.parents [largeHash, smallHash] = [root] := by
    rw [LockTree.parents, LockTree.parents, hashPair_eq, pairBytes_locks, ← hashPair_eq,
      hashPair_locks]
  rw [LockTree.ofLocks, LockTree.ofLeaves, leaves, LockTree.layersAbove, if_pos (by decide), top,
    LockTree.layersAbove, if_neg (by decide)]

theorem root_locks : (LockTree.ofLocks locks).root = root := by
  rw [LockTree.root, layers_locks]
  rfl

/-- The locks of the sample dispute and their pair have different hashes. -/
theorem not_collides_of_subset {inputs : List Bytes}
    (h : inputs ⊆ [smallLock.encoded, largeLock.encoded, pairBytes smallHash largeHash]) :
    ¬Collides inputs := by
  let g : Hash → Bytes := fun h =>
    if h = smallHash then smallLock.encoded
    else if h = largeHash then largeLock.encoded
    else pairBytes smallHash largeHash
  have small : g (keccak256 smallLock.encoded) = smallLock.encoded := by
    rw [show keccak256 smallLock.encoded = smallHash from hash_smallLock]
    exact if_pos rfl
  have large : g (keccak256 largeLock.encoded) = largeLock.encoded := by
    rw [show keccak256 largeLock.encoded = largeHash from hash_largeLock]
    exact (if_neg (by decide)).trans (if_pos rfl)
  have pair : g (keccak256 (pairBytes smallHash largeHash)) = pairBytes smallHash largeHash := by
    rw [← hashPair_eq, hashPair_locks]
    exact (if_neg (by decide)).trans (if_neg (by decide))
  refine not_collides_of_leftInverse g fun a ha => ?_
  have ha := h ha
  simp only [List.mem_cons, List.not_mem_nil, or_false] at ha
  rcases ha with rfl | rfl | rfl
  · exact small
  · exact large
  · exact pair

/-- Whatever amount comes with it, the encoded small lock leads to no collision. -/
theorem not_collides (amount : Amount) :
    ¬Collides (LockTree.inputs locks { smallLock with amount } request.merkleProof) := by
  have e : LockTree.inputs locks { smallLock with amount } request.merkleProof =
      [smallLock.encoded, smallLock.encoded, largeLock.encoded, pairBytes smallHash largeHash,
        pairBytes smallHash largeHash] := by
    have hlock : Lock.hash { smallLock with amount } = smallHash := hash_smallLock
    rw [LockTree.inputs, LockTree.hashed, layers_locks, hlock]
    simp [locks, LockTree.pairs, pairBytes_locks, proofHashed, request]
  rw [e]
  refine not_collides_of_subset ?_
  simp only [List.cons_subset, List.nil_subset, List.mem_cons, true_or, or_true, and_self]

end Sample

namespace LockTree

/-- The small lock of the sample dispute with the large lock as its sibling. -/
theorem inclusion_sound_sample :
    (∀ l ∈ Sample.locks, ∃ amount expiration secretHash,
      l = Lock.create amount expiration secretHash) ∧
    verifyProof Sample.smallLock.hash Sample.request.merkleProof (ofLocks Sample.locks).root =
      true ∧
    Sample.smallLock.hash ∈ (ofLocks Sample.locks).leaves := by
  have verified : verifyProof Sample.smallLock.hash Sample.request.merkleProof
      (ofLocks Sample.locks).root = true := by
    rw [Sample.hash_smallLock, Sample.root_locks]
    exact Sample.committed
  have sound := inclusion_sound Sample.locks_built ⟨5, 100, ⟨3⟩, rfl⟩ verified
  exact ⟨Sample.locks_built, verified, sound.resolve_right (Sample.not_collides 5)⟩

end LockTree

end PaymentChannel
