import Mathlib.Data.List.Sort
import PaymentChannel.Proofs.Lock.Completeness

/-!
# A commitment stands for one set of locks

Leaves in strict order are determined by their set, so the tree is.  The other way round, every
leaf of a tree has an inclusion proof that hashes nothing but pairs of that tree.  If another tree
has the same root, the proof leads there, too, and the leaf is one of its nodes.

* `LockTree.sortLeaves_eq_of_mem_iff` : leaves in order depend on the set of leaves alone.
* `LockTree.built` : what is hashed to build the tree over some locks.
* `LockTree.proofHashed_siblings_subset` : the siblings of a node are hashed as they were when the
  tree was built.
* `LockTree.hash_mem_of_root_eq` : a lock behind a root is behind it in every other tree.
* `LockTree.root_binds_set` : equal sets have equal trees, and equal roots equal sets.
-/

namespace PaymentChannel

namespace LockTree

variable {locks locks' : List Lock} {node : Hash}

/-! ## From the set to the tree -/

/-- Leaves in order depend on the set of leaves alone. -/
theorem sortLeaves_eq_of_mem_iff {leaves leaves' : List Hash}
    (h : ∀ leaf, leaf ∈ leaves ↔ leaf ∈ leaves') : sortLeaves leaves = sortLeaves leaves' := by
  have irreflexive : Std.Irrefl (fun a b : Hash => a < b) :=
    ⟨fun a ha => Nat.lt_irrefl _ (Hash.lt_iff_toNat.mp ha)⟩
  have antisymmetric : Std.Antisymm (fun a b : Hash => a < b) :=
    ⟨fun a b hab hba =>
      absurd (Hash.lt_iff_toNat.mp hba) (Nat.lt_asymm (Hash.lt_iff_toNat.mp hab))⟩
  refine (pairwise_sortLeaves leaves).eq_of_mem_iff (pairwise_sortLeaves leaves') fun leaf => ?_
  rw [mem_sortLeaves, mem_sortLeaves]
  exact h leaf

/-! ## What an inclusion proof of the tree hashes -/

theorem proofHashed_append (node : Hash) (lower upper : List ProofElement) :
    proofHashed node (lower ++ upper) =
      proofHashed node lower ++ proofHashed (proofRoot node lower) upper := by
  induction lower generalizing node with
  | nil => rfl
  | cons element rest ih =>
    rw [List.cons_append, proofHashed, ih, proofHashed]
    rfl

/-- A node and its sibling are a pair of their layer. -/
theorem proofHashed_sibling?_subset : (layer : List Hash) → (i : Nat) → layer[i]? = some node →
    proofHashed node (sibling? layer i).toList ⊆ pairs layer
  | [], _, h => by cases h
  | [a], i, h => by
    obtain rfl : i = 0 := by
      obtain ⟨hi, -⟩ := List.getElem?_eq_some_iff.mp h
      simpa using hi
    exact List.nil_subset _
  | a :: b :: rest, 0, h => by
    obtain rfl : a = node := Option.some.inj h
    exact List.cons_subset.mpr ⟨List.mem_cons_self, List.nil_subset _⟩
  | a :: b :: rest, 1, h => by
    obtain rfl : b = node := Option.some.inj h
    have pair : pairBytes b a ∈ pairs (a :: b :: rest) := by
      rw [pairBytes_comm]
      exact List.mem_cons_self
    exact List.cons_subset.mpr ⟨pair, List.nil_subset _⟩
  | a :: b :: rest, i + 2, h => by
    rw [sibling?_cons_cons]
    exact List.subset_cons_of_subset _ (proofHashed_sibling?_subset rest i h)

/-- **The siblings of a node are hashed as they were when the tree was built.** -/
theorem proofHashed_siblings_subset (layer : List Hash) (i : Nat) (h : layer[i]? = some node) :
    proofHashed node (siblings (layersAbove layer) i) ⊆ (layersAbove layer).flatMap pairs := by
  induction layer using layersAbove.induct generalizing node i with
  | case1 layer hlt ih =>
    have upper := ih (i / 2) (getElem?_parents layer i h)
    have lower := proofHashed_sibling?_subset layer i h
    obtain ⟨above, e⟩ := layersAbove_eq_cons (parents layer)
    rw [layersAbove, if_pos hlt]
    rw [e] at upper ⊢
    rw [siblings, proofHashed_append, List.flatMap_cons]
    exact List.append_subset.mpr
      ⟨List.subset_append_of_subset_left _ lower, List.subset_append_of_subset_right _ upper⟩
  | case2 layer hlt =>
    rw [layersAbove, if_neg hlt]
    exact List.nil_subset _

/-- Every leaf has siblings that lead to the root through pairs of the tree. -/
theorem exists_path_of_mem {leaves : List Hash} {leaf : Hash} (h : leaf ∈ leaves) :
    ∃ proof, (ofLeaves leaves).layers.getLast?.bind List.head? = some (proofRoot leaf proof) ∧
      proofHashed leaf proof ⊆ (ofLeaves leaves).hashed := by
  obtain ⟨i, hi⟩ := List.mem_iff_getElem?.mp (mem_sortLeaves.mpr h)
  exact ⟨siblings (ofLeaves leaves).layers i, top_layersAbove _ i hi,
    proofHashed_siblings_subset _ i hi⟩

/-! ## From the root to the set -/

/-- What is hashed to build the tree over some locks. -/
def built (locks : List Lock) : List Bytes := locks.map Lock.encoded ++ (ofLocks locks).hashed

theorem exists_path_of_lock {l : Lock} (h : l ∈ locks) :
    ∃ proof, (ofLocks locks).root = proofRoot l.hash proof ∧
      (ofLocks locks).root ∈ (ofLocks locks).nodes ∧
      proofHashed l.hash proof ⊆ (ofLocks locks).hashed := by
  obtain ⟨proof, top, hashed⟩ := exists_path_of_mem (List.mem_map_of_mem (f := Lock.hash) h)
  have root : (ofLocks locks).root = proofRoot l.hash proof := by
    rw [LockTree.root, ofLocks, top]
    rfl
  refine ⟨proof, root, ?_, hashed⟩
  rw [root]
  exact mem_nodes_of_top top

/-- A node of the tree is the hash of one of the strings that the tree was built of. -/
theorem exists_built_of_mem_nodes (h : node ∈ (ofLocks locks).nodes) :
    ∃ bytes ∈ built locks, keccak256 bytes = node := by
  rcases mem_nodes_cases h with ⟨l, hl, rfl⟩ | ⟨a, -, b, -, rfl, hp⟩
  · exact ⟨l.encoded, List.mem_append_left _ (List.mem_map_of_mem hl), rfl⟩
  · exact ⟨pairBytes a b, List.mem_append_right _ hp, (hashPair_eq a b).symm⟩

/-- **A lock behind a root is behind it in every other tree**, unless there is a collision. -/
theorem hash_mem_of_root_eq {inputs : List Bytes} (lengths : ∀ l ∈ locks, l.encoded.length = 96)
    (lengths' : ∀ l ∈ locks', l.encoded.length = 96) (hin : built locks ⊆ inputs)
    (hin' : built locks' ⊆ inputs) (same : (ofLocks locks).root = (ofLocks locks').root)
    (inside : (ofLocks locks).root ∈ (ofLocks locks).nodes) {l : Lock} (hl : l ∈ locks') :
    l.hash ∈ locks.map Lock.hash ∨ Collides inputs := by
  obtain ⟨hlocks, htree⟩ := List.append_subset.mp hin
  obtain ⟨hlocks', htree'⟩ := List.append_subset.mp hin'
  obtain ⟨proof, root, -, hproof⟩ := exists_path_of_lock hl
  rw [same, root] at inside
  rcases mem_nodes_of_proofRoot lengths inside hlocks htree
    (List.Subset.trans hproof htree') with hn | collision
  · rcases mem_nodes_cases hn with ⟨k, hk, e⟩ | ⟨a, -, b, -, e, hp⟩
    · left
      rw [e]
      exact List.mem_map_of_mem hk
    · -- A lock is too long for a pair.
      rw [hashPair_eq, Lock.hash] at e
      rcases eq_or_collides (hlocks' (List.mem_map_of_mem hl)) (htree hp) e with short | collision
      · have := congrArg List.length short
        rw [length_pairBytes, lengths' l hl] at this
        omega
      · exact Or.inr collision
  · exact Or.inr collision

/-- Two commitments over locks that are equal and not zero are over the same hashes, unless there is
a collision. -/
theorem hashes_eq_of_root_eq {inputs : List Bytes} (lengths : ∀ l ∈ locks, l.encoded.length = 96)
    (lengths' : ∀ l ∈ locks', l.encoded.length = 96) (hin : built locks ⊆ inputs)
    (hin' : built locks' ⊆ inputs) (same : (ofLocks locks).root = (ofLocks locks').root)
    (nonzero : (ofLocks locks).root ≠ emptyLocksroot) :
    (∀ h, h ∈ locks.map Lock.hash ↔ h ∈ locks'.map Lock.hash) ∨ Collides inputs := by
  by_cases collision : Collides inputs
  · exact Or.inr collision
  · have nonzero' : (ofLocks locks').root ≠ emptyLocksroot := same ▸ nonzero
    refine Or.inl fun h => ⟨fun hmem => ?_, fun hmem => ?_⟩
    · obtain ⟨l, hl, rfl⟩ := List.mem_map.mp hmem
      exact (hash_mem_of_root_eq lengths' lengths hin' hin same.symm (root_mem_nodes nonzero')
        hl).resolve_right collision
    · obtain ⟨l, hl, rfl⟩ := List.mem_map.mp hmem
      exact (hash_mem_of_root_eq lengths lengths' hin hin' same (root_mem_nodes nonzero)
        hl).resolve_right collision

/-- The commitment over some locks is zero only if a string that it was built of has the hash
zero. -/
theorem exists_zero_of_root_eq_zero (zero : (ofLocks locks).root = emptyLocksroot)
    (hne : locks ≠ []) : ∃ bytes ∈ built locks, keccak256 bytes = .zero := by
  obtain ⟨l, hl⟩ := List.exists_mem_of_ne_nil locks hne
  obtain ⟨-, -, inside, -⟩ := exists_path_of_lock hl
  rw [zero] at inside
  exact exists_built_of_mem_nodes inside

/-- **The commitment stands for exactly the set of locks.**  Leaves of the same set have the same
tree, in whatever order and however often they are given.  If the trees over two lists of created
locks have the same root, the locks have the same hashes, unless two different ones of the strings
hashed to build the two trees have the same hash, or one of them has the hash zero. -/
theorem root_binds_set :
    (∀ leaves leaves' : List Hash, (∀ leaf, leaf ∈ leaves ↔ leaf ∈ leaves') →
      ofLeaves leaves = ofLeaves leaves') ∧
    ∀ locks locks' : List Lock,
      (∀ l ∈ locks ++ locks', ∃ amount expiration secretHash,
        l = Lock.create amount expiration secretHash) →
      (ofLocks locks).root = (ofLocks locks').root →
      (∀ h, h ∈ locks.map Lock.hash ↔ h ∈ locks'.map Lock.hash) ∨
        Collides (built locks ++ built locks') ∨
        ∃ bytes ∈ built locks ++ built locks', keccak256 bytes = .zero := by
  refine ⟨fun leaves leaves' h => ?_, fun locks locks' created same => ?_⟩
  · rw [ofLeaves, ofLeaves, sortLeaves_eq_of_mem_iff h]
  · have lengths : ∀ l ∈ locks ++ locks', l.encoded.length = 96 :=
      fun l hl => Lock.length_encoded (created l hl)
    have hin : built locks ⊆ built locks ++ built locks' := List.subset_append_left _ _
    have hin' : built locks' ⊆ built locks ++ built locks' := List.subset_append_right _ _
    by_cases zero : (ofLocks locks).root = emptyLocksroot
    · -- A root of zero is the one of no locks, or something has the hash zero.
      by_cases hne : locks = []
      · by_cases hne' : locks' = []
        · rw [hne, hne']
          exact Or.inl fun _ => Iff.rfl
        · obtain ⟨bytes, hb, hz⟩ := exists_zero_of_root_eq_zero (same ▸ zero) hne'
          exact Or.inr (Or.inr ⟨bytes, hin' hb, hz⟩)
      · obtain ⟨bytes, hb, hz⟩ := exists_zero_of_root_eq_zero zero hne
        exact Or.inr (Or.inr ⟨bytes, hin hb, hz⟩)
    · rcases hashes_eq_of_root_eq (fun l hl => lengths l (List.mem_append_left _ hl))
        (fun l hl => lengths l (List.mem_append_right _ hl)) hin hin' same zero with
        equal | collision
      · exact Or.inl equal
      · exact Or.inr (Or.inl collision)

end LockTree

/-! ## The locks of the sample dispute in another order -/

namespace Sample

/-- The locks in another order, one of them twice. -/
def reordered : List Lock := [largeLock, smallLock, largeLock]

theorem hashes_reordered : reordered.map Lock.hash = [largeHash, smallHash, largeHash] := by
  simp only [reordered, List.map_cons, List.map_nil, hash_smallLock, hash_largeLock]

theorem hashes_locks : locks.map Lock.hash = [smallHash, largeHash] := by
  simp only [locks, List.map_cons, List.map_nil, hash_smallLock, hash_largeLock]

theorem mem_hashes_iff (h : Hash) :
    h ∈ reordered.map Lock.hash ↔ h ∈ locks.map Lock.hash := by
  rw [hashes_reordered, hashes_locks]
  simp only [List.mem_cons, List.not_mem_nil, or_false]
  grind

theorem created_reordered : ∀ l ∈ reordered ++ locks, ∃ amount expiration secretHash,
    l = Lock.create amount expiration secretHash := by
  intro l hl
  refine locks_built l ?_
  simp only [reordered, locks, List.mem_append, List.mem_cons, List.not_mem_nil, or_false] at hl ⊢
  grind

/-- Only three strings are hashed for a tree over these locks. -/
theorem built_subset {list : List Lock} (sub : list ⊆ locks)
    (same : LockTree.ofLocks list = LockTree.ofLocks locks) : LockTree.built list ⊆
      [smallLock.encoded, largeLock.encoded, pairBytes smallHash largeHash] := by
  intro bytes hb
  rcases List.mem_append.mp hb with hb | hb
  · obtain ⟨l, hl, rfl⟩ := List.mem_map.mp hb
    have hl := sub hl
    simp only [locks, List.mem_cons, List.not_mem_nil, or_false] at hl
    rcases hl with rfl | rfl
    · exact List.mem_cons_self
    · exact List.mem_cons_of_mem _ List.mem_cons_self
  · rw [same, LockTree.hashed, layers_locks] at hb
    have pair : bytes = pairBytes smallHash largeHash := by
      simpa [LockTree.pairs, pairBytes_locks] using hb
    simp [pair]

theorem keccak256_ne_zero : ∀ bytes ∈ [smallLock.encoded, largeLock.encoded,
    pairBytes smallHash largeHash], keccak256 bytes ≠ .zero := by
  intro bytes hb
  simp only [List.mem_cons, List.not_mem_nil, or_false] at hb
  rcases hb with rfl | rfl | rfl
  · rw [show keccak256 smallLock.encoded = smallHash from hash_smallLock]
    decide
  · rw [show keccak256 largeLock.encoded = largeHash from hash_largeLock]
    decide
  · rw [← hashPair_eq, hashPair_locks]
    decide

end Sample

namespace LockTree

/-- The locks of the sample dispute have the same tree in another order, and its root binds them. -/
theorem root_binds_set_sample :
    (∀ l ∈ Sample.reordered ++ Sample.locks, ∃ amount expiration secretHash,
      l = Lock.create amount expiration secretHash) ∧
    ofLocks Sample.reordered = ofLocks Sample.locks ∧
    (ofLocks Sample.reordered).root = (ofLocks Sample.locks).root ∧
    ¬(Collides (built Sample.reordered ++ built Sample.locks) ∨
      ∃ bytes ∈ built Sample.reordered ++ built Sample.locks, keccak256 bytes = .zero) ∧
    ∀ h, h ∈ Sample.reordered.map Lock.hash ↔ h ∈ Sample.locks.map Lock.hash := by
  obtain ⟨equalTrees, equalSets⟩ := root_binds_set
  have tree : ofLocks Sample.reordered = ofLocks Sample.locks :=
    equalTrees _ _ Sample.mem_hashes_iff
  have root := congrArg LockTree.root tree
  have reordered : Sample.reordered ⊆ Sample.locks := by
    simp [Sample.reordered, Sample.locks]
  have strings := List.append_subset.mpr
    ⟨Sample.built_subset reordered tree, Sample.built_subset (List.Subset.refl _) rfl⟩
  have clean : ¬(Collides (built Sample.reordered ++ built Sample.locks) ∨
      ∃ bytes ∈ built Sample.reordered ++ built Sample.locks, keccak256 bytes = .zero) := by
    rintro (collision | ⟨bytes, hb, zero⟩)
    · exact Sample.not_collides_of_subset strings collision
    · exact Sample.keccak256_ne_zero bytes (strings hb) zero
  have bound := (equalSets _ _ Sample.created_reordered root).resolve_right clean
  exact ⟨Sample.created_reordered, tree, root, clean, bound⟩

end LockTree

end PaymentChannel
