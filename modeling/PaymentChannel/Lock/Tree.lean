import PaymentChannel.Lock

/-!
# The commitment over a set of locks

* `LockTree.ofLeaves` : the hash tree over a set of leaves. Leaves are sorted and taken once, so
  that neither order nor repetition counts.
* `LockTree.root` : the commitment, zero for no leaves.
* `LockTree.position?` : looks a leaf up by halving, since the leaves are in order.
* `LockTree.prove` : the siblings on the way from a leaf to the root.
* `verifyProof` : recomputes a root from a leaf and siblings.

Parents hash the sorted pair of their children, and a node without a sibling moves up as it is.
-/

namespace PaymentChannel

/-- The hash of two nodes, the smaller one first. -/
def hashPair (a b : Hash) : Hash :=
  if a < b then keccak256 (a.bytes ++ b.bytes) else keccak256 (b.bytes ++ a.bytes)

def emptyLocksroot : Hash := .zero

inductive Side where
  | left
  | right
  deriving DecidableEq

structure ProofElement where
  hash : Hash
  position : Side
  deriving DecidableEq

/-- The hash tree over a set of leaves, layer by layer from the leaves to the root. -/
structure LockTree where
  layers : List (List Hash)
  deriving DecidableEq

namespace LockTree

/-- Puts a leaf at its place among sorted leaves, unless it is there already. -/
def insertLeaf (leaf : Hash) : List Hash → List Hash
  | [] => [leaf]
  | first :: rest =>
    if leaf < first then leaf :: first :: rest
    else if leaf = first then first :: rest
    else first :: insertLeaf leaf rest

/-- The leaves in order, each of them once. -/
def sortLeaves (leaves : List Hash) : List Hash := leaves.foldr insertLeaf []

def parents : List Hash → List Hash
  | a :: b :: rest => hashPair a b :: parents rest
  | [a] => [a]
  | [] => []

theorem length_parents : (layer : List Hash) → (parents layer).length = (layer.length + 1) / 2
  | a :: b :: rest => by simp only [parents, List.length_cons, length_parents rest]; omega
  | [_] => by simp [parents]
  | [] => by simp [parents]

def layersAbove (layer : List Hash) : List (List Hash) :=
  if 1 < layer.length then layer :: layersAbove (parents layer) else [layer]
termination_by layer.length
decreasing_by rw [length_parents]; omega

def ofLeaves (leaves : List Hash) : LockTree := ⟨layersAbove (sortLeaves leaves)⟩

def ofLocks (locks : List Lock) : LockTree := ofLeaves (locks.map Lock.hash)

def root (tree : LockTree) : Hash :=
  ((tree.layers.getLast?.bind List.head?).getD emptyLocksroot)

def leaves (tree : LockTree) : List Hash := tree.layers.headD []

/-- Looks a leaf up between two positions of leaves in order, by halving what is between them. -/
def search (leaves : List Hash) (leaf : Hash) (low high : Nat) : Option Nat :=
  if low < high then
    let middle := low + (high - low) / 2
    match leaves[middle]? with
    | none => none
    | some found =>
      if found = leaf then some middle
      else if found < leaf then search leaves leaf (middle + 1) high
      else search leaves leaf low middle
  else none
termination_by high - low

def position? (tree : LockTree) (leaf : Hash) : Option Nat :=
  search tree.leaves leaf 0 tree.leaves.length

def contains (tree : LockTree) (leaf : Hash) : Bool := (tree.position? leaf).isSome

def sibling? (layer : List Hash) (index : Nat) : Option ProofElement :=
  if index % 2 = 0 then layer[index + 1]?.map (⟨·, .right⟩)
  else layer[index - 1]?.map (⟨·, .left⟩)

def siblings : List (List Hash) → Nat → List ProofElement
  | layer :: next :: above, index =>
    (sibling? layer index).toList ++ siblings (next :: above) (index / 2)
  | _, _ => []

def prove (tree : LockTree) (leaf : Hash) : Except DisputeError (List ProofElement) :=
  match tree.position? leaf with
  | some index => .ok (siblings tree.layers index)
  | none => .error .proofNotFound

end LockTree

/-- The root that a leaf and its siblings lead to. The side of a sibling does not matter. -/
def proofRoot (leaf : Hash) (proof : List ProofElement) : Hash :=
  proof.foldl (fun node element => hashPair node element.hash) leaf

/-- Whether a leaf and its siblings lead to the root of a tree that is not empty. -/
def verifyProof (leaf : Hash) (proof : List ProofElement) (root : Hash) : Bool :=
  root ≠ emptyLocksroot ∧ proofRoot leaf proof = root

def proofBytes (proof : List ProofElement) : Bytes :=
  proof.flatMap fun element => element.hash.bytes

instance : Codec Side where
  encode
    | .left => .string "Left"
    | .right => .string "Right"
  decode json := match json.tag? with
    | some "Left" => .ok .left
    | some "Right" => .ok .right
    | _ => .error .form

instance : Codec ProofElement where
  encode element := .object [("hash", encode element.hash), ("position", encode element.position)]
  decode :=
    Fields.run (ProofElement.mk <$> member "hash" <*> member "position")

end PaymentChannel
