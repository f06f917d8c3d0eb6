import PaymentChannel.Channel.Transition

/-!
# Signed evidence

* `BalanceProof.verify_eq_ok_iff` : a balance proof verifies for the one address it recovers to.
* `signerOf_eq_ok_iff` : a message has a signer if it carries a signature that can be recovered.
* `Sample` : a channel between the addresses of the keys `1` and `2`, a balance proof of the second
  one over two locks, and a declaration of the first one that the larger lock is obsolete.  The
  kernel recovers both signers.
-/

namespace PaymentChannel

/-- A balance proof verifies for the one address it recovers to. -/
theorem BalanceProof.verify_eq_ok_iff {proof : BalanceProof} {a : Address} :
    proof.verify a = .ok () ↔ proof.signer = .ok a := by
  unfold verify
  cases h : proof.signer with
  | error e => simp [bind, Except.bind]
  | ok b => simp [bind, Except.bind]

/-- A message has a signer if it carries a signature that can be recovered. -/
theorem signerOf_eq_ok_iff {message : Bytes} {signature : Option Bytes} {a : Address} :
    signerOf message signature = .ok a ↔ ∃ bytes, signature = some bytes ∧
      (Ecdsa.Signature.ofBytes? bytes).bind
        (Ecdsa.recoverAddress? (personalDigest message)) = some a := by
  cases signature with
  | none => simp [signerOf]
  | some bytes =>
    simp only [signerOf, recoverSigner, Option.some.injEq, exists_eq_left']
    cases (Ecdsa.Signature.ofBytes? bytes).bind (Ecdsa.recoverAddress? (personalDigest message)) <;>
      simp

theorem signerOf_some_eq_ok_iff {message signature : Bytes} {a : Address} :
    signerOf message (some signature) = .ok a ↔ recoverSigner message signature = .ok a := by
  cases found : recoverSigner message signature with
  | ok signer => simp [signerOf, found]
  | error e => simp [signerOf, found]

/-! ## A dispute with its evidence -/

namespace Sample

/-- The address of the key `1`. -/
def first : Address := ⟨0x7e5f4552091a69125d5dfcb7b8c2659029395bdf⟩

/-- The address of the key `2`. -/
def second : Address := ⟨0x2b5ad5c4795c026514f8317c7a215e218dccd6cf⟩

def identifier : CanonicalIdentifier := ⟨.mainnet, ⟨7⟩, ⟨9⟩⟩

def smallLock : Lock := .create 5 100 ⟨3⟩

def largeLock : Lock := .create 8 100 ⟨4⟩

def smallHash : Hash := ⟨0xd710a5b1197693d50ab85065fdb2fe03188fca5eb7794ed3dbf21fdc65e30cb9⟩

def largeHash : Hash := ⟨0x073163bfbdbde71ebe9a030383d3fb62c4728a18c4be932f5db2b690d26bb5bf⟩

/-- The commitment over both locks. -/
def root : Hash := ⟨0xc05cc908bb7e3da3f95139ddca0f981e7eedf648b4370eb7be532f6bb6891127⟩

/-- The proof of the second end over both locks. -/
def proof : BalanceProof where
  nonce := 1
  transferredAmount := 0
  locksroot := root
  additionalHash := .zero
  identifier := identifier
  openBlock := 1
  signature := some (bigEndian 65
    0x842bd55ba4a5bdc5da2070ce4e080da966b727c42d7dd114c081fab859314641204bfef5d678160a0b2b051a41b7583f15f666fbe08e1feb12cf50f684bd8c461c)
  sender := none

/-- The declaration of the first end that the small lock is obsolete. -/
def request : PunishRequest where
  identifier := identifier
  openBlock := 1
  beneficiary := second
  lockHash := smallHash
  additionalHash := .zero
  merkleProof := [⟨largeHash, .left⟩]
  signature := some (bigEndian 65
    0x2d732662d581f9d3c4d6f5d74e6fc2ad56d909149e8b46e3a87e2e55cad17fa3450ad97b295c734f45ed6d0efccadb27c1728da73bfa110ff09a50e6d713ebff1b)

theorem hash_smallLock : smallLock.hash = smallHash := by decide +kernel

theorem hash_largeLock : largeLock.hash = largeHash := by decide +kernel

theorem hashPair_locks : hashPair smallHash largeHash = root := by decide +kernel

theorem committed : verifyProof smallHash request.merkleProof root = true := by
  simp only [verifyProof, proofRoot, request, List.foldl_cons, List.foldl_nil, hashPair_locks]
  decide

theorem signer_proof : proof.signer = .ok second :=
  signerOf_eq_ok_iff.mpr ⟨_, rfl, by decide +kernel⟩

theorem signer_request : request.signer = .ok first :=
  signerOf_eq_ok_iff.mpr ⟨_, rfl, by decide +kernel⟩

end Sample

end PaymentChannel
