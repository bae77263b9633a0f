import Veronica.ActivationGate

/- Verification of signed policy bundles. The signature covers the hash carried by the bundle;
   nothing recomputes that hash from the policy the bundle carries. -/
namespace VeronicaSignatures
open VeronicaDistribution

def isAscii (s : String) : Bool := s.toList.all fun c => c.toNat < 128

def compareDigest (a b : String) : Except PyExc Bool :=
  if isAscii a && isAscii b then .ok (a == b)
  else .error (.typeError "comparing strings with non-ASCII characters is not supported")

def verifySignature (rt : Runtime) (bundle : PolicyBundle) (key : String) :
    Except PyExc Bool :=
  match bundle.policySignature with
  | none => .error (.valueError "Bundle has no policy_signature to verify")
  | some signature => compareDigest signature (rt.hmacSha256 key bundle.policyHash)

/-- Produced by `PolicyDistributor.distribute` with signing key `key`. -/
def Signed (rt : Runtime) (key : String) (bundle : PolicyBundle) : Prop :=
  ∃ d d' : PolicyDistributor, ∃ p now, d.signingKey = some key ∧
    d.distribute rt p now = (d', .ok bundle)

/-- Changing what a bundle enforces is noticed by whoever verifies it. -/
def TamperEvident (rt : Runtime) (key : String) (bundle altered : PolicyBundle) : Prop :=
  altered.policy ≠ bundle.policy ∨ altered.execConfig ≠ bundle.execConfig →
    verifySignature rt altered key ≠ .ok true

theorem signed_fields {rt : Runtime} {key : String} {bundle : PolicyBundle}
    (signed : Signed rt key bundle) : bundle.policyHash = rt.computePolicyHash bundle.policy ∧
      bundle.policySignature = some (rt.hmacSha256 key bundle.policyHash) := by
  obtain ⟨d, d', p, now, keyed, distributed⟩ := signed
  obtain ⟨policy, hash, signature⟩ := distribute_ok distributed
  rw [keyed] at signature
  exact ⟨by rw [hash, policy], signature⟩

theorem compareDigest_true_iff {a b : String} (asciiA : isAscii a) (asciiB : isAscii b) :
    compareDigest a b = .ok true ↔ a = b := by
  simp [compareDigest, asciiA, asciiB]

/-- A bundle put together from the hash of one signed bundle and the signature of another
    verifies exactly when those two are for the same policy, whatever it enforces itself. -/
theorem verify_true_iff {rt : Runtime} {key : String} {hashed signed altered : PolicyBundle}
    (hexDigest : ∀ message, isAscii (rt.hmacSha256 key message))
    (hashedSigned : Signed rt key hashed) (signedSigned : Signed rt key signed)
    (hash : altered.policyHash = hashed.policyHash)
    (signature : altered.policySignature = signed.policySignature)
    (noCollision : rt.computePolicyHash hashed.policy = rt.computePolicyHash signed.policy →
      hashed.policy = signed.policy)
    (unforgeable : rt.hmacSha256 key hashed.policyHash = rt.hmacSha256 key signed.policyHash →
      hashed.policyHash = signed.policyHash) :
    verifySignature rt altered key = .ok true ↔ hashed.policy = signed.policy := by
  obtain ⟨hashedHash, _⟩ := signed_fields hashedSigned
  obtain ⟨signedHash, signedSignature⟩ := signed_fields signedSigned
  simp only [verifySignature, signature, signedSignature, hash]
  rw [compareDigest_true_iff (hexDigest _) (hexDigest _)]
  constructor
  · intro same
    apply noCollision
    rw [← hashedHash, ← signedHash]
    exact unforgeable same.symm
  · intro same
    rw [hashedHash, signedHash, same]

/-- Exactly when tampering is noticed: the hash and the signature come from bundles for
    different policies, or nothing was changed. -/
theorem tamper_evident_iff {rt : Runtime} {key : String}
    {bundle hashed signed altered : PolicyBundle}
    (hexDigest : ∀ message, isAscii (rt.hmacSha256 key message))
    (hashedSigned : Signed rt key hashed) (signedSigned : Signed rt key signed)
    (hash : altered.policyHash = hashed.policyHash)
    (signature : altered.policySignature = signed.policySignature)
    (noCollision : rt.computePolicyHash hashed.policy = rt.computePolicyHash signed.policy →
      hashed.policy = signed.policy)
    (unforgeable : rt.hmacSha256 key hashed.policyHash = rt.hmacSha256 key signed.policyHash →
      hashed.policyHash = signed.policyHash) :
    TamperEvident rt key bundle altered ↔ hashed.policy ≠ signed.policy ∨
      (altered.policy = bundle.policy ∧ altered.execConfig = bundle.execConfig) := by
  have verifies := verify_true_iff hexDigest hashedSigned signedSigned hash signature noCollision
    unforgeable
  constructor
  · intro evident
    by_cases same : hashed.policy = signed.policy
    · have verified := verifies.mpr same
      have unchanged : ¬ (altered.policy ≠ bundle.policy ∨
          altered.execConfig ≠ bundle.execConfig) := fun changed => evident changed verified
      rw [not_or, not_not, not_not] at unchanged
      exact Or.inr unchanged
    · exact Or.inl same
  · intro condition changed verified
    rcases condition with different | ⟨policy, config⟩
    · exact different (verifies.mp verified)
    · rcases changed with other | other
      · exact other policy
      · exact other config

section PaymentAgent
open VeronicaActivation (paymentPolicy paymentHash)

def signingKey : String := "payment-signing-key-0123456789abcdef"

def raisedPolicy : PolicyConfig := { paymentPolicy with ceilingUsd := .float (.finite 1000) }

def raisedHash : String := "96e2154ad5a8821a454035862b13fc63e1a31dbd92736d4a21d30ab9ab53641b"

def paymentSignature : String :=
  "63de016b40bda9db0bf7b696e3811c56cfe8e7105c249a4ff43979a9b0b8c5f2"

def raisedSignature : String :=
  "91a19d5bf4515afe301240f75376b4146508db175ff9a90201f64cef3f107bd2"

def costs (p : PolicyConfig) (ceiling : ℚ) : Bool :=
  match p.ceilingUsd with
  | .float (.finite q) => q = ceiling
  | _ => false

/-- The hash and the signature functions on the two policies and under the one key used here. -/
def signingRuntime : Runtime where
  computePolicyHash := fun p => if costs p 2 then paymentHash else raisedHash
  hmacSha256 := fun _ message => if message = paymentHash then paymentSignature
    else raisedSignature
  jsonDumps := fun _ => .ok "\x7b\x7d"

def signingDistributor : PolicyDistributor :=
  { strict := false, version := 0, signingKey := some signingKey }

def signedBundle (p : PolicyConfig) (hash signature : String) : PolicyBundle where
  policy := p
  execConfig := { maxCostUsd := p.ceilingUsd, maxSteps := .int 50, maxRetriesTotal := 10,
                  timeoutMs := .int 0 }
  policyHash := hash
  distributedAt := 1740000002
  version := 1
  policySignature := some signature

def paymentBundle : PolicyBundle := signedBundle paymentPolicy paymentHash paymentSignature
def raisedBundle : PolicyBundle := signedBundle raisedPolicy raisedHash raisedSignature

theorem paymentBundle_signed : Signed signingRuntime signingKey paymentBundle :=
  ⟨signingDistributor, { signingDistributor with version := 1 }, paymentPolicy, 1740000002, rfl,
    rfl⟩

theorem raisedBundle_signed : Signed signingRuntime signingKey raisedBundle :=
  ⟨signingDistributor, { signingDistributor with version := 1 }, raisedPolicy, 1740000002, rfl,
    rfl⟩

theorem signing_ascii (message : String) :
    isAscii (signingRuntime.hmacSha256 signingKey message) := by
  simp only [signingRuntime]
  split <;> decide +kernel

/-- The raised ceiling under the old hash and the signature of the raised bundle is noticed. -/
theorem mixed_bundle_noticed :
    TamperEvident signingRuntime signingKey paymentBundle
      { raisedBundle with policyHash := paymentHash } ↔
    paymentBundle.policy ≠ raisedBundle.policy ∨
      (raisedBundle.policy = paymentBundle.policy ∧
        raisedBundle.execConfig = paymentBundle.execConfig) :=
  tamper_evident_iff signing_ascii paymentBundle_signed raisedBundle_signed rfl rfl
    (fun same => absurd same (by decide +kernel)) (fun same => absurd same (by decide +kernel))

/-- The ceiling is raised from 2 to 1000 USD and the bundle still verifies. -/
theorem raised_ceiling_verifies :
    Signed signingRuntime signingKey paymentBundle ∧
    verifySignature signingRuntime { paymentBundle with policy := raisedPolicy } signingKey =
      .ok true ∧
    ¬ TamperEvident signingRuntime signingKey paymentBundle
      { paymentBundle with policy := raisedPolicy } := by
  have verified : verifySignature signingRuntime { paymentBundle with policy := raisedPolicy }
      signingKey = .ok true := by
    rfl
  refine ⟨paymentBundle_signed, verified, ?_⟩
  intro evident
  refine evident (Or.inl ?_) verified
  intro same
  have ceilings := congrArg (fun p : PolicyConfig => costs p 2) same
  exact absurd ceilings (by decide +kernel)

end PaymentAgent

end VeronicaSignatures
