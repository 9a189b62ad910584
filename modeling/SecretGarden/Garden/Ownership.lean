import SecretGarden.Season.Machine

/-! The flowers of a deployment with the profiles that count them and the tokens that carry
them, and what every use of a flower does first: it brings the recorded owner in line with the
token's holder. Taking a flower out of circulation also locks its token.
-/

namespace SecretGarden.Garden

open Foundation SecretGarden.Bracket SecretGarden.Settlement SecretGarden.Season

/-- What a hint is computed from: the genome in the flower's account, the traits that were asked
for, and the key and nonce the answer is sealed with.
-/
structure HintRequest where
  player : Pubkey
  flower : FlowerKey
  genomeNonce : Nat
  targetTraits : Vector Nat 4
  targetTraitCount : Nat
  hintPubkey : Nat
  hintNonce : Nat
deriving DecidableEq

/-- All accounts of the program and of the flower tokens. -/
structure ProgramState extends Deployment where
  /-- By the wallet each profile's address is derived from. -/
  profiles : Store Pubkey PlayerProfile
  flowers : Store FlowerKey FlowerRecord
  experiments : Store ExperimentKey Experiment
  hints : Store Pubkey HintResult
  /-- Every hint computation that was ever queued. -/
  hintComputations : Store Nat HintRequest
  /-- The supply of each flower's mint. A mint stays once it exists, also after a burn. -/
  mints : Store FlowerKey Nat
  tokens : Store Pubkey FlowerToken
  mintingEnabled : Bool

/-- The accounts a synchronization is given besides the flower; its mint is pinned by the
flower's own address. Profiles are named by the wallet they are derived from.
-/
structure SyncAccounts where
  token : Pubkey
  previousProfile : Pubkey
  newProfile : Pubkey

/-- Adjust a counter by one in the profile's raw account, saturating both ways. -/
def bumpTotalFlowers (wallet : Pubkey) (up : Bool) (profiles : Store Pubkey PlayerProfile)
    : Outcome (Store Pubkey PlayerProfile) := do
  let profile ← fetch (profiles.lookup wallet) .profileAccountInvalid
  pure (profiles.insert wallet { profile with
    totalFlowers :=
      if up then min u16Max (profile.totalFlowers + 1) else profile.totalFlowers - 1 })

/-- Bring one flower's recorded owner and both counters in line with the token's holder. A
flower that was never minted, or whose token was burned, stays as it is.
-/
def syncFlowerOwner (state : ProgramState) (now : Int) (flowerKey : FlowerKey)
    (accounts : SyncAccounts) (flower : FlowerRecord) (profiles : Store Pubkey PlayerProfile)
    : Outcome (FlowerRecord × Store Pubkey PlayerProfile) :=
  match state.mints.lookup flowerKey with
  | none => pure (flower, profiles)
  | some 0 => pure (flower, profiles)
  | some _ => do
      let token ← fetch (state.tokens.lookup accounts.token) .flowerTokenRequired
      require (token.mint = flowerKey) .wrongFlowerMint
      require (token.amount = 1) .notFlowerHolder
      if token.owner = flower.owner then pure (flower, profiles)
      else do
        require (profiles.lookup accounts.newProfile).isSome .newOwnerHasNoProfile
        require (accounts.newProfile = token.owner) .profileAccountInvalid
        require (accounts.previousProfile = flower.owner) .profileAccountInvalid
        let lowered ← bumpTotalFlowers accounts.previousProfile false profiles
        let raised ← bumpTotalFlowers accounts.newProfile true lowered
        pure ({ flower with owner := token.owner, lastTransferAt := now }, raised)

/-- Freeze the token of a minted flower, approving the program's delegate where it does not
hold the delegation yet.
-/
def freezeFlowerIfMinted (state : ProgramState) (owner : Pubkey) (flowerKey : FlowerKey)
    (flowerToken : Pubkey) (tokens : Store Pubkey FlowerToken)
    : Outcome (Store Pubkey FlowerToken) :=
  match state.mints.lookup flowerKey with
  | none => pure tokens
  | some 0 => pure tokens
  | some _ => do
      let token ← fetch (tokens.lookup flowerToken) .flowerTokenRequired
      require (token.mint = flowerKey) .wrongFlowerMint
      require (token.amount = 1) .notFlowerHolder
      if token.frozen then pure tokens
      else if token.delegate = some .mintAuthority ∧ 1 ≤ token.delegatedAmount then
        pure (tokens.insert flowerToken { token with frozen := true })
      else do
        require (token.owner = owner) .ownerMismatch
        pure (tokens.insert flowerToken { token with
          delegate := some .mintAuthority
          delegatedAmount := 1
          frozen := true })

end SecretGarden.Garden
