import SecretGarden.Foundation.Outcome

/-! Reasons a transaction is rejected. -/

namespace SecretGarden

/-- Errors of the program, under its own names, followed by the failures that the
runtime, the account framework and the computation network raise on its behalf.
-/
inductive SecretGardenError where
  | notAuthority
  | gamePaused
  | roundNotClosed
  | abortedComputation
  | scoringIncomplete
  | scoringAlreadyRevealed
  | wrongEntryCount
  | invalidShardLayout
  | shardEntriesOutOfRange
  | invalidShardIndex
  | shardResultNotReady
  | shardAlreadyCollected
  | bracketNotReady
  | bracketAlreadyFinal
  | finalistMismatch
  | bracketRoundMismatch
  | wrongBracketTier
  | tier1NotReady
  | tier1AlreadyPromoted
  | semifinalNotReady
  | semifinalSliceMismatch
  | tier1WinnerRejected
  | staleRevealResult
  | finalRevealNotApplicable
  | roundNotOpen
  | roundDeadlinePassed
  | roundFull
  | roundTooRecentToClose
  | roundNotFinalized
  | previousRoundNotFinalized
  | flowerNotOwned
  | flowerNotActive
  | entryAlreadyScored
  | scoreAlreadyQueued
  | scoreNotQueued
  | scoreNotYetTimedOut
  | sgdMintAlreadySet
  | sgdMintNotSet
  | wrongSgdMint
  | wrongSgdDecimals
  | insufficientEntryFee
  | roundNotRevealed
  | roundAlreadyRevealed
  | refundTooEarly
  | potTooSmall
  | potMathOverflow
  | potAlreadyDistributed
  | potAlreadyRefunded
  | potNotSettled
  | potNotDrained
  | refundOrderInvalid
  | refundBatchTooLong
  | refundIncomplete
  | entryWrongRound
  | entryMismatch
  | wrongWinnerAccount
  | roundHadEntrants
  | startersAlreadyClaimed
  | invalidSpecies
  | flowerNotSubmitted
  | flowerParentLimitReached
  | flowerRecentlyTransferred
  | breedingLimitReached
  | collectionFull
  | experimentAlreadyResolved
  | experimentNotYetExpired
  | experimentNotDead
  | offspringNotReclaimable
  | invalidRentDestination
  | starterNotDeletable
  | starterNotMintable
  | flowerStillMinted
  | flowerNotMinted
  | flowerNotFrozen
  | notFlowerHolder
  | notFlowerDelegate
  | wrongFlowerMint
  | flowerTokenRequired
  | newOwnerHasNoProfile
  | profileAccountInvalid
  | mintingDisabled
  | uriTooLong
  | entryAlreadyReleased
  | noActiveRound
  | invalidOperator
  | operatorSlotsFull
  | operatorAlreadyExists
  | operatorNotFound
  | invalidAuthorityProposal
  | noPendingAuthority
  | notPendingAuthority
  /-- An account the instruction reads does not exist or has another type. -/
  | accountNotInitialized
  /-- An account the instruction creates already exists. -/
  | accountInUse
  /-- An index outside an array aborts the program. -/
  | arrayIndex
  /-- No computation is in flight under the given offset. -/
  | computationNotFound
  /-- An account constraint without an error of its own is violated. -/
  | constraintRaw
  /-- A token account holds less than a transfer moves out of it. -/
  | insufficientFunds
  /-- A token account is frozen. -/
  | accountFrozen
  /-- A token account belongs to someone else. -/
  | ownerMismatch
  /-- One account is passed twice where it is written. -/
  | duplicateMutableAccount
  /-- Arithmetic leaves its type, which aborts the program. -/
  | arithmeticOverflow
deriving DecidableEq, Repr

/-- The result of a transaction: the state it commits or the reason it was rejected. -/
abbrev Outcome (α : Type) : Type := Except SecretGardenError α

end SecretGarden
