import SecretGarden.Foundation.Slots
import SecretGarden.Season.Machine

/-! The operators of a deployment and the handover of its authority in two steps: the
authority nominates, and the nominee accepts with a signature of its own.
-/

namespace SecretGarden.Season

open Foundation

-----------------------------------------------------------------------------------------
-- Instructions
-----------------------------------------------------------------------------------------

/-- The configuration with the handover that is open. -/
structure AdminConfig extends GameConfig where
  /-- The nominated authority; the default address while none is. -/
  pendingAuthority : Pubkey
deriving DecidableEq

def initializeConfig (signer : Pubkey) : AdminConfig :=
  { authority := signer
    paused := false
    currentRound := 0
    operators := Vector.replicate 3 0
    operatorCount := 0
    mutantWeight := mutantWeightUniform
    restoreTs := 0
    sgdMint := 0
    pendingAuthority := 0 }

/-- The slots of the array that count. -/
def AdminConfig.activeOperators (config : AdminConfig) : List Pubkey :=
  config.operators.toList.take config.operatorCount

def addOperator (signer newOperator : Pubkey) (config : AdminConfig) : Outcome AdminConfig := do
  require (signer = config.authority) .notAuthority
  require (newOperator ≠ 0) .invalidOperator
  require (newOperator ≠ config.authority) .invalidOperator
  let count := config.operatorCount
  require (count < 3) .operatorSlotsFull
  require (newOperator ∉ config.operators.toList.take count) .operatorAlreadyExists
  pure { config with
    operators := config.operators.setIfInBounds count newOperator
    operatorCount := count + 1 }

def removeOperator (signer operator : Pubkey) (config : AdminConfig) : Outcome AdminConfig := do
  require (signer = config.authority) .notAuthority
  let count := config.operatorCount
  require (count ≤ 3) .arrayIndex
  let pos ← fetch ((config.operators.toList.take count).findIdx? (· == operator))
    .operatorNotFound
  pure { config with
    operators := (shiftLeft 0 config.operators pos count).setIfInBounds (count - 1) 0
    operatorCount := count - 1 }

def proposeAuthorityTransfer (signer newAuthority : Pubkey) (config : AdminConfig)
    : Outcome AdminConfig := do
  require (signer = config.authority) .notAuthority
  require (newAuthority ≠ 0) .invalidAuthorityProposal
  require (newAuthority ≠ config.authority) .invalidAuthorityProposal
  pure { config with pendingAuthority := newAuthority }

/-- The registered operators are neither read nor changed. -/
def acceptAuthorityTransfer (signer : Pubkey) (config : AdminConfig) : Outcome AdminConfig := do
  require (config.pendingAuthority ≠ 0) .noPendingAuthority
  require (signer = config.pendingAuthority) .notPendingAuthority
  pure { config with authority := config.pendingAuthority, pendingAuthority := 0 }

def cancelAuthorityTransfer (signer : Pubkey) (config : AdminConfig) : Outcome AdminConfig := do
  require (signer = config.authority) .notAuthority
  require (config.pendingAuthority ≠ 0) .noPendingAuthority
  pure { config with pendingAuthority := 0 }

inductive AdminInstruction where
  | addOperator (newOperator : Pubkey)
  | removeOperator (operator : Pubkey)
  | proposeAuthorityTransfer (newAuthority : Pubkey)
  | acceptAuthorityTransfer
  | cancelAuthorityTransfer
  /-- What the other instructions write into the configuration. -/
  | other (paused : Bool) (currentRound mutantWeight : Nat) (restoreTs : Int) (sgdMint : Pubkey)
deriving DecidableEq

structure AdminSubmission where
  signer : Pubkey
  instruction : AdminInstruction
deriving DecidableEq

def adminStep (config : AdminConfig) (submission : AdminSubmission) : Outcome AdminConfig :=
  match submission.instruction with
  | .addOperator newOperator => addOperator submission.signer newOperator config
  | .removeOperator operator => removeOperator submission.signer operator config
  | .proposeAuthorityTransfer newAuthority =>
      proposeAuthorityTransfer submission.signer newAuthority config
  | .acceptAuthorityTransfer => acceptAuthorityTransfer submission.signer config
  | .cancelAuthorityTransfer => cancelAuthorityTransfer submission.signer config
  | .other paused currentRound mutantWeight restoreTs sgdMint =>
      pure { config with
        paused := paused
        currentRound := currentRound
        mutantWeight := mutantWeight
        restoreTs := restoreTs
        sgdMint := sgdMint }

-----------------------------------------------------------------------------------------
-- What an accepted instruction established
-----------------------------------------------------------------------------------------

section Inversion

variable {signer : Pubkey} {config after : AdminConfig}

theorem addOperator_eq_ok {newOperator : Pubkey}
    : addOperator signer newOperator config = .ok after
      ↔ signer = config.authority
        ∧ newOperator ≠ 0
        ∧ newOperator ≠ config.authority
        ∧ config.operatorCount < 3
        ∧ newOperator ∉ config.activeOperators
        ∧ { config with
              operators := config.operators.setIfInBounds config.operatorCount newOperator
              operatorCount := config.operatorCount + 1 } = after := by
  simp only [addOperator, bind_eq_ok, require_eq_ok, exists_const, pure_eq_ok,
    AdminConfig.activeOperators]

theorem removeOperator_eq_ok {operator : Pubkey}
    : removeOperator signer operator config = .ok after
      ↔ signer = config.authority
        ∧ config.operatorCount ≤ 3
        ∧ ∃ pos, config.activeOperators.findIdx? (· == operator) = some pos
          ∧ { config with
                operators := (shiftLeft 0 config.operators pos
                  config.operatorCount).setIfInBounds (config.operatorCount - 1) 0
                operatorCount := config.operatorCount - 1 } = after := by
  simp only [removeOperator, bind_eq_ok, require_eq_ok, fetch_eq_ok, exists_const, pure_eq_ok,
    AdminConfig.activeOperators]

theorem proposeAuthorityTransfer_eq_ok {newAuthority : Pubkey}
    : proposeAuthorityTransfer signer newAuthority config = .ok after
      ↔ signer = config.authority
        ∧ newAuthority ≠ 0
        ∧ newAuthority ≠ config.authority
        ∧ { config with pendingAuthority := newAuthority } = after := by
  simp only [proposeAuthorityTransfer, bind_eq_ok, require_eq_ok, exists_const, pure_eq_ok]

theorem acceptAuthorityTransfer_eq_ok
    : acceptAuthorityTransfer signer config = .ok after
      ↔ config.pendingAuthority ≠ 0
        ∧ signer = config.pendingAuthority
        ∧ { config with authority := config.pendingAuthority, pendingAuthority := 0 }
          = after := by
  simp only [acceptAuthorityTransfer, bind_eq_ok, require_eq_ok, exists_const, pure_eq_ok]

theorem cancelAuthorityTransfer_eq_ok
    : cancelAuthorityTransfer signer config = .ok after
      ↔ signer = config.authority
        ∧ config.pendingAuthority ≠ 0
        ∧ { config with pendingAuthority := 0 } = after := by
  simp only [cancelAuthorityTransfer, bind_eq_ok, require_eq_ok, exists_const, pure_eq_ok]

/-- Neither the registry nor the handover: one of the other instructions. -/
def AdminInstruction.IsOther : AdminInstruction → Prop
  | .other _ _ _ _ _ => True
  | _ => False

/-- The registry and the handover leave the current round and the mint alone. -/
theorem adminStep_frame {submission : AdminSubmission} (own : ¬ submission.instruction.IsOther)
    (success : adminStep config submission = .ok after)
    : after.currentRound = config.currentRound ∧ after.sgdMint = config.sgdMint := by
  obtain ⟨signer, instruction⟩ := submission
  cases instruction with
  | addOperator newOperator =>
      obtain ⟨_, _, _, _, _, rfl⟩ := addOperator_eq_ok.mp success
      exact ⟨rfl, rfl⟩
  | removeOperator operator =>
      obtain ⟨_, _, _, _, rfl⟩ := removeOperator_eq_ok.mp success
      exact ⟨rfl, rfl⟩
  | proposeAuthorityTransfer newAuthority =>
      obtain ⟨_, _, _, rfl⟩ := proposeAuthorityTransfer_eq_ok.mp success
      exact ⟨rfl, rfl⟩
  | acceptAuthorityTransfer =>
      obtain ⟨_, _, rfl⟩ := acceptAuthorityTransfer_eq_ok.mp success
      exact ⟨rfl, rfl⟩
  | cancelAuthorityTransfer =>
      obtain ⟨_, _, rfl⟩ := cancelAuthorityTransfer_eq_ok.mp success
      exact ⟨rfl, rfl⟩
  | other => exact absurd trivial own

/-- A season sees them as one administrative change. -/
theorem adminStep_administers {submission : AdminSubmission}
    {rounds : Store RoundKey Settlement.RoundLedger} (slot : Nat) (now : Int)
    (own : ¬ submission.instruction.IsOther)
    (success : adminStep config submission = .ok after)
    : seasonStep ⟨config.toGameConfig, rounds⟩
        ⟨submission.signer, slot, now,
          .administer after.authority after.paused after.operators after.operatorCount
            after.mutantWeight after.restoreTs⟩
      = .ok ⟨after.toGameConfig, rounds⟩ := by
  obtain ⟨sameRound, sameMint⟩ := adminStep_frame own success
  simp only [seasonStep, ← sameRound, ← sameMint]
  rfl

end Inversion

-----------------------------------------------------------------------------------------
-- The registry
-----------------------------------------------------------------------------------------

/-- The active operators are different wallets, none of them the default address or the
authority, and the slots behind them are blank.
-/
structure AdminConfig.Registered (config : AdminConfig) : Prop where
  inside : config.operatorCount ≤ 3
  distinct : config.activeOperators.Nodup
  named : 0 ∉ config.activeOperators
  ordinary : config.authority ∉ config.activeOperators
  blank : ∀ operator ∈ config.operators.toList.drop config.operatorCount, operator = 0

/-- What a wallet that gave its authority away must not be able to do any more: pass the
check for the authority, or the one for an operator.
-/
def AdminConfig.Stripped (config : AdminConfig) (wallet : Pubkey) : Prop :=
  wallet ≠ config.authority ∧ isOperatorOrAuthority config.toGameConfig wallet = false

variable {config after : AdminConfig} {submission : AdminSubmission}

theorem isOperatorOrAuthority_iff (wallet : Pubkey)
    : isOperatorOrAuthority config.toGameConfig wallet = true
      ↔ wallet = config.authority ∨ wallet ∈ config.activeOperators := by
  simp [isOperatorOrAuthority, AdminConfig.activeOperators]

theorem stripped_iff (wallet : Pubkey)
    : config.Stripped wallet ↔ wallet ≠ config.authority ∧ wallet ∉ config.activeOperators := by
  rw [AdminConfig.Stripped, ← Bool.not_eq_true, isOperatorOrAuthority_iff]
  tauto

theorem AdminConfig.Registered.length_active (registered : config.Registered)
    : config.activeOperators.length = config.operatorCount := by
  have inside := registered.inside
  rw [AdminConfig.activeOperators, List.length_take, Vector.length_toList]
  omega

/-- In a registry the array lists exactly the active operators. -/
theorem AdminConfig.Registered.lists (registered : config.Registered)
    : Listed 0 config.operators config.activeOperators := by
  have behind : config.operators.toList.drop config.operatorCount
      = List.replicate (3 - config.operatorCount) 0 := by
    apply List.eq_replicate_iff.mpr
    exact ⟨by simp, registered.blank⟩
  rw [Listed, registered.length_active, ← behind, AdminConfig.activeOperators,
    List.take_append_drop]

/-- An array that lists acceptable operators is a registry. -/
theorem registered_of_lists {used : List Pubkey} (listed : Listed 0 config.operators used)
    (counted : config.operatorCount = used.length) (distinct : used.Nodup) (named : 0 ∉ used)
    (ordinary : config.authority ∉ used)
    : config.Registered := by
  have active : config.activeOperators = used := by
    rw [AdminConfig.activeOperators, counted, listed.take_eq]
  exact {
    inside := counted ▸ listed.length_le
    distinct := active ▸ distinct
    named := active ▸ named
    ordinary := active ▸ ordinary
    blank := by
      rw [counted, listed.drop_eq]
      exact fun operator member => List.eq_of_mem_replicate member
  }

theorem initializeConfig_registered (signer : Pubkey) : (initializeConfig signer).Registered :=
  registered_of_lists lists_replicate rfl List.nodup_nil List.not_mem_nil List.not_mem_nil

/-- Adding appends to the active operators. -/
theorem addOperator_registered {signer newOperator : Pubkey} (registered : config.Registered)
    (success : addOperator signer newOperator config = .ok after)
    : after.Registered := by
  obtain ⟨_, named, ordinary, room, fresh, rfl⟩ := addOperator_eq_ok.mp success
  have appended := registered.lists.append (registered.length_active ▸ room) newOperator
  rw [registered.length_active] at appended
  apply registered_of_lists appended
  · rw [List.length_append, registered.length_active, List.length_singleton]
  · exact List.concat_eq_append ▸ registered.distinct.concat fresh
  · simpa [named.symm] using registered.named
  · simpa [ordinary.symm] using registered.ordinary

/-- Removing takes one operator out and keeps the others. -/
theorem removeOperator_registered {signer operator : Pubkey} (registered : config.Registered)
    (success : removeOperator signer operator config = .ok after)
    : after.Registered := by
  obtain ⟨_, _, pos, found, rfl⟩ := removeOperator_eq_ok.mp success
  obtain ⟨inside, _⟩ := List.findIdx?_eq_some_iff_getElem.mp found
  have removed := registered.lists.eraseIdx inside
  rw [registered.length_active] at removed
  have fewer := List.eraseIdx_sublist config.activeOperators pos
  apply registered_of_lists removed
  · rw [List.length_eraseIdx_of_lt inside, registered.length_active]
  · exact registered.distinct.sublist fewer
  · exact fun member => registered.named (fewer.subset member)
  · exact fun member => registered.ordinary (fewer.subset member)

-----------------------------------------------------------------------------------------
-- Handovers
-----------------------------------------------------------------------------------------

/-- A nominee that accepts is not one of the active operators. -/
def NomineeIsNoOperator (config : AdminConfig) (submission : AdminSubmission) : Prop :=
  submission.instruction = .acceptAuthorityTransfer
  → submission.signer ∉ config.activeOperators

instance : Decidable (NomineeIsNoOperator config submission) := inferInstanceAs (Decidable (_ → _))

instance (wallet : Pubkey) : Decidable (config.Stripped wallet) :=
  inferInstanceAs (Decidable (_ ∧ _))

/-- A registry whose open proposal, if any, names somebody new. -/
structure AdminConfig.Orderly (config : AdminConfig) : Prop where
  registered : config.Registered
  proposed : config.pendingAuthority ≠ config.authority ∨ config.pendingAuthority = 0

/-- An accepted handover strips the authority before it; the registry survives unless the
nominee is in it.
-/
theorem acceptAuthorityTransfer_effect {signer : Pubkey} (orderly : config.Orderly)
    (success : acceptAuthorityTransfer signer config = .ok after)
    : after.Stripped config.authority
      ∧ (after.Registered ↔ signer ∉ config.activeOperators) := by
  obtain ⟨pending, rfl, rfl⟩ := acceptAuthorityTransfer_eq_ok.mp success
  have registered := orderly.registered
  have changed := orderly.proposed.resolve_right pending
  constructor
  · exact (stripped_iff _).mpr ⟨changed.symm, registered.ordinary⟩
  · constructor
    · exact fun kept => kept.ordinary
    · exact fun ordinary => { registered with ordinary := ordinary }

/-- Every accepted instruction keeps the registry and the proposal in order. -/
theorem adminStep_orderly (orderly : config.Orderly)
    (met : NomineeIsNoOperator config submission)
    (success : adminStep config submission = .ok after)
    : after.Orderly := by
  obtain ⟨registered, proposed⟩ := orderly
  obtain ⟨signer, instruction⟩ := submission
  cases instruction with
  | addOperator newOperator =>
      have kept := addOperator_registered registered success
      obtain ⟨_, _, _, _, _, rfl⟩ := addOperator_eq_ok.mp success
      exact ⟨kept, proposed⟩
  | removeOperator operator =>
      have kept := removeOperator_registered registered success
      obtain ⟨_, _, _, _, rfl⟩ := removeOperator_eq_ok.mp success
      exact ⟨kept, proposed⟩
  | proposeAuthorityTransfer newAuthority =>
      obtain ⟨_, _, other, rfl⟩ := proposeAuthorityTransfer_eq_ok.mp success
      exact ⟨{ registered with }, .inl other⟩
  | acceptAuthorityTransfer =>
      have effect := (acceptAuthorityTransfer_effect ⟨registered, proposed⟩ success).2
      have kept := effect.mpr (met rfl)
      obtain ⟨_, _, rfl⟩ := acceptAuthorityTransfer_eq_ok.mp success
      exact ⟨kept, .inr rfl⟩
  | cancelAuthorityTransfer =>
      obtain ⟨_, _, rfl⟩ := cancelAuthorityTransfer_eq_ok.mp success
      exact ⟨{ registered with }, .inr rfl⟩
  | other =>
      cases pure_eq_ok.mp success
      exact ⟨{ registered with }, proposed⟩

/-- While no operator accepts the authority, the registry is sound in every configuration
that is reached; a handover from there strips the wallet that gave the authority away and
leaves a sound registry exactly when its nominee is no operator.
-/
theorem handover_strips_the_old_key {creator : Pubkey} {history : List AdminSubmission}
    (run : Run adminStep NomineeIsNoOperator (initializeConfig creator) history config)
    : config.Registered
      ∧ ∀ signer after,
          adminStep config ⟨signer, .acceptAuthorityTransfer⟩ = .ok after
          → (after.Registered ∧ after.Stripped config.authority
              ↔ NomineeIsNoOperator config ⟨signer, .acceptAuthorityTransfer⟩) := by
  have orderly : config.Orderly :=
    run.invariant ⟨initializeConfig_registered creator, .inr rfl⟩ adminStep_orderly
  refine ⟨orderly.registered, fun signer after success => ?_⟩
  obtain ⟨stripped, kept⟩ := acceptAuthorityTransfer_effect orderly success
  rw [kept]
  exact ⟨fun both _ => both.1, fun met => ⟨met rfl, stripped⟩⟩

/-- Wallet 2 is an operator and wallet 3 is nominated. -/
def handingOver (authority : Pubkey) : AdminConfig :=
  { initializeConfig authority with
    operators := #v[2, 0, 0], operatorCount := 1, pendingAuthority := 3 }

/-- Wallet 1 registers wallet 2 as an operator and hands over to wallet 3. -/
theorem rotatedKey_stripped
    : ∃ config after,
        adminStep config ⟨3, .acceptAuthorityTransfer⟩ = .ok after
        ∧ after.Registered
        ∧ after.Stripped 1
        ∧ isOperatorOrAuthority after.toGameConfig 2 = true := by
  have rotated
      : (replay adminStep NomineeIsNoOperator (initializeConfig 1)
          [⟨1, .addOperator 2⟩, ⟨1, .proposeAuthorityTransfer 3⟩]).any
          (· == handingOver 1) := by
    decide
  obtain ⟨config, run, same⟩ := Run.of_replay_any rotated
  cases beq_iff_eq.mp same
  obtain ⟨_, effect⟩ := handover_strips_the_old_key run
  obtain ⟨kept, stripped⟩ := (effect 3 _ rfl).mpr (by decide)
  exact ⟨handingOver 1, _, rfl, kept, stripped, by decide⟩

/-- Wallet 2 is an operator when it takes the authority over, and still one after it gives
the authority away to wallet 3.
-/
theorem promotedOperator_keeps_its_seat
    : ∃ config after,
        Run adminStep anyAction (initializeConfig 1)
          [⟨1, .addOperator 2⟩, ⟨1, .proposeAuthorityTransfer 2⟩, ⟨2, .acceptAuthorityTransfer⟩,
            ⟨2, .proposeAuthorityTransfer 3⟩] config
        ∧ adminStep config ⟨3, .acceptAuthorityTransfer⟩ = .ok after
        ∧ ¬ config.Registered
        ∧ config.authority = 2
        ∧ ¬ after.Stripped 2 := by
  have promoted
      : (replay adminStep anyAction (initializeConfig 1)
          [⟨1, .addOperator 2⟩, ⟨1, .proposeAuthorityTransfer 2⟩, ⟨2, .acceptAuthorityTransfer⟩,
            ⟨2, .proposeAuthorityTransfer 3⟩]).any
          (· == handingOver 2) := by
    decide
  obtain ⟨config, run, same⟩ := Run.of_replay_any promoted
  cases beq_iff_eq.mp same
  refine ⟨handingOver 2, _, run, rfl, ?_, rfl, by decide⟩
  exact fun registered => registered.ordinary (by decide)

end SecretGarden.Season
