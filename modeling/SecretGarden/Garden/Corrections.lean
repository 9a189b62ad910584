import SecretGarden.Garden.Accounting

/-! An ownership change that an instruction observes moves one unit between two counters.
Entering a round is the exception: it held the buyer's profile before the change and writes
it back.
-/

namespace SecretGarden.Garden

open Foundation SecretGarden.Bracket SecretGarden.Settlement SecretGarden.Season

variable {env : Env} {state after : ProgramState} {submission : GardenSubmission}
  {flowerKey : FlowerKey} {record flower : FlowerRecord}

/-- The flower whose owner an instruction brings in line without breeding it. -/
def GardenInstruction.corrects : GardenInstruction → Option FlowerKey
  | .submitEntry _ _ flowerKey _ _ => some flowerKey
  | .queuePrivateHint _ flowerKey _ _ _ _ => some flowerKey
  | .releaseFlower _ _ flowerKey _ => some flowerKey
  | .thawFlowerNft flowerKey _ => some flowerKey
  | _ => none

def GardenInstruction.IsSubmitEntry : GardenInstruction → Prop
  | .submitEntry _ _ _ _ _ => True
  | _ => False

/-- The counter in a wallet's profile. -/
def ProgramState.totalFlowers (state : ProgramState) (wallet : Pubkey) : Option Nat :=
  (state.profiles.lookup wallet).map PlayerProfile.totalFlowers

/-- One unit went from the seller's counter to the buyer's, unless the one is empty or the
other full, and no other counter changed.
-/
structure MovesOneUnit (state after : ProgramState) (seller buyer : Pubkey) : Prop where
  lowered
    : ∃ sold, state.totalFlowers seller = some sold
        ∧ (0 < sold → after.totalFlowers seller = some (sold - 1))
  raised
    : ∃ bought, state.totalFlowers buyer = some bought
        ∧ (bought < u16Max → after.totalFlowers buyer = some (bought + 1))
  kept
    : ∀ wallet,
        wallet ≠ seller
        → wallet ≠ buyer
        → after.totalFlowers wallet = state.totalFlowers wallet

/-- The signer writes its own profile back over a counter that still had room. -/
def WritesBack (state : ProgramState) (submission : GardenSubmission) : Prop :=
  submission.instruction.IsSubmitEntry
  ∧ ∃ count, state.totalFlowers submission.signer = some count ∧ count < u16Max

/-- Looking up a counter after a profile is written. -/
theorem map_lookup_insert (profiles : Store Pubkey PlayerProfile) (written wallet : Pubkey)
    (profile : PlayerProfile)
    : ((profiles.insert written profile).lookup wallet).map PlayerProfile.totalFlowers
      = if wallet = written then some profile.totalFlowers
        else (profiles.lookup wallet).map PlayerProfile.totalFlowers := by
  rw [Store.lookup_insert_apply]
  split <;> rfl

/-- What a synchronization that changed the owner did to the counters. -/
theorem Synced.totalFlowers {now : Int} {accounts : SyncAccounts} {written : FlowerRecord}
    {profiles : Store Pubkey PlayerProfile}
    (synced : Synced state now flowerKey accounts record state.profiles written profiles)
    (changed : written.owner ≠ record.owner)
    : ∃ sold bought,
        state.totalFlowers record.owner = some sold
        ∧ state.totalFlowers written.owner = some bought
        ∧ ∀ wallet,
            (profiles.lookup wallet).map PlayerProfile.totalFlowers
            = if wallet = written.owner then some (min u16Max (bought + 1))
              else if wallet = record.owner then some (sold - 1)
              else state.totalFlowers wallet := by
  cases synced with
  | kept => exact absurd rfl changed
  | @corrected seller buyer _ _ _ sold bought =>
      refine ⟨seller.totalFlowers, buyer.totalFlowers, ?_, ?_, fun wallet => ?_⟩
      · rw [ProgramState.totalFlowers, sold, Option.map_some]
      · rw [ProgramState.totalFlowers, bought, Option.map_some]
      · rw [map_lookup_insert, map_lookup_insert, ProgramState.totalFlowers]

/-- An instruction that stores the synchronized flower and profiles moves one unit. -/
theorem movesOneUnit_of_stored {accounts : SyncAccounts} {known written : FlowerRecord}
    {profiles : Store Pubkey PlayerProfile}
    (used : Used env state flowerKey accounts known written profiles)
    (before : state.flowers.lookup flowerKey = some record)
    (now : after.flowers.lookup flowerKey = some flower)
    (changed : flower.owner ≠ record.owner)
    (flowers : after.flowers = state.flowers.insert flowerKey written)
    (stored : after.profiles = profiles)
    : MovesOneUnit state after record.owner flower.owner := by
  rw [flowers, AList.lookup_insert] at now
  cases now
  cases used.found.symm.trans before
  obtain ⟨written, synced, same⟩ := used.synced
  have owner : flower.owner = written.owner := by rw [same]
  rw [owner] at changed ⊢
  obtain ⟨sold, bought, seller, buyer, counters⟩ := synced.totalFlowers changed
  have counted (wallet : Pubkey) := counters wallet
  simp only [← stored] at counted
  refine ⟨⟨sold, seller, fun _ => ?_⟩, ⟨bought, buyer, fun room => ?_⟩, ?_⟩
  · rw [ProgramState.totalFlowers, counted, if_neg changed.symm, if_pos rfl]
  · rw [ProgramState.totalFlowers, counted, if_pos rfl, Nat.min_eq_right room]
  · intro wallet notSeller notBuyer
    rw [ProgramState.totalFlowers, counted, if_neg notBuyer, if_neg notSeller]

/-- An instruction that stores them and then writes the buyer's old profile back moves one
unit only if the buyer's counter is full.
-/
theorem movesOneUnit_iff_of_writtenBack {accounts : SyncAccounts} {player : Pubkey}
    {profile written : PlayerProfile} {profiles : Store Pubkey PlayerProfile}
    (used : Used env state flowerKey accounts record flower profiles)
    (changed : flower.owner ≠ record.owner) (buyer : flower.owner = player)
    (loaded : state.profiles.lookup player = some profile)
    (stored : after.profiles = profiles.insert player written)
    (kept : written.totalFlowers = profile.totalFlowers)
    : MovesOneUnit state after record.owner player ↔ ¬ profile.totalFlowers < u16Max := by
  obtain ⟨corrected, synced, same⟩ := used.synced
  have owner : corrected.owner = player := by rw [← buyer, same]
  rw [buyer] at changed
  obtain ⟨sold, bought, seller, _, counters⟩ := synced.totalFlowers (owner.symm ▸ changed)
  have before : state.totalFlowers player = some profile.totalFlowers := by
    rw [ProgramState.totalFlowers, loaded, Option.map_some]
  have now (wallet : Pubkey)
      : after.totalFlowers wallet
        = if wallet = player then some profile.totalFlowers
          else if wallet = record.owner then some (sold - 1)
          else state.totalFlowers wallet := by
    rw [ProgramState.totalFlowers, stored, map_lookup_insert, kept, counters, owner]
    split <;> rfl
  constructor
  · rintro ⟨_, ⟨count, counted, raised⟩, _⟩ room
    cases before.symm.trans counted
    have lost := (now player).symm.trans (raised room)
    rw [if_pos rfl] at lost
    exact absurd (Option.some.inj lost) (Nat.ne_of_lt (Nat.lt_succ_self _))
  · intro full
    refine ⟨⟨sold, seller, fun _ => ?_⟩,
      ⟨profile.totalFlowers, before, fun room => absurd room full⟩, ?_⟩
    · rw [now, if_neg changed.symm, if_pos rfl]
    · intro wallet notSeller notBuyer
      rw [now, if_neg notBuyer, if_neg notSeller]

/-- An instruction that observes an ownership change moves exactly one unit if and only if it
does not enter a round with a flower of a buyer whose counter has room.
-/
theorem correction_moves_one_unit_iff
    (success : gardenStep state submission = .ok after)
    (corrects : submission.instruction.corrects = some flowerKey)
    (before : state.flowers.lookup flowerKey = some record)
    (now : after.flowers.lookup flowerKey = some flower)
    (changed : flower.owner ≠ record.owner)
    : MovesOneUnit state after record.owner flower.owner ↔ ¬ WritesBack state submission := by
  obtain ⟨signer, slot, time, instruction⟩ := submission
  cases instruction with
  | submitEntry roundKey entryKey submitted playerSgdAta accounts =>
      cases corrects
      obtain ⟨profile, known, entered, profiles, player, used, _, owned, _, same⟩ :=
        submitEntry_success success
      have stored := congrArg ProgramState.profiles same
      rw [same, AList.lookup_insert] at now
      cases now
      cases used.found.symm.trans before
      have counted : state.totalFlowers signer = some profile.totalFlowers :=
        congrArg (Option.map PlayerProfile.totalFlowers) player
      rw [owned, movesOneUnit_iff_of_writtenBack used changed owned player stored rfl]
      simp [WritesBack, GardenInstruction.IsSubmitEntry, counted]
  | queuePrivateHint roundKey asked accounts computationOffset hintPubkey hintNonce =>
      cases corrects
      obtain ⟨_, known, written, profiles, _, used, _, _, _, _, same⟩ :=
        queuePrivateHint_success success
      exact iff_of_true
        (movesOneUnit_of_stored used before now changed (by rw [same]) (by rw [same]))
        fun writesBack => writesBack.1.elim
  | releaseFlower roundKey entryKey released accounts =>
      cases corrects
      obtain ⟨known, written, profiles, used, _, _, same⟩ := releaseFlower_success success
      exact iff_of_true
        (movesOneUnit_of_stored used before now changed (by rw [same]) (by rw [same]))
        fun writesBack => writesBack.1.elim
  | thawFlowerNft thawed accounts =>
      cases corrects
      obtain ⟨known, written, profiles, used, _, _, same⟩ := thawFlowerNft_success success
      exact iff_of_true
        (movesOneUnit_of_stored used before now changed (by rw [same]) (by rw [same]))
        fun writesBack => writesBack.1.elim
  | _ => cases corrects

/-- Wallet 102 has its starters and a token account with one entry fee. -/
def buyerReadyScript : List GardenSubmission :=
  soldScript ++ [buyerClaims,
    ⟨66, 1000, 1, .season (.round 1
      (.outside (.changeWallet 302 { owner := 102, mint := 9, amount := entryFeeSgd })))⟩]

/-- The buyer enters the round with the bought flower. -/
def buyerEnters : GardenSubmission :=
  ⟨102, 1000, 1, .submitEntry 1 1 ⟨101, starterCount⟩ 302 ⟨502, 101, 102⟩⟩

/-- The instruction hands the sold flower from wallet 101 to wallet 102. -/
def handsOver (submission : GardenSubmission) (state : ProgramState) : Bool :=
  (state.flowers.lookup ⟨101, starterCount⟩).any (fun record => record.owner == 101)
    && (gardenStep state submission).toOption.any fun after =>
      (after.flowers.lookup ⟨101, starterCount⟩).any fun flower => flower.owner == 102

theorem exists_of_handsOver (handed : handsOver submission state)
    : ∃ after record flower,
        gardenStep state submission = .ok after
        ∧ state.flowers.lookup ⟨101, starterCount⟩ = some record
        ∧ after.flowers.lookup ⟨101, starterCount⟩ = some flower
        ∧ record.owner = 101
        ∧ flower.owner = 102 := by
  obtain ⟨owned, moved⟩ := Bool.and_eq_true_iff.mp handed
  obtain ⟨record, found, seller⟩ := (Option.any_eq_true _ _).mp owned
  obtain ⟨after, accepted, received⟩ := (Option.any_eq_true _ _).mp moved
  obtain ⟨flower, now, buyer⟩ := (Option.any_eq_true _ _).mp received
  refine ⟨after, record, flower, ?_, found, now, eq_of_beq seller, eq_of_beq buyer⟩
  cases outcome : gardenStep state submission with
  | error failure =>
      rw [outcome] at accepted
      cases accepted
  | ok other =>
      rw [outcome] at accepted
      exact congrArg _ (Option.some.inj accepted)

/-- A buyer who asks for a hint first takes the unit over. -/
theorem buyerAsks_moves_one_unit
    : ∃ state after,
        Run gardenStep anyAction sampleProgram buyerReadyScript state
        ∧ gardenStep state buyerAsks = .ok after
        ∧ MovesOneUnit state after 101 102 := by
  have replayed : (replay gardenStep anyAction sampleProgram buyerReadyScript).any
      (handsOver buyerAsks) := by
    decide +kernel
  obtain ⟨state, run, handed⟩ := Run.of_replay_any replayed
  obtain ⟨after, record, flower, success, found, now, seller, buyer⟩ := exists_of_handsOver handed
  have moves := (correction_moves_one_unit_iff success rfl found now (by simp [seller, buyer])).mpr
    fun writesBack => writesBack.1.elim
  rw [seller, buyer] at moves
  exact ⟨state, after, run, success, moves⟩

/-- A buyer who enters a round first loses the unit: its counter stays at six. -/
theorem buyerEnters_loses_the_unit
    : ∃ state after record flower,
        Run gardenStep anyAction sampleProgram buyerReadyScript state
        ∧ gardenStep state buyerEnters = .ok after
        ∧ state.flowers.lookup ⟨101, starterCount⟩ = some record
        ∧ after.flowers.lookup ⟨101, starterCount⟩ = some flower
        ∧ flower.owner ≠ record.owner
        ∧ ¬ MovesOneUnit state after record.owner flower.owner := by
  have replayed : (replay gardenStep anyAction sampleProgram buyerReadyScript).any fun state =>
      handsOver buyerEnters state
        && state.totalFlowers 102 == some 6
        && (gardenStep state buyerEnters).toOption.all fun after =>
          after.totalFlowers 102 == some 6 := by
    decide +kernel
  obtain ⟨state, run, checked⟩ := Run.of_replay_any replayed
  obtain ⟨facts, unchanged⟩ := Bool.and_eq_true_iff.mp checked
  obtain ⟨handed, counted⟩ := Bool.and_eq_true_iff.mp facts
  obtain ⟨after, record, flower, success, found, now, seller, buyer⟩ := exists_of_handsOver handed
  refine ⟨state, after, record, flower, run, success, found, now, by simp [seller, buyer], ?_⟩
  rw [seller, buyer]
  rintro ⟨_, ⟨bought, before, raised⟩, _⟩
  rw [success] at unchanged
  cases (eq_of_beq counted).symm.trans before
  have stayed : after.totalFlowers 102 = some 6 := eq_of_beq unchanged
  exact absurd (stayed.symm.trans (raised (by decide))) (by decide)

end SecretGarden.Garden
