import SecretGarden.Garden.Accounting
import SecretGarden.Garden.Changes
import SecretGarden.Garden.Circulation

/-! Whoever the program accepts as a flower's owner holds its token, or held it last before it was
burned, provided that tokens are burned only while their holder is on record. The journal notes
the holder of every token that is burned.
-/

namespace SecretGarden.Garden

open Foundation SecretGarden.Bracket SecretGarden.Settlement SecretGarden.Season

variable {env : Env} {state after : ProgramState} {submission : GardenSubmission}

/-- By flower: who held its token when it was burned. -/
abbrev LastHolders := FlowerKey → Option Pubkey

def noteHolders (state : ProgramState) (submission : GardenSubmission) (lastHolders : LastHolders)
    : LastHolders :=
  match submission.instruction.burns.bind fun address => state.tokens.lookup address with
  | some token => Function.update lastHolders token.mint (some token.owner)
  | none => lastHolders

abbrev JournaledHolders := Journaled ProgramState LastHolders

def burning : JournaledHolders → GardenSubmission → Outcome JournaledHolders :=
  journaled gardenStep noteHolders

/-- A burn outside the program finds the holder of the token on record. -/
def BurnsOnRecord (state : ProgramState) (submission : GardenSubmission) : Prop :=
  match submission.instruction with
  | .token (.burn address) =>
      ∀ token ∈ state.tokens.lookup address, ∀ flower ∈ state.flowers.lookup token.mint,
        token.owner = flower.owner
  | _ => True

instance (state : ProgramState) (submission : GardenSubmission)
    : Decidable (BurnsOnRecord state submission) := by
  unfold BurnsOnRecord
  generalize submission.instruction = instruction
  rcases instruction
  case token event => rcases event <;> infer_instance
  all_goals infer_instance

/-- The record of a flower whose token was burned names the last holder. -/
def NamesLastHolder (state : ProgramState) (lastHolders : LastHolders) : Prop :=
  ∀ flowerKey flower,
    state.mints.lookup flowerKey = some 0
    → state.flowers.lookup flowerKey = some flower
    → lastHolders flowerKey = some flower.owner

/-- A flower whose token is gone keeps its owner. -/
theorem Evolved.owner_of_burned {now : Int} {flowerKey : FlowerKey} {record flower : FlowerRecord}
    (evolved : Evolved state now flowerKey record flower)
    (burned : state.mints.lookup flowerKey = some 0)
    : flower.owner = record.owner := by
  cases evolved.moved with
  | kept owner => exact owner
  | corrected live =>
      obtain ⟨supply, minted⟩ := live
      cases burned.symm.trans minted

/-- A burn leaves every flower alone, and whoever burns is on record. -/
theorem owner_of_burns (success : gardenStep state submission = .ok after)
    (onRecord : BurnsOnRecord state submission) {flowerKey : FlowerKey} {address : Pubkey}
    {token : FlowerToken} (burns : submission.instruction.burns = some address)
    (held : Holding state.tokens flowerKey address token) {flower : FlowerRecord}
    (found : after.flowers.lookup flowerKey = some flower)
    : token.owner = flower.owner := by
  obtain ⟨signer, slot, now, instruction⟩ := submission
  cases instruction with
  | burnFlowerNft burnt tokenAccount =>
      obtain rfl : tokenAccount = address := Option.some.inj burns
      obtain ⟨record, other, present, holding, owner, _⟩ := burnFlowerNft_tokens success
      cases holding.found.symm.trans held.found
      obtain rfl : burnt = flowerKey := holding.mint.symm.trans held.mint
      rw [(burnFlowerNft_success success).frame] at found
      cases present.symm.trans found
      exact owner
  | token event =>
      cases event with
      | burn burnt =>
          obtain rfl : burnt = address := Option.some.inj burns
          have happened : (TokenEvent.burn burnt).happen state = .ok after := success
          rw [(tokensOnly_of_event happened).frame] at found
          exact onRecord token held.found flower (held.mint ▸ found)
      | _ => cases burns
  | _ => cases burns

/-- The journal keeps what it has for a flower whose token is gone. -/
theorem noteHolders_of_burned (circulation : Circulation state.mints state.tokens)
    (change : TokenChange submission state after) {flowerKey : FlowerKey}
    (burned : state.mints.lookup flowerKey = some 0) (lastHolders : LastHolders)
    : noteHolders state submission lastHolders flowerKey = lastHolders flowerKey := by
  unfold noteHolders
  cases noted : submission.instruction.burns.bind fun address => state.tokens.lookup address with
  | none => rfl
  | some token =>
      obtain ⟨address, burns, found⟩ := Option.bind_eq_some_iff.mp noted
      obtain ⟨other, held⟩ := change.burns_holding burns
      cases held.found.symm.trans found
      have minted := circulation.minted held
      refine Function.update_of_ne ?_ _ _
      rintro rfl
      cases burned.symm.trans minted

/-- The journal notes the holder of a token that is burned. -/
theorem noteHolders_of_burns {flowerKey : FlowerKey} {address : Pubkey} {token : FlowerToken}
    (burns : submission.instruction.burns = some address)
    (held : Holding state.tokens flowerKey address token) (lastHolders : LastHolders)
    : noteHolders state submission lastHolders flowerKey = some token.owner := by
  have noted
      : submission.instruction.burns.bind (fun address => state.tokens.lookup address)
        = some token :=
    Option.bind_eq_some_iff.mpr ⟨address, burns, held.found⟩
  simp only [noteHolders, noted]
  rw [held.mint, Function.update_self]

theorem NamesLastHolder.step {lastHolders : LastHolders}
    (names : NamesLastHolder state lastHolders)
    (nursery : Nursery state.flowers state.experiments state.mints)
    (circulation : Circulation state.mints state.tokens)
    (onRecord : BurnsOnRecord state submission)
    (success : gardenStep state submission = .ok after)
    : NamesLastHolder after (noteHolders state submission lastHolders) := by
  intro flowerKey flower burned found
  have change := gardenStep_tokenChange success
  rcases change.burned_of_step burned with before | ⟨address, token, burns, held⟩
  · obtain ⟨record, present, _⟩ := nursery.minted (Option.isSome_of_eq_some before)
    have evolved := (gardenStep_change nursery success).evolved.of_found present found
    rw [noteHolders_of_burned circulation change before, evolved.owner_of_burned before]
    exact names flowerKey record before present
  · rw [noteHolders_of_burns burns held, owner_of_burns success onRecord burns held found]

/-- Over every run under the condition, records of burned flowers name the last holders. -/
theorem namesLastHolder_of_run {start : ProgramState} (fresh : start.Fresh)
    {history : List GardenSubmission} {reached : JournaledHolders}
    (run : Run burning (fun before submission => BurnsOnRecord before.system submission)
      ⟨start, fun _ => none⟩ history reached)
    : NamesLastHolder reached.system reached.journal := by
  apply run.invariant_with (fun earlier => And.intro (nursery_of_run fresh earlier.forget)
    (circulation_of_run fresh earlier.forget))
  · intro flowerKey flower burned
    rw [fresh.mints] at burned
    cases burned
  · intro before submission later known names onRecord success
    obtain ⟨accepted, noted⟩ := journaled_eq_ok.mp success
    rw [noted]
    exact NamesLastHolder.step names known.1 known.2 onRecord accepted

--------------------------------------------------------------------------------
-- Accepted owners
--------------------------------------------------------------------------------

/-- The flowers whose owner must have signed, each with the accounts given for it. -/
def GardenInstruction.uses : GardenInstruction → List (FlowerKey × SyncAccounts)
  | .startBreeding flowerA flowerB syncA syncB _ => [(flowerA, syncA), (flowerB, syncB)]
  | .submitEntry _ _ flowerKey _ accounts => [(flowerKey, accounts)]
  | .queuePrivateHint _ flowerKey accounts _ _ _ => [(flowerKey, accounts)]
  | _ => []

/-- The signer holds the flower's one token, or held it when it was burned. -/
def SignsForToken (state : ProgramState) (lastHolders : LastHolders) (flowerKey : FlowerKey)
    (signer : Pubkey) : Prop :=
  (∃ address token,
    token.owner = signer
    ∧ ∀ holder held,
        Holding state.tokens flowerKey holder held ↔ holder = address ∧ held = token)
  ∨ state.mints.lookup flowerKey = some 0 ∧ lastHolders flowerKey = some signer

/-- A flower whose owner was accepted belongs to the signer once it is synchronized. -/
theorem owned_of_uses (success : gardenStep state submission = .ok after) {flowerKey : FlowerKey}
    {accounts : SyncAccounts} (used : (flowerKey, accounts) ∈ submission.instruction.uses)
    : ∃ record flower,
        state.flowers.lookup flowerKey = some record
        ∧ Evolved state submission.now flowerKey record flower
        ∧ OwnsToken state flowerKey accounts flower
        ∧ flower.owner = submission.signer := by
  obtain ⟨signer, slot, now, instruction⟩ := submission
  cases instruction with
  | startBreeding flowerA flowerB syncA syncB computationOffset =>
      simp only [GardenInstruction.uses, List.mem_cons, Prod.mk.injEq, List.not_mem_nil,
        or_false] at used
      cases startBreeding_success success with
      | @queued _ recordA recordB parentA parentB _ _ _ _ _ _ _ foundA _ foundB _ _ _ syncedA
          syncedB ownedA ownedB _ _ _ _ _ _ _ holderA holderB =>
          rcases used with ⟨rfl, rfl⟩ | ⟨rfl, rfl⟩
          · exact ⟨recordA, parentA, foundA, .of_synced syncedA holderA rfl rfl rfl, holderA,
              ownedA⟩
          · exact ⟨recordB, parentB, foundB, .of_synced syncedB holderB rfl rfl rfl, holderB,
              ownedB⟩
  | submitEntry roundKey entryKey entered playerSgdAta given =>
      obtain ⟨_, record, flower, _, _, taken, _, owned, _⟩ := submitEntry_success success
      simp only [GardenInstruction.uses, List.mem_cons, Prod.mk.injEq, List.not_mem_nil,
        or_false] at used
      obtain ⟨rfl, rfl⟩ := used
      exact ⟨record, flower, taken.found, taken.evolved, taken.holder, owned⟩
  | queuePrivateHint roundKey asked given computationOffset hintPubkey hintNonce =>
      obtain ⟨_, record, flower, _, _, taken, _, _, owned, _⟩ := queuePrivateHint_success success
      simp only [GardenInstruction.uses, List.mem_cons, Prod.mk.injEq, List.not_mem_nil,
        or_false] at used
      obtain ⟨rfl, rfl⟩ := used
      exact ⟨record, flower, taken.found, taken.evolved, taken.holder, owned⟩
  | _ => cases used

/-- Over every run under the condition, whoever is accepted as the owner of a flower that was ever
minted holds its token, or held it last.
-/
theorem accepted_owners_hold {start : ProgramState} (fresh : start.Fresh)
    {history : List GardenSubmission} {reached : JournaledHolders}
    (run : Run burning (fun before submission => BurnsOnRecord before.system submission)
      ⟨start, fun _ => none⟩ history reached)
    (success : gardenStep reached.system submission = .ok after) {flowerKey : FlowerKey}
    {accounts : SyncAccounts} (used : (flowerKey, accounts) ∈ submission.instruction.uses)
    (minted : (reached.system.mints.lookup flowerKey).isSome)
    : SignsForToken reached.system reached.journal flowerKey submission.signer := by
  have names := namesLastHolder_of_run fresh run
  have circulation := circulation_of_run fresh run.forget
  obtain ⟨record, flower, found, evolved, holder, owned⟩ := owned_of_uses success used
  obtain ⟨supply, present⟩ := Option.isSome_iff_exists.mp minted
  cases supply with
  | zero =>
      rw [evolved.owner_of_burned present] at owned
      rw [← owned]
      exact .inr ⟨present, names flowerKey record present found⟩
  | succ supply =>
      obtain ⟨token, lookup, mint, amount, owner⟩ := holder supply present
      have held : Holding reached.system.tokens flowerKey accounts.token token :=
        ⟨lookup, mint, amount⟩
      refine .inl ⟨accounts.token, token, owner.trans owned, fun other also => ?_⟩
      constructor
      · intro alsoHeld
        obtain rfl := circulation.unique alsoHeld held
        exact ⟨rfl, Option.some.inj (alsoHeld.found.symm.trans lookup)⟩
      · rintro ⟨rfl, rfl⟩
        exact held

/-- The buyer burns the token it bought, outside the program. -/
def buyerBurns : GardenSubmission := ⟨102, 1000, 1, .token (.burn 502)⟩

/-- A wallet uses the flower after its token is gone. -/
def asksAfterBurn (wallet : Pubkey) : GardenSubmission :=
  ⟨wallet, 1000, 1, .queuePrivateHint 1 ⟨101, starterCount⟩ ⟨502, 101, 102⟩ 72 11 12⟩

/-- After the script the token of the sold flower is gone and the wallet is accepted. -/
def acceptsAfterBurn (wallet : Pubkey) (reached : JournaledHolders) : Bool :=
  (gardenStep reached.system (asksAfterBurn wallet)).isOk
    && reached.system.mints.lookup ⟨101, starterCount⟩ == some 0

/-- The buyer used the flower before the burn, so it is accepted as the last holder. -/
theorem recordedBurn_accepted
    : ∃ reached after,
        Run burning (fun before submission => BurnsOnRecord before.system submission)
          ⟨sampleProgram, fun _ => none⟩ (soldScript ++ [buyerAsks, buyerBurns]) reached
        ∧ gardenStep reached.system (asksAfterBurn 102) = .ok after
        ∧ SignsForToken reached.system reached.journal ⟨101, starterCount⟩ 102 := by
  have replayed : (replay burning (fun before submission => BurnsOnRecord before.system submission)
      ⟨sampleProgram, fun _ => none⟩ (soldScript ++ [buyerAsks, buyerBurns])).any
        (acceptsAfterBurn 102) := by
    decide +kernel
  obtain ⟨reached, run, checked⟩ := Run.of_replay_any replayed
  obtain ⟨accepted, burned⟩ := Bool.and_eq_true_iff.mp checked
  obtain ⟨after, success⟩ := exists_of_isOk accepted
  exact ⟨reached, after, run, success, accepted_owners_hold sampleProgram_fresh run success
    List.mem_cons_self (Option.isSome_of_eq_some (eq_of_beq burned))⟩

/-- The buyer burned before any use, so the seller is accepted again. -/
theorem unrecordedBurn_revives
    : ¬ ∀ start : ProgramState, start.Fresh
        → ∀ (history : List GardenSubmission) (reached : JournaledHolders),
          Run burning anyAction ⟨start, fun _ => none⟩ history reached
          → ∀ (submission : GardenSubmission) (after : ProgramState),
          gardenStep reached.system submission = .ok after
          → ∀ flowerKey accounts, (flowerKey, accounts) ∈ submission.instruction.uses
          → (reached.system.mints.lookup flowerKey).isSome
          → SignsForToken reached.system reached.journal flowerKey submission.signer := by
  intro always
  have replayed : (replay burning anyAction ⟨sampleProgram, fun _ => none⟩
      (soldScript ++ [buyerBurns])).any fun reached =>
        acceptsAfterBurn 101 reached
          && reached.journal ⟨101, starterCount⟩ == some 102 := by
    decide +kernel
  obtain ⟨reached, run, checked⟩ := Run.of_replay_any replayed
  obtain ⟨revived, last⟩ := Bool.and_eq_true_iff.mp checked
  obtain ⟨accepted, burned⟩ := Bool.and_eq_true_iff.mp revived
  obtain ⟨after, success⟩ := exists_of_isOk accepted
  have gone : reached.system.mints.lookup ⟨101, starterCount⟩ = some 0 := eq_of_beq burned
  have signs := always _ sampleProgram_fresh _ _ run _ _ success _ _ List.mem_cons_self
    (Option.isSome_of_eq_some gone)
  rcases signs with ⟨address, token, _, holds⟩ | ⟨_, held⟩
  · have held := (holds address token).mpr ⟨rfl, rfl⟩
    have minted := (circulation_of_run sampleProgram_fresh run.forget).minted held
    cases gone.symm.trans minted
  · cases held.symm.trans (eq_of_beq last)

end SecretGarden.Garden
