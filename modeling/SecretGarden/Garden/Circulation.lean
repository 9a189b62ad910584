import SecretGarden.Garden.Inversion

/-! What one accepted instruction does to mints and token accounts, whichever it is, and the
invariant that follows: while a mint has supply exactly one account holds its token, and no
account holds a token of any other mint.
-/

namespace SecretGarden.Garden

open Foundation SecretGarden.Bracket SecretGarden.Settlement SecretGarden.Season

variable {env : Env} {state after : ProgramState} {mints : Store FlowerKey Nat}
  {tokens : Store Pubkey FlowerToken}

/-- The account holds the token of the flower. -/
structure Holding (tokens : Store Pubkey FlowerToken) (flowerKey : FlowerKey)
    (address : Pubkey) (token : FlowerToken) : Prop where
  found : tokens.lookup address = some token
  mint : token.mint = flowerKey
  amount : token.amount = 1

/-- The flower's token is in circulation. -/
def Live (state : ProgramState) (flowerKey : FlowerKey) : Prop :=
  ∃ supply, state.mints.lookup flowerKey = some (supply + 1)

/-- A mint has at most one token, and an account that holds anything holds just that. -/
structure Circulation (mints : Store FlowerKey Nat) (tokens : Store Pubkey FlowerToken)
    : Prop where
  supply : ∀ {flowerKey supply}, mints.lookup flowerKey = some supply → supply ≤ 1
  held : ∀ {flowerKey},
    mints.lookup flowerKey = some 1 → ∃ address token, Holding tokens flowerKey address token
  backed : ∀ {address token},
    tokens.lookup address = some token
    → token.amount ≠ 0
    → token.amount = 1 ∧ mints.lookup token.mint = some 1
  unique : ∀ {flowerKey first second token other},
    Holding tokens flowerKey first token
    → Holding tokens flowerKey second other
    → first = second

theorem Circulation.empty : Circulation ∅ ∅ where
  supply found := by cases found
  held minted := by cases minted
  backed found := by cases found
  unique held := by cases held.found

/-- A flower's token is held only while its mint has supply. -/
theorem Circulation.minted (circulation : Circulation mints tokens) {flowerKey : FlowerKey}
    {address : Pubkey} {token : FlowerToken} (held : Holding tokens flowerKey address token)
    : mints.lookup flowerKey = some 1 := by
  have backed := circulation.backed held.found (by simp [held.amount])
  rw [← held.mint]
  exact backed.2

/-- Another account of the mint is empty. -/
theorem Circulation.empty_of_ne (circulation : Circulation mints tokens) {flowerKey : FlowerKey}
    {address other : Pubkey} {token empty : FlowerToken}
    (held : Holding tokens flowerKey address token) (found : tokens.lookup other = some empty)
    (mint : empty.mint = flowerKey) (apart : other ≠ address)
    : empty.amount = 0 := by
  by_contra nonzero
  have one := (circulation.backed found nonzero).1
  exact apart (circulation.unique ⟨found, mint, one⟩ held)

/-- A mint whose supply is not zero has supply one. -/
theorem Circulation.live (circulation : Circulation mints tokens) {flowerKey : FlowerKey}
    {supply : Nat} (minted : mints.lookup flowerKey = some (supply + 1))
    : mints.lookup flowerKey = some 1 := by
  have bounded := circulation.supply minted
  obtain rfl : supply = 0 := by omega
  exact minted

/-- An account before a write at another address. -/
theorem Holding.insert {flowerKey : FlowerKey} {address written : Pubkey}
    {token other : FlowerToken} (held : Holding tokens flowerKey address token)
    (apart : address ≠ written)
    : Holding (tokens.insert written other) flowerKey address token :=
  ⟨(AList.lookup_insert_ne apart).trans held.found, held.mint, held.amount⟩

/-- What holds a token after a write is what was written, or held it before elsewhere. -/
theorem Holding.of_insert {flowerKey : FlowerKey} {address written : Pubkey}
    {token other : FlowerToken}
    (held : Holding (tokens.insert written other) flowerKey address token)
    : address = written ∧ token = other
      ∨ address ≠ written ∧ Holding tokens flowerKey address token := by
  have found := held.found
  rcases Store.lookup_insert_eq_some.mp found with ⟨here, rfl⟩ | ⟨apart, found⟩
  · exact .inl ⟨here, rfl⟩
  · exact .inr ⟨apart, found, held.mint, held.amount⟩

/-- What holds a token after a removal held it before, elsewhere. -/
theorem Holding.of_erase {flowerKey : FlowerKey} {address removed : Pubkey}
    {token : FlowerToken} (held : Holding (tokens.erase removed) flowerKey address token)
    : address ≠ removed ∧ Holding tokens flowerKey address token := by
  have found := held.found
  obtain ⟨apart, found⟩ := Store.lookup_erase_eq_some.mp found
  exact ⟨apart, found, held.mint, held.amount⟩

/-- An account is written that keeps its mint and its amount. -/
theorem Circulation.rewrite (circulation : Circulation mints tokens) {address : Pubkey}
    {token : FlowerToken} (written : FlowerToken) (found : tokens.lookup address = some token)
    (mint : written.mint = token.mint) (amount : written.amount = token.amount)
    : Circulation mints (tokens.insert address written) where
  supply := circulation.supply
  held minted := by
    obtain ⟨holder, other, held⟩ := circulation.held minted
    by_cases here : holder = address
    · subst here
      cases found.symm.trans held.found
      exact ⟨holder, written, AList.lookup_insert _, mint.trans held.mint,
        amount.trans held.amount⟩
    · exact ⟨holder, other, held.insert here⟩
  backed lookup nonzero := by
    rcases Store.lookup_insert_eq_some.mp lookup with ⟨_, rfl⟩ | ⟨_, lookup⟩
    · rw [mint, amount] at *
      exact circulation.backed found nonzero
    · exact circulation.backed lookup nonzero
  unique {flowerKey first second kept other} held also := by
    -- Before the write the account was a holder just as it is after it.
    have before {holder : Pubkey} {current : FlowerToken}
        (held : Holding (tokens.insert address written) flowerKey holder current)
        : ∃ old, Holding tokens flowerKey holder old := by
      rcases held.of_insert with ⟨rfl, rfl⟩ | ⟨_, old⟩
      · exact ⟨token, found, mint.symm.trans held.mint, amount.symm.trans held.amount⟩
      · exact ⟨current, old⟩
    obtain ⟨_, one⟩ := before held
    obtain ⟨_, two⟩ := before also
    exact circulation.unique one two

/-- An empty account appears. -/
theorem Circulation.open (circulation : Circulation mints tokens) {address : Pubkey}
    {token : FlowerToken} (unused : tokens.lookup address = none) (empty : token.amount = 0)
    : Circulation mints (tokens.insert address token) where
  supply := circulation.supply
  held minted := by
    obtain ⟨holder, other, held⟩ := circulation.held minted
    refine ⟨holder, other, held.insert ?_⟩
    rintro rfl
    cases unused.symm.trans held.found
  backed lookup nonzero := by
    rcases Store.lookup_insert_eq_some.mp lookup with ⟨_, rfl⟩ | ⟨_, lookup⟩
    · exact absurd empty nonzero
    · exact circulation.backed lookup nonzero
  unique held also := by
    have before {flowerKey : FlowerKey} {holder : Pubkey} {current : FlowerToken}
        (held : Holding (tokens.insert address token) flowerKey holder current)
        : Holding tokens flowerKey holder current := by
      rcases held.of_insert with ⟨_, rfl⟩ | ⟨_, old⟩
      · cases empty.symm.trans held.amount
      · exact old
    exact circulation.unique (before held) (before also)

/-- An empty account disappears. -/
theorem Circulation.close (circulation : Circulation mints tokens) {address : Pubkey}
    {token : FlowerToken} (found : tokens.lookup address = some token) (empty : token.amount = 0)
    : Circulation mints (tokens.erase address) where
  supply := circulation.supply
  held minted := by
    obtain ⟨holder, other, held⟩ := circulation.held minted
    refine ⟨holder, other, ?_, held.mint, held.amount⟩
    refine (AList.lookup_erase_ne ?_).trans held.found
    rintro rfl
    cases found.symm.trans held.found
    cases empty.symm.trans held.amount
  backed lookup nonzero := by
    obtain ⟨_, lookup⟩ := Store.lookup_erase_eq_some.mp lookup
    exact circulation.backed lookup nonzero
  unique held also := circulation.unique held.of_erase.2 also.of_erase.2

/-- A flower gets its mint, and an account that holds the token. -/
theorem Circulation.mint (circulation : Circulation mints tokens) {flowerKey : FlowerKey}
    {address : Pubkey} {token : FlowerToken} (unminted : mints.lookup flowerKey = none)
    (unused : tokens.lookup address = none) (mint : token.mint = flowerKey)
    (amount : token.amount = 1)
    : Circulation (mints.insert flowerKey 1) (tokens.insert address token) where
  supply found := by
    rcases Store.lookup_insert_eq_some.mp found with ⟨_, rfl⟩ | ⟨_, found⟩
    · exact le_rfl
    · exact circulation.supply found
  held minted := by
    rcases Store.lookup_insert_eq_some.mp minted with ⟨here, _⟩ | ⟨_, minted⟩
    · exact ⟨address, token, AList.lookup_insert _, mint.trans here.symm, amount⟩
    · obtain ⟨holder, other, held⟩ := circulation.held minted
      refine ⟨holder, other, held.insert ?_⟩
      rintro rfl
      cases unused.symm.trans held.found
  backed {holder other} lookup nonzero := by
    rcases Store.lookup_insert_eq_some.mp lookup with ⟨_, rfl⟩ | ⟨_, lookup⟩
    · rw [mint]
      exact ⟨amount, AList.lookup_insert _⟩
    · obtain ⟨one, minted⟩ := circulation.backed lookup nonzero
      refine ⟨one, (AList.lookup_insert_ne ?_).trans minted⟩
      rintro rfl
      cases unminted.symm.trans minted
  unique {otherKey first second kept other} held also := by
    -- Nobody held a token of the flower before.
    have before {holder : Pubkey} {current : FlowerToken}
        (held : Holding (tokens.insert address token) otherKey holder current)
        : (holder = address ∧ otherKey = flowerKey)
          ∨ otherKey ≠ flowerKey ∧ Holding tokens otherKey holder current := by
      rcases held.of_insert with ⟨rfl, rfl⟩ | ⟨_, old⟩
      · exact .inl ⟨rfl, held.mint.symm.trans mint⟩
      · refine .inr ⟨?_, old⟩
        rintro rfl
        cases unminted.symm.trans (circulation.minted old)
    rcases before held with ⟨rfl, here⟩ | ⟨apart, one⟩
    · rcases before also with ⟨same, _⟩ | ⟨apart, _⟩
      · exact same.symm
      · exact absurd here apart
    · rcases before also with ⟨_, here⟩ | ⟨_, two⟩
      · exact absurd here apart
      · exact circulation.unique one two

/-- A token is burned with its account. -/
theorem Circulation.burn (circulation : Circulation mints tokens) {flowerKey : FlowerKey}
    {address : Pubkey} {token : FlowerToken} (held : Holding tokens flowerKey address token)
    : Circulation (mints.insert flowerKey 0) (tokens.erase address) where
  supply found := by
    rcases Store.lookup_insert_eq_some.mp found with ⟨_, rfl⟩ | ⟨_, found⟩
    · exact Nat.zero_le 1
    · exact circulation.supply found
  held {otherKey} minted := by
    rcases Store.lookup_insert_eq_some.mp minted with ⟨_, ⟨⟩⟩ | ⟨apart, minted⟩
    obtain ⟨holder, other, lookup, mint, amount⟩ := circulation.held minted
    refine ⟨holder, other, (AList.lookup_erase_ne ?_).trans lookup, mint, amount⟩
    rintro rfl
    cases held.found.symm.trans lookup
    exact apart (mint.symm.trans held.mint)
  backed {holder other} lookup nonzero := by
    obtain ⟨apart, lookup⟩ := Store.lookup_erase_eq_some.mp lookup
    obtain ⟨one, minted⟩ := circulation.backed lookup nonzero
    refine ⟨one, (AList.lookup_insert_ne ?_).trans minted⟩
    rintro same
    exact nonzero (circulation.empty_of_ne held lookup same apart)
  unique held also := circulation.unique held.of_erase.2 also.of_erase.2

/-- A token moves to another account of its mint, which was empty. -/
theorem Circulation.transfer (circulation : Circulation mints tokens)
    {source destination : Pubkey} {sender receiver : FlowerToken}
    (sends : tokens.lookup source = some sender)
    (receives : tokens.lookup destination = some receiver)
    (apart : source ≠ destination) (same : sender.mint = receiver.mint)
    (covered : 1 ≤ sender.amount)
    : Circulation mints
        ((tokens.insert source { sender with amount := sender.amount - 1 }).insert
          destination { receiver with amount := receiver.amount + 1 }) := by
  obtain ⟨one, minted⟩ := circulation.backed sends (by omega)
  have sending : Holding tokens sender.mint source sender := ⟨sends, rfl, one⟩
  have empty := circulation.empty_of_ne sending receives same.symm (Ne.symm apart)
  -- The only holder of the mint after the transfer is its destination.
  have moved {flowerKey : FlowerKey} {holder : Pubkey} {token : FlowerToken}
      (held : Holding ((tokens.insert source { sender with amount := sender.amount - 1 }).insert
        destination { receiver with amount := receiver.amount + 1 }) flowerKey holder token)
      : holder = destination ∧ flowerKey = sender.mint
        ∨ flowerKey ≠ sender.mint ∧ Holding tokens flowerKey holder token := by
    rcases held.of_insert with ⟨here, rfl⟩ | ⟨_, before⟩
    · exact .inl ⟨here, held.mint.symm.trans same.symm⟩
    · rcases before.of_insert with ⟨rfl, rfl⟩ | ⟨notSource, old⟩
      · have left := before.amount
        simp [one] at left
      · refine .inr ⟨?_, old⟩
        rintro rfl
        exact notSource (circulation.unique old sending)
  constructor
  · exact circulation.supply
  · intro flowerKey supplied
    by_cases here : flowerKey = sender.mint
    · subst here
      exact ⟨destination, _, AList.lookup_insert _, same.symm, by simp [empty]⟩
    · obtain ⟨holder, token, held⟩ := circulation.held supplied
      refine ⟨holder, token, Holding.insert (held.insert ?_) ?_⟩
      · rintro rfl
        cases sends.symm.trans held.found
        exact here held.mint.symm
      · rintro rfl
        cases receives.symm.trans held.found
        exact here (held.mint.symm.trans same.symm)
  · intro holder token lookup nonzero
    rcases Store.lookup_insert_eq_some.mp lookup with ⟨_, rfl⟩ | ⟨_, lookup⟩
    · exact ⟨by simp [empty], same ▸ minted⟩
    · rcases Store.lookup_insert_eq_some.mp lookup with ⟨_, rfl⟩ | ⟨_, lookup⟩
      · simp [one] at nonzero
      · exact circulation.backed lookup nonzero
  · intro flowerKey first second token other held also
    rcases moved held with ⟨rfl, here⟩ | ⟨elsewhere, one⟩
    · rcases moved also with ⟨same, _⟩ | ⟨elsewhere, _⟩
      · exact same.symm
      · exact absurd here elsewhere
    · rcases moved also with ⟨_, here⟩ | ⟨_, two⟩
      · exact absurd here elsewhere
      · exact circulation.unique one two

--------------------------------------------------------------------------------
-- The lock
--------------------------------------------------------------------------------

/-- Only the program can move or unlock the account. -/
structure ProgramLocked (token : FlowerToken) : Prop where
  frozen : token.frozen
  delegate : token.delegate = some .mintAuthority

/-- The result of a freeze: there was no token, it was frozen already, or the program locked it
for the same holder.
-/
inductive Froze (state : ProgramState) (flowerKey : FlowerKey) (address : Pubkey)
    (tokens : Store Pubkey FlowerToken) : Store Pubkey FlowerToken → Prop
  | unminted (dead : ∀ supply, state.mints.lookup flowerKey ≠ some (supply + 1))
    : Froze state flowerKey address tokens tokens
  | already {token : FlowerToken} (held : Holding tokens flowerKey address token)
    (frozen : token.frozen)
    : Froze state flowerKey address tokens tokens
  | locked {token written : FlowerToken} (held : Holding tokens flowerKey address token)
    (free : token.frozen = false)
    (mint : written.mint = token.mint)
    (amount : written.amount = token.amount)
    (owner : written.owner = token.owner)
    (lock : ProgramLocked written)
    : Froze state flowerKey address tokens (tokens.insert address written)

theorem freezeFlowerIfMinted_success {owner : Pubkey} {flowerKey : FlowerKey} {address : Pubkey}
    {frozen : Store Pubkey FlowerToken}
    (success : freezeFlowerIfMinted state owner flowerKey address tokens = .ok frozen)
    : Froze state flowerKey address tokens frozen := by
  unfold freezeFlowerIfMinted at success
  split at success
  · next unminted =>
      cases pure_eq_ok.mp success
      exact .unminted (by simp [unminted])
  · next burned =>
      cases pure_eq_ok.mp success
      exact .unminted (by simp [burned])
  · simp only [bind_eq_ok, fetch_eq_ok, require_eq_ok, exists_const] at success
    obtain ⟨token, found, mint, amount, rest⟩ := success
    have held : Holding tokens flowerKey address token := ⟨found, mint, amount⟩
    split at rest
    · next locked =>
        cases pure_eq_ok.mp rest
        exact .already held locked
    · next free =>
        rw [Bool.not_eq_true] at free
        split at rest
        · next delegated =>
            cases pure_eq_ok.mp rest
            exact .locked held free rfl rfl rfl ⟨rfl, delegated.1⟩
        · simp only [bind_eq_ok, require_eq_ok, exists_const, pure_eq_ok] at rest
          obtain ⟨_, rfl⟩ := rest
          exact .locked held free rfl rfl rfl ⟨rfl, rfl⟩

/-- A freeze leaves every frozen account as it is. -/
theorem Froze.lookup_of_frozen {flowerKey : FlowerKey} {address other : Pubkey}
    {frozen : Store Pubkey FlowerToken} {token : FlowerToken}
    (froze : Froze state flowerKey address tokens frozen)
    (found : tokens.lookup other = some token) (locked : token.frozen)
    : frozen.lookup other = some token := by
  cases froze with
  | unminted => exact found
  | already => exact found
  | locked held free =>
      refine (AList.lookup_insert_ne ?_).trans found
      rintro rfl
      cases held.found.symm.trans found
      rw [locked] at free
      cases free

/-- Accounts of other flowers are not touched by a freeze. -/
theorem Froze.holding_of_ne {flowerKey otherKey : FlowerKey} {address holder : Pubkey}
    {frozen : Store Pubkey FlowerToken} {token : FlowerToken}
    (froze : Froze state flowerKey address tokens frozen) (apart : otherKey ≠ flowerKey)
    : Holding frozen otherKey holder token ↔ Holding tokens otherKey holder token := by
  cases froze with
  | unminted => exact Iff.rfl
  | already => exact Iff.rfl
  | locked held free mint =>
      constructor
      · intro kept
        rcases kept.of_insert with ⟨rfl, rfl⟩ | ⟨_, old⟩
        · exact absurd (kept.mint.symm.trans (mint.trans held.mint)) apart
        · exact old
      · intro old
        refine old.insert ?_
        rintro rfl
        cases held.found.symm.trans old.found
        exact apart (old.mint.symm.trans held.mint)

theorem Circulation.freeze (circulation : Circulation mints tokens) {flowerKey : FlowerKey}
    {address : Pubkey} {frozen : Store Pubkey FlowerToken}
    (froze : Froze state flowerKey address tokens frozen)
    : Circulation mints frozen := by
  cases froze with
  | unminted => exact circulation
  | already => exact circulation
  | locked held free mint amount => exact circulation.rewrite _ held.found mint amount

/-- The account whose token an instruction burns. -/
def GardenInstruction.burns : GardenInstruction → Option Pubkey
  | .burnFlowerNft _ tokenAccount => some tokenAccount
  | .token (.burn address) => some address
  | _ => none

/-- What became of mints and tokens. -/
inductive TokenChange (submission : GardenSubmission) (state after : ProgramState) : Prop
  | kept
    (mints : after.mints = state.mints)
    (tokens : after.tokens = state.tokens)
    (quiet : submission.instruction.burns = none)
  | bred {flowerA flowerB : FlowerKey} {syncA syncB : SyncAccounts} {computationOffset : Nat}
    {frozen : Store Pubkey FlowerToken}
    (asked : submission.instruction
      = .startBreeding flowerA flowerB syncA syncB computationOffset)
    (apart : flowerA ≠ flowerB)
    (frozenA : Froze state flowerA syncA.token state.tokens frozen)
    (frozenB : Froze state flowerB syncB.token frozen after.tokens)
    (mints : after.mints = state.mints)
  | entered {roundKey : RoundKey} {entryKey playerSgdAta : Pubkey} {flowerKey : FlowerKey}
    {accounts : SyncAccounts}
    (asked : submission.instruction
      = .submitEntry roundKey entryKey flowerKey playerSgdAta accounts)
    (frozen : Froze state flowerKey accounts.token state.tokens after.tokens)
    (mints : after.mints = state.mints)
  | minted {flowerKey : FlowerKey} {flower : FlowerRecord} {address : Pubkey}
    {token : FlowerToken}
    (quiet : submission.instruction.burns = none)
    (present : state.flowers.lookup flowerKey = some flower)
    (active : flower.status = .active)
    (unminted : state.mints.lookup flowerKey = none)
    (unused : state.tokens.lookup address = none)
    (mint : token.mint = flowerKey)
    (amount : token.amount = 1)
    (mints : after.mints = state.mints.insert flowerKey 1)
    (tokens : after.tokens = state.tokens.insert address token)
  | burned {address : Pubkey} {token : FlowerToken}
    (asked : submission.instruction.burns = some address)
    (held : Holding state.tokens token.mint address token)
    (free : token.frozen = false)
    (mints : after.mints = state.mints.insert token.mint 0)
    (tokens : after.tokens = state.tokens.erase address)
  | thawed {flowerKey : FlowerKey} {flower : FlowerRecord} {address : Pubkey}
    {token : FlowerToken}
    (quiet : submission.instruction.burns = none)
    (present : state.flowers.lookup flowerKey = some flower)
    (active : flower.status = .active)
    (held : Holding state.tokens flowerKey address token)
    (mints : after.mints = state.mints)
    (tokens : after.tokens = state.tokens.insert address { token with frozen := false })
  | opened {address : Pubkey} {token : FlowerToken}
    (quiet : submission.instruction.burns = none)
    (unused : state.tokens.lookup address = none)
    (empty : token.amount = 0)
    (mints : after.mints = state.mints)
    (tokens : after.tokens = state.tokens.insert address token)
  | transferred {source destination : Pubkey} {sender receiver : FlowerToken}
    (asked : submission.instruction = .token (.transfer source destination))
    (sends : state.tokens.lookup source = some sender)
    (receives : state.tokens.lookup destination = some receiver)
    (apart : source ≠ destination)
    (same : sender.mint = receiver.mint)
    (covered : 1 ≤ sender.amount)
    (free : sender.frozen = false ∧ receiver.frozen = false)
    (mints : after.mints = state.mints)
    (tokens : after.tokens
      = (state.tokens.insert source { sender with amount := sender.amount - 1 }).insert
          destination { receiver with amount := receiver.amount + 1 })
  | rewritten {address : Pubkey} {token written : FlowerToken}
    (quiet : submission.instruction.burns = none)
    (found : state.tokens.lookup address = some token)
    (loose : ¬ ProgramLocked token)
    (mint : written.mint = token.mint)
    (amount : written.amount = token.amount)
    (mints : after.mints = state.mints)
    (tokens : after.tokens = state.tokens.insert address written)
  | closed {address : Pubkey} {token : FlowerToken}
    (quiet : submission.instruction.burns = none)
    (found : state.tokens.lookup address = some token)
    (empty : token.amount = 0)
    (mints : after.mints = state.mints)
    (tokens : after.tokens = state.tokens.erase address)

theorem unfrozenToken_eq_ok {address : Pubkey} {token : FlowerToken}
    : unfrozenToken state address = .ok token
      ↔ state.tokens.lookup address = some token ∧ token.frozen = false := by
  simp only [unfrozenToken, bind_eq_ok, fetch_eq_ok, require_eq_ok, exists_const, pure_eq_ok]
  constructor
  · rintro ⟨_, found, free, rfl⟩
    exact ⟨found, free⟩
  · rintro ⟨found, free⟩
    exact ⟨token, found, free, rfl⟩

/-- An account that is not frozen is not locked. -/
theorem not_programLocked {token : FlowerToken} (free : token.frozen = false)
    : ¬ ProgramLocked token := by
  intro locked
  have frozen := locked.frozen
  rw [free] at frozen
  cases frozen

/-- Holders and delegates change tokens, by cases on what they do. -/
theorem tokenChange_of_event {submission : GardenSubmission} {event : TokenEvent}
    (asked : submission.instruction = .token event) (success : event.happen state = .ok after)
    : TokenChange submission state after := by
  cases event with
  | createAccount address owner mint =>
      simp only [TokenEvent.happen, bind_eq_ok, require_eq_ok, exists_const, pure_eq_ok,
        Option.isNone_iff_eq_none] at success
      obtain ⟨_, unused, rfl⟩ := success
      refine .opened (by rw [asked]; rfl) unused ?_ rfl rfl
      rfl
  | transfer source destination =>
      simp only [TokenEvent.happen, bind_eq_ok, require_eq_ok, exists_const, pure_eq_ok,
        unfrozenToken_eq_ok] at success
      obtain ⟨sender, ⟨sends, free⟩, receiver, ⟨receives, ready⟩, ⟨apart, same⟩, covered, rfl⟩ :=
        success
      exact .transferred asked sends receives apart same covered ⟨free, ready⟩ rfl rfl
  | setOwner address owner =>
      simp only [TokenEvent.happen, bind_eq_ok, pure_eq_ok, unfrozenToken_eq_ok] at success
      obtain ⟨token, ⟨found, free⟩, rfl⟩ := success
      refine .rewritten (by rw [asked]; rfl) found (not_programLocked free) ?_ ?_ rfl rfl <;> rfl
  | approve address delegate =>
      simp only [TokenEvent.happen, bind_eq_ok, pure_eq_ok, unfrozenToken_eq_ok] at success
      obtain ⟨token, ⟨found, free⟩, rfl⟩ := success
      refine .rewritten (by rw [asked]; rfl) found (not_programLocked free) ?_ ?_ rfl rfl <;> rfl
  | setFrozen address frozen =>
      simp only [TokenEvent.happen, bind_eq_ok, fetch_eq_ok, require_eq_ok, exists_const,
        pure_eq_ok] at success
      obtain ⟨token, found, ⟨_, foreign⟩, _, rfl⟩ := success
      refine .rewritten (by rw [asked]; rfl) found (fun locked => foreign locked.delegate) ?_ ?_
        rfl rfl <;> rfl
  | burn address =>
      simp only [TokenEvent.happen, bind_eq_ok, require_eq_ok, exists_const, pure_eq_ok,
        unfrozenToken_eq_ok] at success
      obtain ⟨token, ⟨found, free⟩, amount, _, rfl⟩ := success
      exact .burned (by rw [asked]; rfl) ⟨found, rfl, amount⟩ free rfl rfl
  | closeAccount address =>
      simp only [TokenEvent.happen, bind_eq_ok, fetch_eq_ok, require_eq_ok, exists_const,
        pure_eq_ok] at success
      obtain ⟨token, found, empty, rfl⟩ := success
      exact .closed (by rw [asked]; rfl) found empty rfl rfl

/-- An accepted entry locks the token of its flower. -/
theorem submitEntry_tokens {roundKey : RoundKey} {entryKey playerSgdAta : Pubkey}
    {flowerKey : FlowerKey} {accounts : SyncAccounts}
    (success
      : submitEntry env roundKey entryKey flowerKey playerSgdAta accounts state = .ok after)
    : Froze state flowerKey accounts.token state.tokens after.tokens
      ∧ after.mints = state.mints := by
  simp only [submitEntry, bind_eq_ok, pure_eq_ok, Prod.exists] at success
  obtain ⟨_, _, _, _, _, _, _, _, _, _, moved, tokens, frozen, rfl⟩ := success
  obtain ⟨_, _, _, _, rfl⟩ := onRound_success moved
  exact ⟨freezeFlowerIfMinted_success frozen, rfl⟩

/-- An accepted mint puts the token into a new account. -/
theorem mintFlowerNft_tokens {flowerKey : FlowerKey} {tokenAccount : Pubkey} {uri : String}
    (success : mintFlowerNft env flowerKey tokenAccount uri state = .ok after)
    : ∃ token,
        state.tokens.lookup tokenAccount = none
        ∧ token.mint = flowerKey
        ∧ token.amount = 1
        ∧ after.tokens = state.tokens.insert tokenAccount token := by
  simp only [mintFlowerNft, bind_eq_ok, require_eq_ok, exists_const, pure_eq_ok,
    Option.isNone_iff_eq_none] at success
  obtain ⟨_, _, _, _, _, _, _, _, _, unused, _, rfl⟩ := success
  exact ⟨_, unused, rfl, rfl, rfl⟩

/-- An accepted burn takes the owner's token out of circulation. -/
theorem burnFlowerNft_tokens {flowerKey : FlowerKey} {tokenAccount : Pubkey}
    (success : burnFlowerNft env flowerKey tokenAccount state = .ok after)
    : ∃ flower token,
        state.flowers.lookup flowerKey = some flower
        ∧ Holding state.tokens flowerKey tokenAccount token
        ∧ token.owner = flower.owner
        ∧ token.frozen = false
        ∧ after.mints = state.mints.insert flowerKey 0
        ∧ after.tokens = state.tokens.erase tokenAccount := by
  simp only [burnFlowerNft, bind_eq_ok, fetch_eq_ok, require_eq_ok, exists_const, pure_eq_ok]
    at success
  obtain ⟨_, _, flower, present, owned, _, _, _, _, token, found, ⟨mint, owner⟩, amount, free,
    rfl⟩ := success
  exact ⟨flower, token, present, ⟨found, mint, amount⟩, owner.trans owned.symm, free, rfl, rfl⟩

/-- An accepted thaw unlocks the token of an active flower. -/
theorem thawFlowerNft_tokens {flowerKey : FlowerKey} {accounts : SyncAccounts}
    (success : thawFlowerNft env flowerKey accounts state = .ok after)
    : ∃ token,
        Holding state.tokens flowerKey accounts.token token
        ∧ after.mints = state.mints
        ∧ after.tokens = state.tokens.insert accounts.token { token with frozen := false } := by
  simp only [thawFlowerNft, bind_eq_ok, fetch_eq_ok, require_eq_ok, exists_const, pure_eq_ok,
    Prod.exists] at success
  obtain ⟨_, _, _, _, token, found, mint, amount, _, _, _, _, _, rfl⟩ := success
  exact ⟨token, ⟨found, mint, amount⟩, rfl, rfl⟩

/-- Every accepted instruction is one of these changes. -/
theorem gardenStep_tokenChange {submission : GardenSubmission}
    (success : gardenStep state submission = .ok after)
    : TokenChange submission state after := by
  obtain ⟨signer, slot, now, instruction⟩ := submission
  cases instruction with
  | createProfile =>
      obtain ⟨_, rfl⟩ := createProfile_success success
      exact .kept rfl rfl rfl
  | claimStarters =>
      obtain ⟨_, _, _, _, rfl⟩ := claimStarters_success success
      exact .kept rfl rfl rfl
  | startBreeding flowerA flowerB syncA syncB computationOffset =>
      cases startBreeding_success success with
      | queued _ apart _ _ _ _ _ _ _ _ _ _ _ _ _ _ _ _ _ _ _ frozenA frozenB =>
          exact .bred rfl apart (freezeFlowerIfMinted_success frozenA)
            (freezeFlowerIfMinted_success frozenB) rfl
  | breedV5Callback experimentKey output =>
      obtain ⟨_, _, delivered⟩ := breedV5Callback_success success
      cases delivered with
      | ignored => exact .kept rfl rfl rfl
      | completed => exact .kept rfl rfl rfl
      | failed => exact .kept rfl rfl rfl
  | cancelExpiredExperiment experimentKey =>
      obtain ⟨_, _, _, rfl⟩ := cancelExpiredExperiment_success success
      exact .kept rfl rfl rfl
  | reclaimDeadOffspring experimentKey offspringKey ownerRecipient =>
      obtain ⟨_, _, _, _, _, _, _, _, rfl⟩ := reclaimDeadOffspring_success success
      exact .kept rfl rfl rfl
  | closeFlower flowerKey =>
      obtain ⟨_, _, _, _, _, _, _, _, rfl⟩ := closeFlower_success success
      exact .kept rfl rfl rfl
  | submitEntry roundKey entryKey flowerKey playerSgdAta accounts =>
      obtain ⟨frozen, mints⟩ := submitEntry_tokens success
      exact .entered rfl frozen mints
  | releaseFlower roundKey entryKey flowerKey accounts =>
      obtain ⟨_, _, _, _, _, _, same⟩ := releaseFlower_success success
      exact .kept (by rw [same]) (by rw [same]) rfl
  | queueScoreEntry roundKey computationOffset entryKey flowerKey =>
      obtain ⟨_, _, _, _, _, rfl⟩ := queueScoreEntry_success success
      exact .kept rfl rfl rfl
  | queuePrivateHint roundKey flowerKey accounts computationOffset hintPubkey hintNonce =>
      obtain ⟨_, _, _, _, _, _, _, _, _, _, rfl⟩ := queuePrivateHint_success success
      exact .kept rfl rfl rfl
  | privateHintCallback computationOffset output =>
      have same := privateHintCallback_success success
      exact .kept (by rw [same]) (by rw [same]) rfl
  | setMintingEnabled enabled =>
      obtain ⟨_, _, written⟩ := bind_eq_ok.mp success
      obtain rfl := pure_eq_ok.mp written
      exact .kept rfl rfl rfl
  | mintFlowerNft flowerKey tokenAccount uri =>
      obtain ⟨flower, present, _, active, _, unminted, same⟩ := mintFlowerNft_success success
      obtain ⟨token, unused, mint, amount, tokens⟩ := mintFlowerNft_tokens success
      exact .minted rfl present active unminted unused mint amount (by rw [same]) tokens
  | burnFlowerNft flowerKey tokenAccount =>
      obtain ⟨flower, token, _, held, _, free, mints, tokens⟩ := burnFlowerNft_tokens success
      obtain rfl := held.mint
      exact .burned rfl held free mints tokens
  | thawFlowerNft flowerKey accounts =>
      obtain ⟨record, _, _, used, active, _, _⟩ := thawFlowerNft_success success
      obtain ⟨token, held, mints, tokens⟩ := thawFlowerNft_tokens success
      exact .thawed rfl used.found active held mints tokens
  | token event => exact tokenChange_of_event rfl success
  | season instruction =>
      simp only [gardenStep, bind_eq_ok, require_eq_ok, exists_const, pure_eq_ok] at success
      obtain ⟨_, deployment, _, rfl⟩ := success
      exact .kept rfl rfl rfl

--------------------------------------------------------------------------------
-- Runs
--------------------------------------------------------------------------------

/-- Every change keeps the invariant, by cases on the change. -/
theorem Circulation.step (circulation : Circulation state.mints state.tokens)
    {submission : GardenSubmission} (change : TokenChange submission state after)
    : Circulation after.mints after.tokens := by
  cases change with
  | kept mints tokens => rwa [mints, tokens]
  | bred _ _ frozenA frozenB mints =>
      rw [mints]
      exact (circulation.freeze frozenA).freeze frozenB
  | entered _ frozen mints =>
      rw [mints]
      exact circulation.freeze frozen
  | minted _ _ _ unminted unused mint amount mints tokens =>
      rw [mints, tokens]
      exact circulation.mint unminted unused mint amount
  | burned _ held _ mints tokens =>
      rw [mints, tokens]
      exact circulation.burn held
  | thawed _ _ _ held mints tokens =>
      rw [mints, tokens]
      exact circulation.rewrite _ held.found rfl rfl
  | opened _ unused empty mints tokens =>
      rw [mints, tokens]
      exact circulation.open unused empty
  | transferred _ sends receives apart same covered _ mints tokens =>
      rw [mints, tokens]
      exact circulation.transfer sends receives apart same covered
  | rewritten _ found _ mint amount mints tokens =>
      rw [mints, tokens]
      exact circulation.rewrite _ found mint amount
  | closed _ found empty mints tokens =>
      rw [mints, tokens]
      exact circulation.close found empty

/-- Every run keeps the invariant, by its steps. -/
theorem Circulation.of_run {condition : ProgramState → GardenSubmission → Prop}
    {start : ProgramState} (circulation : Circulation start.mints start.tokens)
    {history : List GardenSubmission} (run : Run gardenStep condition start history state)
    : Circulation state.mints state.tokens := by
  refine run.invariant ?_
    fun before _ success => Circulation.step before (gardenStep_tokenChange success)
  exact circulation

/-- In every reachable state each flower token in circulation has one holder. -/
theorem circulation_of_run {condition : ProgramState → GardenSubmission → Prop}
    {start : ProgramState} {history : List GardenSubmission} (fresh : start.Fresh)
    (run : Run gardenStep condition start history state)
    : Circulation state.mints state.tokens := by
  refine Circulation.of_run ?_ run
  rw [fresh.mints, fresh.tokens]
  exact .empty

/-- A token in circulation was there before, or its flower was active and is minted now. -/
theorem TokenChange.live_of_step {submission : GardenSubmission}
    (change : TokenChange submission state after) {flowerKey : FlowerKey}
    (live : after.mints.lookup flowerKey = some 1)
    : state.mints.lookup flowerKey = some 1
      ∨ ∃ flower, state.flowers.lookup flowerKey = some flower ∧ flower.status = .active := by
  have same (mints : after.mints = state.mints) : state.mints.lookup flowerKey = some 1 := by
    rwa [mints] at live
  cases change with
  | @minted _ flower _ _ _ present active _ _ _ _ mints _ =>
      rw [mints] at live
      rcases Store.lookup_insert_eq_some.mp live with ⟨here, _⟩ | ⟨_, live⟩
      · exact .inr ⟨flower, here ▸ present, active⟩
      · exact .inl live
  | burned _ _ _ mints _ =>
      rw [mints] at live
      rcases Store.lookup_insert_eq_some.mp live with ⟨_, ⟨⟩⟩ | ⟨_, live⟩
      exact .inl live
  | kept mints | bred _ _ _ _ mints | entered _ _ mints | thawed _ _ _ _ mints
  | opened _ _ _ mints | transferred _ _ _ _ _ _ _ mints | rewritten _ _ _ _ _ mints
  | closed _ _ _ mints => exact .inl (same mints)

/-- A supply that is zero was zero before, or the token is burned now. -/
theorem TokenChange.burned_of_step {submission : GardenSubmission}
    (change : TokenChange submission state after) {flowerKey : FlowerKey}
    (burned : after.mints.lookup flowerKey = some 0)
    : state.mints.lookup flowerKey = some 0
      ∨ ∃ address token,
          submission.instruction.burns = some address
          ∧ Holding state.tokens flowerKey address token := by
  have same (mints : after.mints = state.mints) : state.mints.lookup flowerKey = some 0 := by
    rwa [mints] at burned
  cases change with
  | minted _ _ _ _ _ _ _ mints _ =>
      rw [mints] at burned
      rcases Store.lookup_insert_eq_some.mp burned with ⟨_, ⟨⟩⟩ | ⟨_, burned⟩
      exact .inl burned
  | @burned address token asked held _ mints _ =>
      rw [mints] at burned
      rcases Store.lookup_insert_eq_some.mp burned with ⟨here, _⟩ | ⟨_, burned⟩
      · exact .inr ⟨address, token, asked, here ▸ held⟩
      · exact .inl burned
  | kept mints | bred _ _ _ _ mints | entered _ _ mints | thawed _ _ _ _ mints
  | opened _ _ _ mints | transferred _ _ _ _ _ _ _ mints | rewritten _ _ _ _ _ mints
  | closed _ _ _ mints => exact .inl (same mints)

/-- The account that a burn names holds a token whose mint has supply. -/
theorem TokenChange.burns_holding {submission : GardenSubmission}
    (change : TokenChange submission state after) {address : Pubkey}
    (burns : submission.instruction.burns = some address)
    : ∃ token, Holding state.tokens token.mint address token := by
  cases change with
  | @burned _ token asked held =>
      cases asked.symm.trans burns
      exact ⟨token, held⟩
  | bred asked => rw [asked] at burns; cases burns
  | entered asked => rw [asked] at burns; cases burns
  | transferred asked => rw [asked] at burns; cases burns
  | kept _ _ quiet | minted quiet | thawed quiet | opened quiet | rewritten quiet
  | closed quiet => cases quiet.symm.trans burns

end SecretGarden.Garden
