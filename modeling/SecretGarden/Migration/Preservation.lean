import Mathlib.Data.Nat.Pairing
import SecretGarden.Migration.Machine

/-! Migrations keep what an account held: they append initial values behind it, once.
The exception is a configuration that already had its weighting, which is reset.
-/

namespace SecretGarden.Migration

open Foundation

-----------------------------------------------------------------------------------------
-- The law of a migration
-----------------------------------------------------------------------------------------

/-- The byte that gives a flower's rarity. -/
def rarityOf (flower : RawAccount) : Byte := flower.data.getD flowerRarityOffset 0

/-- What a migration appends: zeros, but for the weighting and the snapshot of the rarity. -/
def MigrationInstruction.initial : MigrationInstruction → Nat → Byte
  | .config =>
      Function.update (fun _ => 0) gameConfigMutantWeightOffset
        (BitVec.ofNat 8 mutantWeightUniform)
  | .entry _ _ _ submitted =>
      Function.update (fun _ => 0) (competitionEntryLayout.newLen - 1) (rarityOf submitted)
  | _ => fun _ => 0

/-- A migration leaves an account of the current length alone and makes a shorter one grow
by the initial values; the rarity of an entry is that of the flower it names.
-/
structure Preserves (instruction : MigrationInstruction) (before after : RawAccount)
    : Prop where
  kept : instruction.layout.newLen ≤ before.data.length → after = before
  grown
    : before.data.length < instruction.layout.newLen
      → GrewTo instruction.layout.newLen instruction.initial before.data after.data
  named
    : ∀ config round player flower,
        instruction = .entry config round player flower
        → before.data.length < instruction.layout.newLen
        → flower.key = pubkeyAt entryFlowerOffset before.data

/-- Migrating an account of this length again, by whomever and with whatever content,
changes nothing.
-/
def Settled (runtime : Runtime) (layout : RecordLayout) (length : Nat) : Prop :=
  ∀ signer (again : MigrationInstruction) before after,
    again.layout = layout
    → before.account.data.length = length
    → migrate runtime signer again before = .ok after
    → after = before

/-- The configuration has a weighting, other than the uniform one, but lacks later fields. -/
def ResetsWeight (instruction : MigrationInstruction) (before : RawAccount) : Prop :=
  instruction.layout = gameConfigLayout
  ∧ gameConfigMutantWeightOffset < before.data.length
  ∧ before.data.length < gameConfigLayout.newLen
  ∧ before.data[gameConfigMutantWeightOffset]? ≠ some (BitVec.ofNat 8 mutantWeightUniform)

-----------------------------------------------------------------------------------------
-- What an accepted migration did
-----------------------------------------------------------------------------------------

/-- The checks a migration makes whatever the length of its account. -/
def guards (runtime : Runtime) (signer : Pubkey) (state : MigrationState)
    : MigrationInstruction → Outcome Unit
  | .config => do
      requireDerived runtime .config state.account
      require (40 ≤ state.account.data.length) .notAuthority
      require (pubkeyAt 8 state.account.data = signer) .notAuthority
  | .profile => requireDerived runtime (.profile signer) state.account
  | .flower flowerIndex => requireDerived runtime (.flower signer flowerIndex) state.account
  | .operatorFlower config owner flowerIndex => do
      requireDerived runtime (.flower owner flowerIndex) state.account
      require (isOperatorOrAuthority config signer) .notAuthority
  | .entry config round player _ => do
      requireDerived runtime (.entry round player) state.account
      require (isOperatorOrAuthority config signer) .notAuthority

/-- What a migration does to an account that is too short. -/
def extend (runtime : Runtime) (state : MigrationState)
    : MigrationInstruction → Outcome MigrationState
  | .config => do
      let grown ← grow runtime gameConfigLayout.newLen state
      pure { grown with account :=
        grown.account.write gameConfigMutantWeightOffset (BitVec.ofNat 8 mutantWeightUniform) }
  | .profile => grow runtime playerProfileLayout.newLen state
  | .flower _ => grow runtime flowerRecordLayout.newLen state
  | .operatorFlower _ _ _ => grow runtime flowerRecordLayout.newLen state
  | .entry _ _ _ flower => do
      require (entryFlowerOffset + 32 ≤ state.account.data.length) .wrongEntryCount
      require (state.account.data.take 8 = discriminator "CompetitionEntry") .wrongEntryCount
      let rarity ← readFlowerRarity runtime flower (pubkeyAt entryFlowerOffset state.account.data)
      let grown ← grow runtime competitionEntryLayout.newLen state
      pure { grown with account :=
        grown.account.write (competitionEntryLayout.newLen - 1) rarity }

variable {runtime : Runtime} {signer : Pubkey} {instruction : MigrationInstruction}
  {before after : MigrationState}

theorem grow_eq_ok {newLen : Nat}
    : grow runtime newLen before = .ok after
      ↔ runtime.minimumBalance newLen - before.account.lamports ≤ before.payer
        ∧ { payer := before.payer - (runtime.minimumBalance newLen - before.account.lamports)
            account := { before.account with
              lamports := before.account.lamports
                + (runtime.minimumBalance newLen - before.account.lamports)
              data := resize 0 newLen before.account.data } } = after := by
  simp only [grow, bind_eq_ok, require_eq_ok, exists_const, pure_eq_ok]

/-- A growth of a shorter account appends zeros. -/
theorem grow_grewTo {newLen : Nat} (shorter : before.account.data.length < newLen)
    (success : grow runtime newLen before = .ok after)
    : GrewTo newLen (fun _ => 0) before.account.data after.account.data := by
  obtain ⟨_, rfl⟩ := grow_eq_ok.mp success
  exact resize_grewTo shorter.le

theorem readFlowerRarity_eq_ok {info : RawAccount} {expected : Pubkey} {rarity : Byte}
    (success : readFlowerRarity runtime info expected = .ok rarity)
    : info.key = expected ∧ rarity = rarityOf info := by
  simp only [readFlowerRarity, bind_eq_ok, require_eq_ok, fetch_eq_ok, exists_const] at success
  obtain ⟨named, _, _, _, found⟩ := success
  refine ⟨named, ?_⟩
  rw [rarityOf, List.getD_eq_getElem?_getD, found, Option.getD_some]

/-- All migrations have one shape: checks, then nothing or an extension. -/
theorem migrate_eq
    : migrate runtime signer instruction before
      = (do
          guards runtime signer before instruction
          if instruction.layout.newLen ≤ before.account.data.length then pure before
          else extend runtime before instruction) := by
  cases instruction with
  | config =>
      simp only [migrate, migrateConfig, guards, bind_assoc]
      rfl
  | profile => rfl
  | flower => rfl
  | operatorFlower => simp only [migrate, operatorMigrateFlower, guards, bind_assoc]; rfl
  | entry => simp only [migrate, migrateEntry, guards, bind_assoc]; rfl

/-- An account of the current length is left alone. -/
theorem migrate_kept (success : migrate runtime signer instruction before = .ok after)
    (long : instruction.layout.newLen ≤ before.account.data.length)
    : after = before := by
  rw [migrate_eq, if_pos long] at success
  obtain ⟨_, _, done⟩ := bind_eq_ok.mp success
  exact (pure_eq_ok.mp done).symm

/-- A shorter account is extended. -/
theorem migrate_extended (success : migrate runtime signer instruction before = .ok after)
    (shorter : before.account.data.length < instruction.layout.newLen)
    : extend runtime before instruction = .ok after := by
  rw [migrate_eq, if_neg (not_le.mpr shorter)] at success
  obtain ⟨_, _, extended⟩ := bind_eq_ok.mp success
  exact extended

/-- The weighting is written whether or not the account held one already. -/
theorem extend_config_iff (shorter : before.account.data.length < gameConfigLayout.newLen)
    (success : extend runtime before .config = .ok after)
    : GrewTo gameConfigLayout.newLen (MigrationInstruction.initial .config)
        before.account.data after.account.data
      ↔ gameConfigMutantWeightOffset < before.account.data.length
        → before.account.data[gameConfigMutantWeightOffset]?
          = some (BitVec.ofNat 8 mutantWeightUniform) := by
  obtain ⟨grown, grew, done⟩ := bind_eq_ok.mp success
  cases pure_eq_ok.mp done
  exact (grow_grewTo shorter grew).set_iff (by decide)

/-- The rarity is written behind everything the entry held, from the flower it names. -/
theorem extend_entry {config : GameConfig} {round player : Pubkey} {flower : RawAccount}
    (shorter : before.account.data.length < competitionEntryLayout.newLen)
    (success : extend runtime before (.entry config round player flower) = .ok after)
    : GrewTo competitionEntryLayout.newLen
        (MigrationInstruction.initial (.entry config round player flower))
        before.account.data after.account.data
      ∧ flower.key = pubkeyAt entryFlowerOffset before.account.data := by
  simp only [extend, bind_eq_ok, require_eq_ok, exists_const, pure_eq_ok] at success
  obtain ⟨_, _, rarity, read, grown, grew, rfl⟩ := success
  obtain ⟨named, rfl⟩ := readFlowerRarity_eq_ok read
  refine ⟨(GrewTo.set_iff (grow_grewTo shorter grew) ?_).mpr ?_, named⟩
  · exact Nat.sub_lt (Nat.zero_lt_of_lt shorter) Nat.one_pos
  · intro present
    exact absurd present (Nat.not_lt.mpr (Nat.le_sub_one_of_lt shorter))

/-- Only the configuration has the configuration's layout. -/
theorem layouts_differ
    : playerProfileLayout ≠ gameConfigLayout
      ∧ flowerRecordLayout ≠ gameConfigLayout
      ∧ competitionEntryLayout ≠ gameConfigLayout := by
  decide

/-- An extension is a growth by the initial values unless it resets a weighting. -/
theorem extend_grewTo_iff (shorter : before.account.data.length < instruction.layout.newLen)
    (success : extend runtime before instruction = .ok after)
    : GrewTo instruction.layout.newLen instruction.initial before.account.data
        after.account.data
      ↔ ¬ ResetsWeight instruction before.account := by
  cases instruction with
  | config =>
      rw [MigrationInstruction.layout, extend_config_iff shorter success, ResetsWeight]
      constructor
      · rintro held ⟨_, present, _, other⟩
        exact other (held present)
      · intro keeps present
        by_contra other
        exact keeps ⟨rfl, present, shorter, other⟩
  | profile =>
      exact iff_of_true (grow_grewTo shorter success) fun resets => layouts_differ.1 resets.1
  | flower =>
      exact iff_of_true (grow_grewTo shorter success) fun resets => layouts_differ.2.1 resets.1
  | operatorFlower =>
      exact iff_of_true (grow_grewTo shorter success) fun resets => layouts_differ.2.1 resets.1
  | entry =>
      exact iff_of_true (extend_entry shorter success).1 fun resets =>
        layouts_differ.2.2 resets.1

/-- An extension makes the account exactly as long as its layout. -/
theorem length_extend (shorter : before.account.data.length < instruction.layout.newLen)
    (success : extend runtime before instruction = .ok after)
    : after.account.data.length = instruction.layout.newLen := by
  cases instruction with
  | config =>
      obtain ⟨grown, grew, done⟩ := bind_eq_ok.mp success
      cases pure_eq_ok.mp done
      rw [RawAccount.write, List.length_set]
      exact (grow_grewTo shorter grew).length
  | profile => exact (grow_grewTo shorter success).length
  | flower => exact (grow_grewTo shorter success).length
  | operatorFlower => exact (grow_grewTo shorter success).length
  | entry => exact (extend_entry shorter success).1.length

-----------------------------------------------------------------------------------------
-- Migrations preserve what accounts held
-----------------------------------------------------------------------------------------

/-- Accounts of the current length are settled. -/
theorem settled_of_newLen_le {layout : RecordLayout} {length : Nat}
    (long : layout.newLen ≤ length) : Settled runtime layout length := by
  rintro signer again before after rfl rfl success
  exact migrate_kept success long

/-- An accepted migration preserves what the account held, appends the initial values and
leaves nothing for another one to do, exactly when it does not reset a weighting.
-/
theorem migration_preserves_iff
    (success : migrate runtime signer instruction before = .ok after)
    : Preserves instruction before.account after.account
        ∧ Settled runtime instruction.layout after.account.data.length
      ↔ ¬ ResetsWeight instruction before.account := by
  rcases Nat.lt_or_ge before.account.data.length instruction.layout.newLen with shorter | long
  · have extended := migrate_extended success shorter
    rw [← extend_grewTo_iff shorter extended]
    constructor
    · exact fun lawful => lawful.1.grown shorter
    · intro grew
      refine ⟨⟨fun long => absurd shorter (not_lt.mpr long), fun _ => grew, ?_⟩, ?_⟩
      · rintro config round player flower rfl _
        exact (extend_entry shorter extended).2
      · exact settled_of_newLen_le (length_extend shorter extended).ge
  · have kept := migrate_kept success long
    subst kept
    refine iff_of_true ⟨⟨fun _ => rfl, ?_, ?_⟩, settled_of_newLen_le long⟩ ?_
    · exact fun shorter => absurd shorter (not_lt.mpr long)
    · exact fun _ _ _ _ _ shorter => absurd shorter (not_lt.mpr long)
    · rintro ⟨same, _, shorter, _⟩
      rw [← same] at shorter
      exact absurd shorter (not_lt.mpr long)

/-- Rent at the going rate, and one address for each kind of account. -/
def sampleRuntime : Runtime :=
  { programId := 1
    findAddress := fun seeds =>
      match seeds with
      | .config => 2
      | .profile owner => 4 * owner + 3
      | .flower owner flowerIndex => 4 * Nat.pair owner flowerIndex + 4
      | .entry round player => 4 * Nat.pair round player + 5
    minimumBalance := fun length => (128 + length) * 6960 }

/-- The configuration of authority 7, cut to a length, with a weighting of ten if it is long
enough to hold one.
-/
def earlierConfig (length : Nat) : RawAccount :=
  { key := 2
    owner := 1
    lamports := (128 + length) * 6960
    data := (List.replicate 39 0 ++ [7] ++ List.replicate 109 0 ++ [10]
      ++ List.replicate 72 0).take length }

/-- A configuration from before the weighting gets the uniform one. -/
theorem firstWeighting_preserved
    : ∃ after,
        migrate sampleRuntime 7 .config ⟨1000000, earlierConfig 149⟩ = .ok after
        ∧ Preserves .config (earlierConfig 149) after.account
        ∧ after.account.data[149]? = some 255 := by
  have migrated : (migrate sampleRuntime 7 .config ⟨1000000, earlierConfig 149⟩).isOk := by
    decide +kernel
  obtain ⟨after, success⟩ := exists_of_isOk migrated
  have preserves := ((migration_preserves_iff success).mpr (by
    rintro ⟨_, present, _⟩
    exact absurd present (by decide +kernel))).1
  have weighed :=
    (preserves.grown (by decide +kernel)).appended 149 (by decide +kernel) (by decide +kernel)
  exact ⟨after, success, preserves, weighed⟩

/-- A configuration from between the weighting and the entry-fee mint loses its weighting. -/
theorem tunedWeighting_reset
    : ∃ after,
        migrate sampleRuntime 7 .config ⟨1000000, earlierConfig 158⟩ = .ok after
        ∧ (earlierConfig 158).data[149]? = some 10
        ∧ after.account.data[149]? = some 255
        ∧ ¬ Preserves .config (earlierConfig 158) after.account := by
  have migrated : (migrate sampleRuntime 7 .config ⟨1000000, earlierConfig 158⟩).isOk
      ∧ (migrate sampleRuntime 7 .config ⟨1000000, earlierConfig 158⟩).toOption.any
          (fun after => after.account.data[149]? == some 255) := by
    decide +kernel
  obtain ⟨after, success⟩ := exists_of_isOk migrated.1
  have written := migrated.2
  rw [success] at written
  have weighed : after.account.data[149]? = some 255 := beq_iff_eq.mp written
  refine ⟨after, success, by decide +kernel, weighed, fun preserves => ?_⟩
  obtain ⟨rest, whole⟩ := (preserves.grown (by decide +kernel)).unchanged
  rw [← whole, List.getElem?_append_left (by decide +kernel)] at weighed
  exact absurd weighed (by decide +kernel)

end SecretGarden.Migration
