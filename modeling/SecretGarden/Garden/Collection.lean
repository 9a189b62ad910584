import SecretGarden.Garden.Experiments

/-! A profile counts the flowers of its wallet: the starters, once claimed, and every bred flower
whose recorded owner the wallet is. The count is kept as long as starters are claimed before any
bred flower is held, and as long as nothing writes a profile back over a synchronization.
-/

namespace SecretGarden.Garden

open Foundation SecretGarden.Bracket SecretGarden.Settlement SecretGarden.Season

variable {flowers : Store FlowerKey FlowerRecord} {profiles : Store Pubkey PlayerProfile}
  {env : Env} {state after : ProgramState}

/-- A bred flower that the wallet is on record for. -/
def FlowerRecord.countsFor (wallet : Pubkey) (flower : FlowerRecord) : Bool :=
  flower.owner == wallet && flower.isHybrid

/-- The bred flowers a wallet is on record for. -/
def hybridsOf (flowers : Store FlowerKey FlowerRecord) (wallet : Pubkey) : List FlowerKey :=
  flowers.keysWhere (FlowerRecord.countsFor wallet)

/-- Every counter reads what its wallet owns, and every owner has a counter. -/
structure Counted (flowers : Store FlowerKey FlowerRecord)
    (profiles : Store Pubkey PlayerProfile) : Prop where
  exact : ∀ {wallet profile},
    profiles.lookup wallet = some profile
    → profile.totalFlowers
      = (if profile.starterClaimed then starterCount else 0) + (hybridsOf flowers wallet).length
  owners : ∀ {flowerKey flower},
    flowers.lookup flowerKey = some flower → (profiles.lookup flower.owner).isSome

theorem countsFor_owner {flower : FlowerRecord} (hybrid : flower.isHybrid)
    : FlowerRecord.countsFor flower.owner flower := by
  simp [FlowerRecord.countsFor, hybrid]

theorem not_countsFor {flower : FlowerRecord} {wallet : Pubkey} (other : wallet ≠ flower.owner)
    : FlowerRecord.countsFor wallet flower = false := by
  simp [FlowerRecord.countsFor, other.symm]

/-- Writing a flower replaces what it counted for. -/
theorem length_hybridsOf_insert {flowerKey : FlowerKey} {record : FlowerRecord}
    (found : flowers.lookup flowerKey = some record) (wallet : Pubkey) (flower : FlowerRecord)
    : (hybridsOf (flowers.insert flowerKey flower) wallet).length
        + (FlowerRecord.countsFor wallet record).toNat
      = (hybridsOf flowers wallet).length + (FlowerRecord.countsFor wallet flower).toNat := by
  have replaced :=
    flowers.length_keysWhere_insert (FlowerRecord.countsFor wallet) flowerKey flower
  rwa [found] at replaced

/-- A new flower counts for its owner only. -/
theorem length_hybridsOf_new {flowerKey : FlowerKey} (unused : flowers.lookup flowerKey = none)
    (wallet : Pubkey) (flower : FlowerRecord)
    : (hybridsOf (flowers.insert flowerKey flower) wallet).length
      = (hybridsOf flowers wallet).length + (FlowerRecord.countsFor wallet flower).toNat := by
  have added :=
    flowers.length_keysWhere_insert (FlowerRecord.countsFor wallet) flowerKey flower
  rwa [unused] at added

/-- A removed flower counted for its owner only. -/
theorem length_hybridsOf_erase {flowerKey : FlowerKey} {record : FlowerRecord}
    (found : flowers.lookup flowerKey = some record) (wallet : Pubkey)
    : (hybridsOf (flowers.erase flowerKey) wallet).length
        + (FlowerRecord.countsFor wallet record).toNat
      = (hybridsOf flowers wallet).length := by
  have removed := flowers.length_keysWhere_erase (FlowerRecord.countsFor wallet) flowerKey
  rwa [found] at removed

theorem Counted.empty : Counted ∅ ∅ where
  exact found := by cases found
  owners found := by cases found

/-- A flower that keeps its owner and its kind. -/
theorem Counted.rewrite (counted : Counted flowers profiles) {flowerKey : FlowerKey}
    {record : FlowerRecord} (flower : FlowerRecord)
    (found : flowers.lookup flowerKey = some record) (same : SameFlower record flower)
    (owner : flower.owner = record.owner)
    : Counted (flowers.insert flowerKey flower) profiles where
  exact {wallet profile} lookup := by
    have unchanged
        : FlowerRecord.countsFor wallet flower = FlowerRecord.countsFor wallet record := by
      simp only [FlowerRecord.countsFor, FlowerRecord.isHybrid, owner, same.genomeStatus]
    have replaced := length_hybridsOf_insert found wallet flower
    rw [unchanged] at replaced
    rw [counted.exact lookup, Nat.add_right_cancel replaced]
  owners lookup := by
    rcases Store.lookup_insert_eq_some.mp lookup with ⟨_, rfl⟩ | ⟨_, lookup⟩
    · rw [owner]
      exact counted.owners found
    · exact counted.owners lookup

/-- A profile that keeps its counter. -/
theorem Counted.profile (counted : Counted flowers profiles) {wallet : Pubkey}
    {profile written : PlayerProfile} (player : profiles.lookup wallet = some profile)
    (total : written.totalFlowers = profile.totalFlowers)
    (claimed : written.starterClaimed = profile.starterClaimed)
    : Counted flowers (profiles.insert wallet written) where
  exact {other counter} lookup := by
    rcases Store.lookup_insert_eq_some.mp lookup with ⟨here, rfl⟩ | ⟨_, lookup⟩
    · rw [here, total, claimed]
      exact counted.exact player
    · exact counted.exact lookup
  owners lookup := Store.isSome_lookup_insert (counted.owners lookup)

/-- A bred flower changes hands, and one unit with it. -/
theorem Counted.transfer (counted : Counted flowers profiles) {flowerKey : FlowerKey}
    {record : FlowerRecord} {sold bought : PlayerProfile} (flower : FlowerRecord)
    (found : flowers.lookup flowerKey = some record) (same : SameFlower record flower)
    (hybrid : record.isHybrid) (moved : flower.owner ≠ record.owner)
    (seller : profiles.lookup record.owner = some sold)
    (buyer : profiles.lookup flower.owner = some bought)
    (unsaturated : bought.totalFlowers < u16Max)
    : Counted (flowers.insert flowerKey flower)
        ((profiles.insert record.owner
            { sold with totalFlowers := sold.totalFlowers - 1 }).insert flower.owner
          { bought with totalFlowers := min u16Max (bought.totalFlowers + 1) }) where
  exact {wallet profile} lookup := by
    have replaced := length_hybridsOf_insert found wallet flower
    rcases Store.lookup_insert_eq_some.mp lookup with ⟨here, rfl⟩ | ⟨notBuyer, lookup⟩
    · subst here
      have kept : flower.isHybrid := by rwa [FlowerRecord.isHybrid, same.genomeStatus]
      rw [not_countsFor moved, countsFor_owner kept, Bool.toNat_false, Bool.toNat_true]
        at replaced
      have before := counted.exact buyer
      simp only [Nat.min_eq_right (Nat.succ_le_of_lt unsaturated)]
      omega
    · rw [not_countsFor notBuyer, Bool.toNat_false] at replaced
      rcases Store.lookup_insert_eq_some.mp lookup with ⟨here, rfl⟩ | ⟨notSeller, lookup⟩
      · subst here
        rw [countsFor_owner hybrid, Bool.toNat_true] at replaced
        have before := counted.exact seller
        simp only
        omega
      · rw [not_countsFor notSeller, Bool.toNat_false] at replaced
        rw [counted.exact lookup]
        omega
  owners {otherKey other} lookup := by
    rcases Store.lookup_insert_eq_some.mp lookup with ⟨_, rfl⟩ | ⟨_, lookup⟩
    · exact Option.isSome_of_eq_some (AList.lookup_insert _)
    · exact Store.isSome_lookup_insert (Store.isSome_lookup_insert (counted.owners lookup))

/-- A bred flower is added to its owner's count. -/
theorem Counted.add (counted : Counted flowers profiles) {flowerKey : FlowerKey}
    {profile written : PlayerProfile} (flower : FlowerRecord)
    (unused : flowers.lookup flowerKey = none) (hybrid : flower.isHybrid)
    (player : profiles.lookup flower.owner = some profile)
    (total : written.totalFlowers = profile.totalFlowers + 1)
    (claimed : written.starterClaimed = profile.starterClaimed)
    : Counted (flowers.insert flowerKey flower) (profiles.insert flower.owner written) where
  exact {wallet counter} lookup := by
    have added := length_hybridsOf_new unused wallet flower
    rcases Store.lookup_insert_eq_some.mp lookup with ⟨here, rfl⟩ | ⟨other, lookup⟩
    · subst here
      rw [countsFor_owner hybrid, Bool.toNat_true] at added
      have before := counted.exact player
      rw [total, claimed]
      omega
    · rw [not_countsFor other, Bool.toNat_false] at added
      rw [counted.exact lookup]
      omega
  owners {otherKey other} lookup := by
    rcases Store.lookup_insert_eq_some.mp lookup with ⟨_, rfl⟩ | ⟨_, lookup⟩
    · exact Option.isSome_of_eq_some (AList.lookup_insert _)
    · exact Store.isSome_lookup_insert (counted.owners lookup)

/-- A bred flower is taken out of its owner's count. -/
theorem Counted.remove (counted : Counted flowers profiles) {flowerKey : FlowerKey}
    {record : FlowerRecord} {profile : PlayerProfile}
    (found : flowers.lookup flowerKey = some record) (hybrid : record.isHybrid)
    (player : profiles.lookup record.owner = some profile)
    : Counted (flowers.erase flowerKey)
        (profiles.insert record.owner
          { profile with totalFlowers := profile.totalFlowers - 1 }) where
  exact {wallet counter} lookup := by
    have removed := length_hybridsOf_erase found wallet
    rcases Store.lookup_insert_eq_some.mp lookup with ⟨here, rfl⟩ | ⟨other, lookup⟩
    · subst here
      rw [countsFor_owner hybrid, Bool.toNat_true] at removed
      have before := counted.exact player
      simp only
      omega
    · rw [not_countsFor other, Bool.toNat_false] at removed
      rw [counted.exact lookup]
      omega
  owners {otherKey other} lookup := by
    obtain ⟨_, lookup⟩ := Store.lookup_erase_eq_some.mp lookup
    exact Store.isSome_lookup_insert (counted.owners lookup)

end SecretGarden.Garden
