import Mathlib.Data.List.FinRange
import SecretGarden.Constants

/-! The top-three circuit: sixteen masked slots, one comparison for each unordered pair,
ranks by summation, and a second layer that reads off places one to three.
-/

namespace SecretGarden.Circuit

/-- The inputs of one computation, slot by slot. -/
structure RevealInput where
  raw : Fin 16 → Nat
  participantCount : Nat
  rar : Fin 16 → Nat

/-- The revealed slots and scores of places one to three. -/
structure RevealOutput where
  slot1 : Nat
  score1 : Nat
  slot2 : Nat
  score2 : Nat
  slot3 : Nat
  score3 : Nat
deriving DecidableEq

def RevealOutput.slots (output : RevealOutput) : List Nat :=
  [output.slot1, output.slot2, output.slot3]

variable (input : RevealInput)

/-- Scores with the inactive slots masked to zero. -/
def maskedScore (i : Fin 16) : Nat :=
  if i < input.participantCount then input.raw i else 0

/-- The composite key: the score dominates, the rarity of an active slot breaks ties. -/
def rankingKey (i : Fin 16) : Nat :=
  maskedScore input i * 8 + if i < input.participantCount then input.rar i else 0

/-- The comparison made for an unordered pair `a < b`. -/
def strictGreater (a b : Fin 16) : Nat :=
  if rankingKey input b > rankingKey input a then 1 else 0

/-- How many slots beat slot `i`: each pair's one bit serves both directions. -/
def rank (i : Fin 16) : Nat :=
  ((List.finRange 16).map fun j =>
    if j < i then 1 - strictGreater input j i
    else if i < j then strictGreater input i j
    else 0).sum

/-- The slot and score of a place: the last slot with that rank. -/
def placed (place : Nat) : Nat × Nat :=
  (List.finRange 16).foldl
    (fun found i => if rank input i = place then (i.val, maskedScore input i) else found) (0, 0)

def revealTop3V5 : RevealOutput :=
  { slot1 := (placed input 0).1, score1 := (placed input 0).2
    slot2 := (placed input 1).1, score2 := (placed input 1).2
    slot3 := (placed input 2).1, score3 := (placed input 2).2 }

end SecretGarden.Circuit
