import SecretGarden.Accounts
import SecretGarden.AutoCycle.Agreement
import SecretGarden.AutoCycle.Attempts
import SecretGarden.AutoCycle.Backlog
import SecretGarden.AutoCycle.Completion
import SecretGarden.AutoCycle.Cycle
import SecretGarden.AutoCycle.Driver
import SecretGarden.AutoCycle.Endgame
import SecretGarden.AutoCycle.Exclusion
import SecretGarden.AutoCycle.Gathering
import SecretGarden.AutoCycle.Histories
import SecretGarden.AutoCycle.Lock
import SecretGarden.AutoCycle.Moves
import SecretGarden.AutoCycle.Payouts
import SecretGarden.AutoCycle.Planner
import SecretGarden.AutoCycle.Planning
import SecretGarden.AutoCycle.Recovery
import SecretGarden.AutoCycle.Refunder
import SecretGarden.AutoCycle.Refunding
import SecretGarden.AutoCycle.Resuming
import SecretGarden.AutoCycle.Resumption
import SecretGarden.AutoCycle.RevealStage
import SecretGarden.AutoCycle.Revealing
import SecretGarden.AutoCycle.Runs
import SecretGarden.AutoCycle.ScoreStage
import SecretGarden.AutoCycle.ScoreState
import SecretGarden.AutoCycle.Scripted
import SecretGarden.AutoCycle.Seasons
import SecretGarden.AutoCycle.Stages
import SecretGarden.AutoCycle.TakingOver
import SecretGarden.AutoCycle.Tiers
import SecretGarden.AutoCycle.Turnover
import SecretGarden.AutoCycle.Vaults
import SecretGarden.AutoCycle.Waiting
import SecretGarden.Bracket.Coverage
import SecretGarden.Bracket.Distinct
import SecretGarden.Bracket.Driving
import SecretGarden.Bracket.Entrants
import SecretGarden.Bracket.Exactness
import SecretGarden.Bracket.Freshness
import SecretGarden.Bracket.Insertion
import SecretGarden.Bracket.Inversion
import SecretGarden.Bracket.Ledger
import SecretGarden.Bracket.Machine
import SecretGarden.Bracket.Marks
import SecretGarden.Bracket.Placement
import SecretGarden.Bracket.Quotas
import SecretGarden.Bracket.Reading
import SecretGarden.Bracket.Recording
import SecretGarden.Bracket.Reranking
import SecretGarden.Bracket.Selection
import SecretGarden.Bracket.SingleTier
import SecretGarden.Bracket.Slices
import SecretGarden.Bracket.Standings
import SecretGarden.Bracket.TwoTier
import SecretGarden.Bracket.Upkeep
import SecretGarden.Bracket.WellFormed
import SecretGarden.Circuit.AllPairs
import SecretGarden.Circuit.Breeding
import SecretGarden.Circuit.Inheritance
import SecretGarden.Circuit.Podium
import SecretGarden.Circuit.Rarity
import SecretGarden.Circuit.RevealTop3
import SecretGarden.Circuit.Scoring
import SecretGarden.Constants
import SecretGarden.Error
import SecretGarden.Foundation.Bits
import SecretGarden.Foundation.Growth
import SecretGarden.Foundation.Layout
import SecretGarden.Foundation.Outcome
import SecretGarden.Foundation.Payout
import SecretGarden.Foundation.Positional
import SecretGarden.Foundation.Sha256
import SecretGarden.Foundation.Shuffle
import SecretGarden.Foundation.Slots
import SecretGarden.Foundation.Store
import SecretGarden.Foundation.TopSelection
import SecretGarden.Foundation.Transition
import SecretGarden.Foundation.Width
import SecretGarden.Garden.Accounting
import SecretGarden.Garden.Addresses
import SecretGarden.Garden.Breeding
import SecretGarden.Garden.Budgets
import SecretGarden.Garden.Changes
import SecretGarden.Garden.Circulation
import SecretGarden.Garden.Collection
import SecretGarden.Garden.Competition
import SecretGarden.Garden.Cooldown
import SecretGarden.Garden.Corrections
import SecretGarden.Garden.Departures
import SecretGarden.Garden.Experiments
import SecretGarden.Garden.Genomes
import SecretGarden.Garden.Hints
import SecretGarden.Garden.Holders
import SecretGarden.Garden.Inversion
import SecretGarden.Garden.Locks
import SecretGarden.Garden.Machine
import SecretGarden.Garden.Merits
import SecretGarden.Garden.Nursery
import SecretGarden.Garden.Offspring
import SecretGarden.Garden.Ownership
import SecretGarden.Garden.Resting
import SecretGarden.Garden.Rounds
import SecretGarden.Garden.Submissions
import SecretGarden.Garden.TokenLocks
import SecretGarden.Garden.Upgrading
import SecretGarden.Migration.Machine
import SecretGarden.Migration.Preservation
import SecretGarden.Season.Administration
import SecretGarden.Season.Champions
import SecretGarden.Season.Changes
import SecretGarden.Season.Funding
import SecretGarden.Season.Lifecycle
import SecretGarden.Season.Machine
import SecretGarden.Season.Mint
import SecretGarden.Settlement.Acceptance
import SecretGarden.Settlement.Balances
import SecretGarden.Settlement.Champions
import SecretGarden.Settlement.Changes
import SecretGarden.Settlement.Conducted
import SecretGarden.Settlement.Crowned
import SecretGarden.Settlement.Exclusivity
import SecretGarden.Settlement.Frames
import SecretGarden.Settlement.History
import SecretGarden.Settlement.Inversion
import SecretGarden.Settlement.Ledger
import SecretGarden.Settlement.Lifecycle
import SecretGarden.Settlement.Machine
import SecretGarden.Settlement.Phases
import SecretGarden.Settlement.Plans
import SecretGarden.Settlement.Pledges
import SecretGarden.Settlement.Pot
import SecretGarden.Settlement.Ranked
import SecretGarden.Settlement.Refunds
import SecretGarden.Settlement.Schedule
import SecretGarden.Settlement.Scoring
import SecretGarden.Settlement.Targets
