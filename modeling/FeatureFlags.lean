import FeatureFlags.Attribute
import FeatureFlags.Bandit.Basic
import FeatureFlags.Bandit.Cache
import FeatureFlags.Bandit.Service
import FeatureFlags.Bucketing
import FeatureFlags.Condition.AttributeTest
import FeatureFlags.Condition.Encoding
import FeatureFlags.Condition.Match
import FeatureFlags.Condition.Tree
import FeatureFlags.Condition.Truth
import FeatureFlags.Decimal.Layout
import FeatureFlags.Decimal.Reading
import FeatureFlags.Decimal.Shortest
import FeatureFlags.Decision.Basic
import FeatureFlags.Decision.Context
import FeatureFlags.Decision.Experiment
import FeatureFlags.Decision.Flag
import FeatureFlags.Decision.FlagDecision
import FeatureFlags.Decision.Forced
import FeatureFlags.Decision.Options
import FeatureFlags.Decision.Rollout
import FeatureFlags.Decision.Variables
import FeatureFlags.Dict
import FeatureFlags.Engine
import FeatureFlags.Hash.Murmur3
import FeatureFlags.Json.Basic
import FeatureFlags.Json.Decoder
import FeatureFlags.Json.Document
import FeatureFlags.Json.Numeral
import FeatureFlags.Json.Printer
import FeatureFlags.Override
import FeatureFlags.Profile
import FeatureFlags.Profile.Tracker
import FeatureFlags.Project.Config
import FeatureFlags.Project.Encoding
import FeatureFlags.Project.Model
import FeatureFlags.Proofs.Attribute
import FeatureFlags.Proofs.Bandit.AttributeHash
import FeatureFlags.Proofs.Bandit.Cache
import FeatureFlags.Proofs.Bandit.CacheLog
import FeatureFlags.Proofs.Bandit.Failures
import FeatureFlags.Proofs.Bandit.Inquiries
import FeatureFlags.Proofs.Bandit.Keys
import FeatureFlags.Proofs.Bandit.Provenance
import FeatureFlags.Proofs.Bandit.Recency
import FeatureFlags.Proofs.Bandit.Relevance
import FeatureFlags.Proofs.Bandit.Retention
import FeatureFlags.Proofs.Bandit.Reuse
import FeatureFlags.Proofs.Bandit.Transcripts
import FeatureFlags.Proofs.Bucketing
import FeatureFlags.Proofs.Bucketing.Allocation
import FeatureFlags.Proofs.Bucketing.Eligibility
import FeatureFlags.Proofs.Bucketing.Exclusion
import FeatureFlags.Proofs.Bucketing.Scale
import FeatureFlags.Proofs.Condition.Acceptance
import FeatureFlags.Proofs.Condition.Comparisons
import FeatureFlags.Proofs.Condition.Encoding
import FeatureFlags.Proofs.Condition.Inlining
import FeatureFlags.Proofs.Condition.Kleene
import FeatureFlags.Proofs.Condition.Knowledge
import FeatureFlags.Proofs.Condition.Upgrades
import FeatureFlags.Proofs.Decimal.DoubleTexts
import FeatureFlags.Proofs.Decimal.Doubles
import FeatureFlags.Proofs.Decimal.Layout
import FeatureFlags.Proofs.Decimal.Nearest
import FeatureFlags.Proofs.Decimal.NearestMagnitude
import FeatureFlags.Proofs.Decimal.Numerals
import FeatureFlags.Proofs.Decimal.Order
import FeatureFlags.Proofs.Decimal.Reading
import FeatureFlags.Proofs.Decimal.Rounding
import FeatureFlags.Proofs.Decimal.Shortest
import FeatureFlags.Proofs.Decimal.Writing
import FeatureFlags.Proofs.Decision.Assignments
import FeatureFlags.Proofs.Decision.Courses
import FeatureFlags.Proofs.Decision.Explanations
import FeatureFlags.Proofs.Decision.ForcedScopes
import FeatureFlags.Proofs.Decision.HashedIdentity
import FeatureFlags.Proofs.Decision.HashedKeys
import FeatureFlags.Proofs.Decision.Holdouts
import FeatureFlags.Proofs.Decision.LayerPrecedence
import FeatureFlags.Proofs.Decision.Layers
import FeatureFlags.Proofs.Decision.Overrides
import FeatureFlags.Proofs.Decision.Renaming
import FeatureFlags.Proofs.Decision.Reporting
import FeatureFlags.Proofs.Decision.Resticking
import FeatureFlags.Proofs.Decision.RolloutLooks
import FeatureFlags.Proofs.Decision.RolloutWalk
import FeatureFlags.Proofs.Decision.Rollouts
import FeatureFlags.Proofs.Decision.StagePrecedence
import FeatureFlags.Proofs.Decision.Stages
import FeatureFlags.Proofs.Decision.StoreUpdates
import FeatureFlags.Proofs.Decision.Unaided
import FeatureFlags.Proofs.Decision.Variables
import FeatureFlags.Proofs.Decision.Verdicts
import FeatureFlags.Proofs.Decision.WellFormed
import FeatureFlags.Proofs.Dict
import FeatureFlags.Proofs.Engine.Batch
import FeatureFlags.Proofs.Engine.BatchAgreement
import FeatureFlags.Proofs.Engine.Calls
import FeatureFlags.Proofs.Engine.Congruence
import FeatureFlags.Proofs.Engine.ForcedRules
import FeatureFlags.Proofs.Engine.ForcedScopes
import FeatureFlags.Proofs.Engine.HashedIdentity
import FeatureFlags.Proofs.Engine.MutualExclusion
import FeatureFlags.Proofs.Engine.Overrides
import FeatureFlags.Proofs.Engine.Perform
import FeatureFlags.Proofs.Engine.ProfileCalls
import FeatureFlags.Proofs.Engine.ProfileUpdates
import FeatureFlags.Proofs.Engine.Queries
import FeatureFlags.Proofs.Engine.ReachableVariations
import FeatureFlags.Proofs.Engine.Repetition
import FeatureFlags.Proofs.Engine.Reporting
import FeatureFlags.Proofs.Engine.Session
import FeatureFlags.Proofs.Engine.Stickiness
import FeatureFlags.Proofs.Engine.StickyRuns
import FeatureFlags.Proofs.Engine.StoredEntries
import FeatureFlags.Proofs.Engine.Variables
import FeatureFlags.Proofs.Engine.WellFormed
import FeatureFlags.Proofs.Json.Grammar
import FeatureFlags.Proofs.Json.Numerals
import FeatureFlags.Proofs.Json.Objects
import FeatureFlags.Proofs.Json.Proper
import FeatureFlags.Proofs.Json.Reading
import FeatureFlags.Proofs.Json.Scalars
import FeatureFlags.Proofs.Json.Strings
import FeatureFlags.Proofs.Json.Tokens
import FeatureFlags.Proofs.Json.Values
import FeatureFlags.Proofs.Override
import FeatureFlags.Proofs.Padding
import FeatureFlags.Proofs.Profile.Codec
import FeatureFlags.Proofs.Profile.Entries
import FeatureFlags.Proofs.Profile.Shape
import FeatureFlags.Proofs.Profile.Tracker
import FeatureFlags.Proofs.Project.Config
import FeatureFlags.Proofs.Project.FlagVariations
import FeatureFlags.Proofs.Project.GroupMembers
import FeatureFlags.Proofs.Project.Holdouts
import FeatureFlags.Proofs.Project.Indexes
import FeatureFlags.Proofs.Reason
import FeatureFlags.Proofs.Reason.Trail
import FeatureFlags.Proofs.Resolution
import FeatureFlags.Proofs.Targeting
import FeatureFlags.Proofs.Text.Digits
import FeatureFlags.Proofs.Text.Readers
import FeatureFlags.Proofs.Text.Splitting
import FeatureFlags.Proofs.Version.Order
import FeatureFlags.Proofs.Version.Reading
import FeatureFlags.Reason
import FeatureFlags.Reason.Trail
import FeatureFlags.Targeting
import FeatureFlags.Text.Printable
import FeatureFlags.Text.Quoted
import FeatureFlags.Traced
import FeatureFlags.User
import FeatureFlags.Version
