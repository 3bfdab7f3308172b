import FeatureFlags.Proofs.Condition.Comparisons
import FeatureFlags.Proofs.Version.Order

/-!
Targeting by version and upgrades. A version that is not below an older one is not below it in the
eyes of any target. So an upgrade takes nothing away that asks for a recent version, and gives
nothing that asks for an old one.
-/

namespace FeatureFlags

/-- What holds of a lower order holds of a higher one if it asks for much, and the other way round
if it asks for little. -/
theorem Relation.holds_monotone {low high : Ordering} (rises : (compare low high).isLE = true) :
    (∀ relation ∈ [Relation.gt, .ge], relation.holds low = true → relation.holds high = true) ∧
      ∀ relation ∈ [Relation.lt, .le], relation.holds high = true → relation.holds low = true := by
  revert rises
  cases low <;> cases high <;> decide

namespace Version

/-- A user on the version of the text is matched. -/
def Matches (relation : Relation) (operand : AttributeValue) (text : String) : Prop :=
  (MatchKind.version relation).evaluate operand (some (.string text)) = .ok .yes

theorem matches_iff {relation : Relation} {operand : AttributeValue} {text : String}
    {version : Version} (read : parse text = some version) :
    Matches relation operand text ↔ ∃ targetText target, operand = .string targetText ∧
      parse targetText = some target ∧ relation.holds (version.compareToTarget target) = true := by
  rw [Matches, ← MatchKind.definite?_eq_some_true, MatchKind.definite?_version]
  cases operand with
  | string targetText =>
      cases targetRead : parse targetText <;>
        simp [MatchKind.versionOrder?, AttributeValue.string?, read, targetRead]
  | number _ | boolean _ | null => simp [MatchKind.versionOrder?, AttributeValue.string?]

/-- For every target, an upgrade goes up in the order less, equal, greater, and users who upgrade
stay matched by what asks for a recent version and unmatched by what asks for an old one. Versions
with equally many numbers compare the other way round when they are swapped, and build metadata
have no part in it. -/
theorem upgrades_are_monotone (older newer : Version) :
    (newer.compareToTarget older ≠ .lt →
      (∀ target, (compare (older.compareToTarget target) (newer.compareToTarget target)).isLE) ∧
      ∀ oldText newText operand, parse oldText = some older → parse newText = some newer →
        (∀ relation ∈ [Relation.gt, .ge],
          Matches relation operand oldText → Matches relation operand newText) ∧
        ∀ relation ∈ [Relation.lt, .le],
          Matches relation operand newText → Matches relation operand oldText) ∧
    (older.precision = newer.precision →
      newer.compareToTarget older = (older.compareToTarget newer).swap) ∧
    ∀ build build',
      (older.withBuild build).compareToTarget (newer.withBuild build') =
        older.compareToTarget newer := by
  refine ⟨fun upgrade => ⟨compareToTarget_monotone upgrade, ?_⟩, compareToTarget_swap,
    compareToTarget_withBuild older newer⟩
  intro oldText newText operand read read'
  have rises target := Relation.holds_monotone (compareToTarget_monotone upgrade target)
  simp only [matches_iff read, matches_iff read']
  constructor
  · rintro relation high ⟨targetText, target, text, targetRead, holds⟩
    exact ⟨targetText, target, text, targetRead, (rises target).1 relation high holds⟩
  · rintro relation low ⟨targetText, target, text, targetRead, holds⟩
    exact ⟨targetText, target, text, targetRead, (rises target).2 relation low holds⟩

/-- The eleventh beta comes after the second one, though not as a text. -/
theorem upgrade_between_betas :
    parse "2.1.0-beta.2" = some (.full 2 1 0 [.word "beta", .number 2] []) ∧
      parse "2.1.0-beta.11+7" = some (.full 2 1 0 [.word "beta", .number 11] ["7"]) ∧
      Matches .ge (.string "2.1.0-beta.2") "2.1.0-beta.2" ∧
      Matches .ge (.string "2.1.0-beta.2") "2.1.0-beta.11+7" ∧
      Matches .le (.string "2.1") "2.1.0-beta.11+7" ∧ Matches .le (.string "2.1") "2.1.0-beta.2" ∧
      (Version.full 2 1 0 [.word "beta", .number 2] []).compareToTarget
        (.full 2 1 0 [.word "beta", .number 11] ["7"]) = .lt := by
  have read : parse "2.1.0-beta.2" = some (.full 2 1 0 [.word "beta", .number 2] []) := by decide
  have read' : parse "2.1.0-beta.11+7" =
      some (.full 2 1 0 [.word "beta", .number 11] ["7"]) := by decide
  obtain ⟨kept, swapped, -⟩ := upgrades_are_monotone
    (.full 2 1 0 [.word "beta", .number 2] []) (.full 2 1 0 [.word "beta", .number 11] ["7"])
  obtain ⟨-, matched⟩ := kept (by decide)
  have least : Matches .ge (.string "2.1.0-beta.2") "2.1.0-beta.2" :=
    (matches_iff read).mpr ⟨_, _, rfl, read, by decide⟩
  have most : Matches .le (.string "2.1") "2.1.0-beta.11+7" :=
    (matches_iff read').mpr ⟨_, .majorMinor 2 1, rfl, by decide, by decide⟩
  refine ⟨read, read', least, ?_, most, ?_, ?_⟩
  · exact (matched _ _ _ read read').1 .ge (by decide) least
  · exact (matched _ _ _ read read').2 .le (by decide) most
  · exact Ordering.swap_inj.mp ((swapped rfl).symm.trans (by decide))

end Version
end FeatureFlags
