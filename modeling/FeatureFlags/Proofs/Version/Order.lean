import FeatureFlags.Version

/-!
The order behind comparisons with a target. A version is a path of levels, which are in a total
order; a target is a path too, and a version is compared with it level by level until the target
ends. So a target stands for all versions that go on from it.
-/

namespace FeatureFlags

section Along
open Std
variable {α : Type} (cmp : α → α → Ordering)

/-- Compare a path with another one as far as the other one goes. A path that ends earlier is
less. -/
def compareAlong : List α → List α → Ordering
  | _, [] => .eq
  | [], _ :: _ => .lt
  | a :: path, b :: target => (cmp a b).then (compareAlong path target)

variable {cmp}

/-- A path that is not below another one is not below it in the eyes of any target. -/
theorem compareAlong_monotone [TransCmp cmp] {older newer : List α}
    (notLess : compareAlong cmp newer older ≠ .lt) (target : List α) :
    (compare (compareAlong cmp older target) (compareAlong cmp newer target)).isLE := by
  induction target generalizing older newer with
  | nil =>
      simp only [compareAlong]
      rfl
  | cons t target ih =>
      cases older with
      | nil => cases compareAlong cmp newer (t :: target) <;> rfl
      | cons o older =>
          cases newer with
          | nil => exact absurd rfl notLess
          | cons n newer =>
              simp only [compareAlong] at notLess ⊢
              cases level : cmp n o with
              | lt => simp [level] at notLess
              | eq =>
                  rw [TransCmp.congr_left level]
                  cases cmp o t with
                  | lt | gt => rfl
                  | eq => exact ih (by simpa [level] using notLess)
              | gt =>
                  cases below : cmp o t with
                  | lt => cases (cmp n t).then (compareAlong cmp newer target) <;> rfl
                  | eq =>
                      rw [← TransCmp.congr_right below, level]
                      cases compareAlong cmp older target <;> rfl
                  | gt =>
                      rw [TransCmp.gt_trans level below]
                      rfl

/-- Between paths of one length the comparison is symmetric. -/
theorem compareAlong_swap [OrientedCmp cmp] {first second : List α}
    (level : first.length = second.length) :
    compareAlong cmp second first = (compareAlong cmp first second).swap := by
  induction first generalizing second with
  | nil =>
      obtain rfl := List.eq_nil_of_length_eq_zero level.symm
      rfl
  | cons a first ih =>
      cases second with
      | nil => cases level
      | cons b second =>
          have reversed : cmp b a = (cmp a b).swap := OrientedCmp.eq_swap
          simp only [compareAlong, Ordering.swap_then, reversed, ih (Nat.succ.inj level)]

end Along

namespace Version
open Std

/-- Numbers and words each have an order of their own, and the numbers come first. -/
instance : TransCmp Identifier.compare where
  eq_swap {first second} := by
    cases first <;> cases second <;> first | rfl | exact OrientedOrd.eq_swap
  isLE_trans {first second third} le le' := by
    cases first <;> cases second <;> cases third <;>
      first | rfl | contradiction | exact TransOrd.isLE_trans le le'

theorem compareParts_eq : compareParts = List.compareLex Identifier.compare := by
  funext first second
  induction first generalizing second with
  | nil => cases second <;> rfl
  | cons part parts ih =>
      cases second with
      | nil => rfl
      | cons part' parts' =>
          rw [compareParts, ih, List.compareLex_cons_cons]

/-- A release has no parts, which puts it above everything that has some. -/
theorem comparePre_eq :
    comparePre = compareLex (compareOn List.isEmpty) (List.compareLex Identifier.compare) := by
  funext first second
  rw [← compareParts_eq]
  cases first <;> cases second <;> rfl

instance : TransCmp comparePre := by
  rw [comparePre_eq]
  infer_instance

/-- A level of a version: a number, and for the third one the parts of the pre-release. -/
abbrev Level := Nat × List Identifier

def compareLevels : Level → Level → Ordering :=
  compareLex (compareOn Prod.fst) fun first second => comparePre first.2 second.2

instance : TransCmp compareLevels := by
  have parts : TransCmp fun first second : Level => comparePre first.2 second.2 :=
    { eq_swap := OrientedCmp.eq_swap, isLE_trans := TransCmp.isLE_trans }
  exact inferInstanceAs (TransCmp (compareLex _ _))

/-- The most significant level first. -/
def levels : Version → List Level
  | .majorOnly major => [(major, [])]
  | .majorMinor major minor => [(major, []), (minor, [])]
  | .full major minor patch pre _ => [(major, []), (minor, []), (patch, pre)]

theorem compareToTarget_eq (version target : Version) :
    version.compareToTarget target = compareAlong compareLevels version.levels target.levels := by
  cases version <;> cases target <;>
    simp [compareToTarget, numbers, compareNumbers, levels, compareAlong, compareLevels,
      compareLex, compareOn, comparePre, Ordering.then_assoc]

/-- How many numbers a version has. -/
def precision (version : Version) : Nat := version.numbers.length

/-- The version with other build metadata, if it has a place for them. -/
def withBuild (version : Version) (build : List String) : Version :=
  match version with
  | .full major minor patch pre _ => .full major minor patch pre build
  | short => short

theorem length_levels (version : Version) : version.levels.length = version.precision := by
  cases version <;> rfl

theorem levels_withBuild (version : Version) (build : List String) :
    (version.withBuild build).levels = version.levels := by
  cases version <;> rfl

variable {older newer : Version}

/-- A version that is not below another one is not below it in the eyes of any target. -/
theorem compareToTarget_monotone (upgrade : newer.compareToTarget older ≠ .lt) (target : Version) :
    (compare (older.compareToTarget target) (newer.compareToTarget target)).isLE = true := by
  simp only [compareToTarget_eq] at upgrade ⊢
  exact compareAlong_monotone upgrade target.levels

theorem compareToTarget_swap (level : older.precision = newer.precision) :
    newer.compareToTarget older = (older.compareToTarget newer).swap := by
  simp only [compareToTarget_eq]
  exact compareAlong_swap (by rw [length_levels, length_levels, level])

theorem compareToTarget_withBuild (version target : Version) (build build' : List String) :
    (version.withBuild build).compareToTarget (target.withBuild build') =
      version.compareToTarget target := by
  simp only [compareToTarget_eq, levels_withBuild]

end Version
end FeatureFlags
