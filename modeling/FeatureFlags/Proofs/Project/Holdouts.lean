import FeatureFlags.Proofs.Decision.Holdouts
import FeatureFlags.Proofs.Project.Config
import Mathlib.Data.List.Perm.Subperm

/-!
The holdouts of a flag. A holdout that names no flag applies to every flag but the excluded ones,
any other one to the flags that it names. A decision looks at each of them once, unless it names the
flag several times: it is listed, looked at and hashed that often.
-/

namespace FeatureFlags

namespace Holdout

/-- The holdout is for all flags, and does not leave out this one. -/
def Covers (holdout : Holdout) (flagId : String) : Prop :=
  holdout.includedFlags = [] ∧ flagId ∉ holdout.excludedFlags

def Names (holdout : Holdout) (flagId : String) : Prop := flagId ∈ holdout.includedFlags

def AppliesTo (holdout : Holdout) (flagId : String) : Prop :=
  holdout.Covers flagId ∨ holdout.Names flagId

instance (holdout : Holdout) (flagId : String) : Decidable (holdout.Covers flagId) :=
  inferInstanceAs (Decidable (_ ∧ _))

instance (holdout : Holdout) (flagId : String) : Decidable (holdout.Names flagId) :=
  inferInstanceAs (Decidable (_ ∈ _))

instance (holdout : Holdout) (flagId : String) : Decidable (holdout.AppliesTo flagId) :=
  inferInstanceAs (Decidable (_ ∨ _))

theorem Names.not_covers {holdout : Holdout} {flagId : String} (names : holdout.Names flagId) :
    ¬ holdout.Covers flagId := by
  rintro ⟨global, -⟩
  rw [Names, global] at names
  cases names

theorem flatMap_replicate_of_once {holdouts : List Holdout} {flagId : String}
    (once : ∀ holdout ∈ holdouts, holdout.includedFlags.count flagId ≤ 1) :
    (holdouts.flatMap fun holdout =>
        List.replicate (holdout.includedFlags.count flagId) holdout) =
      holdouts.filter (·.Names flagId) := by
  induction holdouts with
  | nil => rfl
  | cons first rest ih =>
      obtain ⟨here, later⟩ := List.forall_mem_cons.mp once
      rw [List.flatMap_cons, ih later]
      by_cases names : first.Names flagId
      · have single : first.includedFlags.count flagId = 1 :=
          Nat.le_antisymm here (List.count_pos_iff.mpr names)
        rw [single, List.filter_cons_of_pos (by simpa using names)]
        rfl
      · rw [List.count_eq_zero.mpr names, List.filter_cons_of_neg (by simpa using names)]
        rfl

/-- The two kinds of holdouts of a flag, one behind the other, are those that apply to it. -/
theorem filter_append_perm (holdouts : List Holdout) (flagId : String) :
    (holdouts.filter (·.Covers flagId) ++ holdouts.filter (·.Names flagId)).Perm
      (holdouts.filter (·.AppliesTo flagId)) := by
  have covers (holdout : Holdout) :
      (decide (holdout.Covers flagId) && decide (holdout.AppliesTo flagId)) =
        decide (holdout.Covers flagId) := by
    rw [Bool.eq_iff_iff, Bool.and_eq_true, decide_eq_true_eq, decide_eq_true_eq]
    exact and_iff_left_of_imp .inl
  have names (holdout : Holdout) :
      (!decide (holdout.Covers flagId) && decide (holdout.AppliesTo flagId)) =
        decide (holdout.Names flagId) := by
    rw [Bool.eq_iff_iff, Bool.and_eq_true, decide_eq_true_eq, decide_eq_true_eq,
      Bool.not_eq_true', decide_eq_false_iff_not]
    exact ⟨fun ⟨other, applies⟩ => applies.resolve_left other,
      fun named => ⟨named.not_covers, .inr named⟩⟩
  have parts := List.filter_append_perm (fun holdout : Holdout => holdout.Covers flagId)
    (holdouts.filter (·.AppliesTo flagId))
  simpa only [List.filter_filter, covers, names] using parts

end Holdout

namespace Context
variable {σ : Type} {context : Context σ}

/-- The holdouts are looked at in order, up to the first one that serves the user. -/
theorem exists_looked_holdouts (context : Context σ) (flag : Flag) :
    ∃ looked, looked <+: context.config.holdoutsForFlag flag.id ∧
      (context.resolveHoldouts flag).events = looked.flatMap context.holdoutEvents := by
  cases held : (context.config.holdoutsForFlag flag.id).findSome? context.holdoutServes? with
  | some variation =>
      obtain ⟨before, holdout, after, listed, serves, passed⟩ :=
        List.findSome?_eq_some_iff.mp held
      refine ⟨before ++ [holdout], ⟨after, ?_⟩, (resolveHoldouts_of_some listed passed serves).2⟩
      rw [listed, List.append_assoc, List.singleton_append]
  | none =>
      exact ⟨_, List.prefix_rfl, (resolveHoldouts_of_none (List.findSome?_eq_none_iff.mp held)).2⟩

end Context

namespace Config

/-- The holdouts of a flag are those that apply to it, the global ones first, and each of them is
looked at once at most, if none names the flag several times. In general it is listed as often. -/
theorem holdouts_apply_once (datafile : Datafile) (flagId : String) :
    let config := ofDatafile datafile
    let applicable := datafile.holdouts.filter (·.AppliesTo flagId)
    config.holdoutsForFlag flagId = datafile.holdouts.filter (·.Covers flagId) ++
        (datafile.holdouts.flatMap fun holdout =>
          List.replicate (holdout.includedFlags.count flagId) holdout) ∧
      ((∀ holdout ∈ datafile.holdouts, holdout.includedFlags.count flagId ≤ 1) →
        config.holdoutsForFlag flagId = datafile.holdouts.filter (·.Covers flagId) ++
            datafile.holdouts.filter (·.Names flagId) ∧
          (config.holdoutsForFlag flagId).Perm applicable ∧
          ∀ {σ : Type} (context : Context σ) (flag : Flag), context.config = config →
            flag.id = flagId → ∃ looked : List Holdout, looked.Subperm applicable ∧
              (context.resolveHoldouts flag).events = looked.flatMap context.holdoutEvents) := by
  intro config applicable
  have listed := holdoutsForFlag_ofDatafile datafile flagId
  refine ⟨listed, fun once => ?_⟩
  rw [Holdout.flatMap_replicate_of_once once] at listed
  have perm : (config.holdoutsForFlag flagId).Perm applicable :=
    listed ▸ Holdout.filter_append_perm datafile.holdouts flagId
  refine ⟨listed, perm, ?_⟩
  rintro σ context flag made rfl
  obtain ⟨looked, front, events⟩ := context.exists_looked_holdouts flag
  rw [made] at front
  exact ⟨looked, front.sublist.subperm.trans perm.subperm, events⟩

namespace Sample

/-- A running holdout that serves nobody. -/
def holdout (id : String) (includedFlags excludedFlags : List String) : Holdout :=
  { experiment := { id, key := id, status := .running, variations := [], trafficAllocation := [] }
    includedFlags, excludedFlags }

/-- One holdout for all flags, one for all but the flag, one that both names and excludes it. -/
def holdouts : List Holdout :=
  [holdout "70" ["31", "30"] ["30"], holdout "71" [] ["30"], holdout "72" [] []]

def visit (holdouts : List Holdout) : Context Unit :=
  { sharder := fun _ => 0, bandit := none, overrides := {}, profiles := none
    config := ofDatafile { holdouts }, user := { id := "user" }, options := ∅ }

end Sample

theorem holdouts_apply_once_of_mixed :
    (∀ holdout ∈ Sample.holdouts, holdout.includedFlags.count "30" ≤ 1) ∧
      (ofDatafile { holdouts := Sample.holdouts }).holdoutsForFlag "30" =
        [Sample.holdout "72" [] [], Sample.holdout "70" ["31", "30"] ["30"]] ∧
      ∃ looked : List Holdout,
        looked.Subperm [Sample.holdout "70" ["31", "30"] ["30"], Sample.holdout "72" [] []] ∧
          ((Sample.visit Sample.holdouts).resolveHoldouts { id := "30", key := "banner" }).events =
            looked.flatMap (Sample.visit Sample.holdouts).holdoutEvents := by
  have once : ∀ holdout ∈ Sample.holdouts, holdout.includedFlags.count "30" ≤ 1 := by decide
  obtain ⟨listed, _, looks⟩ := (holdouts_apply_once { holdouts := Sample.holdouts } "30").2 once
  exact ⟨once, listed, looks (Sample.visit Sample.holdouts) { id := "30", key := "banner" } rfl rfl⟩

/-- A holdout that names a flag twice is listed twice, and its key is hashed twice. -/
theorem holdout_named_twice :
    let named := Sample.holdout "70" ["30", "30"] []
    let config := ofDatafile { holdouts := [named] }
    config.holdoutsForFlag "30" = [named, named] ∧
      ¬ (config.holdoutsForFlag "30").Perm ([named].filter (·.AppliesTo "30")) ∧
      Event.hashedKeys ((Sample.visit [named]).resolveHoldouts
        { id := "30", key := "banner" }).events = ["user70", "user70"] := by
  refine ⟨rfl, fun perm => ?_, rfl⟩
  exact absurd perm.length_eq (by decide)

end Config
end FeatureFlags
