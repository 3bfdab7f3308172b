import Mathlib.Data.List.Basic
import FeatureFlags.Reason

/-!
Reports of reasons. Errors are reported in any case, and a report without the other notes is empty
exactly if there are none.
-/

namespace FeatureFlags.Reason

theorem hasErrors_append (first second : List Reason) :
    hasErrors (first ++ second) = (hasErrors first || hasErrors second) :=
  List.any_append

theorem report_append (includeInfos : Bool) (first second : List Reason) :
    report includeInfos (first ++ second) =
      report includeInfos first ++ report includeInfos second := by
  rw [report, List.filter_append, List.map_append]
  rfl

theorem report_ne_nil {reasons : List Reason} (errors : hasErrors reasons = true)
    (includeInfos : Bool) : report includeInfos reasons ≠ [] := by
  obtain ⟨reason, member, isError⟩ := List.any_eq_true.mp errors
  have reported : reason.message ∈ report includeInfos reasons := by
    refine List.mem_map_of_mem (List.mem_filter.mpr ⟨member, ?_⟩)
    rw [isError, Bool.or_true]
  exact List.ne_nil_of_mem reported

theorem report_of_no_errors {reasons : List Reason} (harmless : hasErrors reasons = false) :
    report false reasons = [] := by
  rw [report, List.map_eq_nil_iff, List.filter_eq_nil_iff]
  intro reason member isError
  exact List.any_eq_false.mp harmless reason member isError

theorem hasErrors_iff (reasons : List Reason) :
    hasErrors reasons = true ↔ report false reasons ≠ [] := by
  refine ⟨fun errors => report_ne_nil errors false, fun reported => ?_⟩
  rw [← Bool.not_eq_false]
  exact fun harmless => reported (report_of_no_errors harmless)

/-- Errors are reported in any case, and in the same order. -/
theorem report_sublist (includeInfos : Bool) (reasons : List Reason) :
    (report false reasons).Sublist (report includeInfos reasons) := by
  refine (List.monotone_filter_right reasons fun reason isError => ?_).map message
  rw [← Bool.false_or reason.isError, isError, Bool.or_true]

end FeatureFlags.Reason
