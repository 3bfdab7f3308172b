import FeatureFlags.Proofs.Reason
import FeatureFlags.Reason.Trail
import Mathlib.Data.List.Forall2

/-!
Trails lose and reorder nothing. Inner trails may be nested in one another, and each of them is
joined to the outer one in either way: what stands in a trail in the end are the notes in the order
in which they were made, and so does the log.
-/

namespace FeatureFlags

/-- A note at the moment it is made. -/
structure Note where
  kind : NoteKind
  message : String
  deriving DecidableEq

namespace Note

def reason (note : Note) : Reason := { severity := note.kind.severity, message := note.message }

def logLine (note : Note) : LogLevel × String := (note.kind.logLevel, note.message)

/-- The reason has the message of the note, and it is an error just if the note was made as one. -/
structure KeptAs (note : Note) (reason : Reason) : Prop where
  message : reason.message = note.message
  severity : reason.severity = .error ↔ note.kind = .error

theorem keptAs_reason (note : Note) : note.KeptAs note.reason := by
  refine ⟨rfl, ?_⟩
  obtain ⟨kind, message⟩ := note
  cases kind <;> simp [reason, NoteKind.severity]

theorem isError_reason (note : Note) : note.reason.isError = decide (note.kind = .error) := by
  rw [Reason.isError, decide_eq_decide]
  exact note.keptAs_reason.severity

end Note

namespace TrailStep

mutual

/-- The notes that a step makes, those of an inner trail where it is built. -/
def notes : TrailStep → List Note
  | .record kind message => [{ kind, message }]
  | .merge steps => notesOf steps
  | .unpack steps => notesOf steps

def notesOf : List TrailStep → List Note
  | [] => []
  | first :: steps => notes first ++ notesOf steps

end

end TrailStep

namespace Trail
open TrailStep (notes notesOf)

/-- The trail with more notes at its end. -/
def extend (trail : Trail) (added : List Note) : Trail :=
  { entries := trail.entries ++ added.map Note.reason
    log := trail.log ++ added.map Note.logLine }

theorem extend_nil (trail : Trail) : trail.extend [] = trail := by
  simp only [extend, List.map_nil, List.append_nil]

theorem extend_append (trail : Trail) (first second : List Note) :
    trail.extend (first ++ second) = (trail.extend first).extend second := by
  simp only [extend, List.map_append, List.append_assoc]

/-- An inner trail starts without entries and goes on with the log of the outer one. -/
theorem merge_extend (trail : Trail) (added : List Note) :
    { trail with log := (Trail.extend { log := trail.log } added).log }.merge
      (Trail.extend { log := trail.log } added).entries = trail.extend added := by
  simp only [merge, extend, List.nil_append]

mutual

/-- A step adds its notes to the trail, at the end. -/
theorem step_eq_extend (trail : Trail) (next : TrailStep) :
    step trail next = trail.extend (notes next) :=
  match next with
  | .record kind message => by rfl
  | .merge steps => by
      rw [step, run_eq_extend { log := trail.log } steps, notes]
      exact trail.merge_extend _
  | .unpack steps => by
      rw [step, run_eq_extend { log := trail.log } steps, notes]
      exact trail.merge_extend _

theorem run_eq_extend (trail : Trail) (steps : List TrailStep) :
    run trail steps = trail.extend (notesOf steps) :=
  match steps with
  | [] => by rw [run, notesOf, extend_nil]
  | first :: steps => by
      rw [run, step_eq_extend trail first, run_eq_extend _ steps, notesOf, extend_append]

end

theorem messages_reasons (added : List Note) :
    Reason.messages (added.map Note.reason) = added.map (·.message) := by
  rw [Reason.messages, List.map_map]
  rfl

theorem report_reasons (includeInfos : Bool) (added : List Note) :
    Reason.report includeInfos (added.map Note.reason) =
      (added.filter fun note => includeInfos || note.kind = .error).map (·.message) := by
  have reported : ((fun reason => includeInfos || reason.isError) ∘ Note.reason) =
      fun note => includeInfos || decide (note.kind = .error) :=
    funext fun note => congrArg (includeInfos || ·) note.isError_reason
  rw [Reason.report, List.filter_map, reported, List.map_map]
  rfl

/-- A program leaves a trail of just its notes, in the order in which they were made and logged,
each as an error if it was made as one. The report is the errors among them, or all of them on
request, and there are errors if the short report is not empty. -/
theorem trails_keep_notes (steps : List TrailStep) :
    let trail := run {} steps
    let made := notesOf steps
    List.Forall₂ Note.KeptAs made trail.entries ∧
      trail.log = made.map Note.logLine ∧
      Reason.messages trail.entries = made.map (·.message) ∧
      Reason.report false trail.entries =
        (made.filter fun note => note.kind = .error).map (·.message) ∧
      Reason.report true trail.entries = made.map (·.message) ∧
      (Reason.hasErrors trail.entries = true ↔ Reason.report false trail.entries ≠ []) := by
  intro trail made
  have ran : trail = Trail.extend {} made := run_eq_extend {} steps
  have entries : trail.entries = made.map Note.reason := congrArg Trail.entries ran
  have log : trail.log = made.map Note.logLine := congrArg Trail.log ran
  rw [entries]
  refine ⟨?_, log, messages_reasons made, ?_, ?_, Reason.hasErrors_iff _⟩
  · exact List.forall₂_map_right_iff.mpr (List.forall₂_same.mpr fun note _ => note.keptAs_reason)
  · simpa only [Bool.false_or] using report_reasons false made
  · simpa only [Bool.true_or, List.filter_true] using report_reasons true made

end Trail
end FeatureFlags
