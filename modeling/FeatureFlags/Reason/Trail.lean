import FeatureFlags.Traced

/-!
Programs that build trails of reasons. An inner trail is completed on its own and then joined to
the outer one, either as it is or as the explanation of a result; every note also goes to the log
at the moment it is made.
-/

namespace FeatureFlags

inductive TrailStep where
  | record (kind : NoteKind) (message : String)
  /-- Build an inner trail and append it. -/
  | merge (steps : List TrailStep)
  /-- Build an inner trail as the explanation of a result and take the result out of it. -/
  | unpack (steps : List TrailStep)

structure Trail where
  entries : List Reason := []
  log : List (LogLevel × String) := []
  deriving DecidableEq

namespace Trail

def record (trail : Trail) (kind : NoteKind) (message : String) : Trail :=
  { entries := trail.entries ++ [{ severity := kind.severity, message }]
    log := trail.log ++ [(kind.logLevel, message)] }

def merge (trail : Trail) (reasons : List Reason) : Trail :=
  { trail with entries := trail.entries ++ reasons }

/-- Append the explanation of a result, and return the bare result. -/
def unpack {α : Type} (trail : Trail) (traced : Traced α) : α × Trail :=
  (traced.value, trail.merge traced.reasons)

mutual

def step (trail : Trail) : TrailStep → Trail
  | .record kind message => trail.record kind message
  | .merge steps =>
    let inner := run { log := trail.log } steps
    { trail with log := inner.log }.merge inner.entries
  | .unpack steps =>
    let inner := run { log := trail.log } steps
    ({ trail with log := inner.log }.unpack (Traced.explain inner.entries)).2

def run (trail : Trail) : List TrailStep → Trail
  | [] => trail
  | first :: steps => run (step trail first) steps

end

end Trail
end FeatureFlags
