import FeatureFlags.Bandit.Basic
import FeatureFlags.Reason

/-!
Computations that explain themselves. A traced value comes with the reasons that were noted and
with the events by which the world could see the computation: keys that were hashed, calls of the
profile store, and calls of bandits. Both are in order of time and never influence the value.
-/

namespace FeatureFlags

inductive Event where
  | hashed (key : String)
  | lookedUp (userId : String)
  | saved (profile : Dict Json)
  /-- The bandit of a rule was asked to decide. -/
  | consulted (ruleId : String)
  /-- The remote service was called. -/
  | fetched (request : Bandit.Request)

@[ext] structure Traced (α : Type) where
  value : α
  reasons : List Reason := []
  events : List Event := []

namespace Traced
variable {α β : Type}

instance : Monad Traced where
  pure value := { value }
  bind x f :=
    let y := f x.value
    { value := y.value, reasons := x.reasons ++ y.reasons, events := x.events ++ y.events }

@[simp] theorem value_pure (a : α) : (pure a : Traced α).value = a := rfl

@[simp] theorem reasons_pure (a : α) : (pure a : Traced α).reasons = [] := rfl

@[simp] theorem events_pure (a : α) : (pure a : Traced α).events = [] := rfl

@[simp] theorem value_bind (x : Traced α) (f : α → Traced β) :
    (x >>= f).value = (f x.value).value := rfl

@[simp] theorem reasons_bind (x : Traced α) (f : α → Traced β) :
    (x >>= f).reasons = x.reasons ++ (f x.value).reasons := rfl

@[simp] theorem events_bind (x : Traced α) (f : α → Traced β) :
    (x >>= f).events = x.events ++ (f x.value).events := rfl

@[simp] theorem value_map (f : α → β) (x : Traced α) : (f <$> x).value = f x.value := rfl

@[simp] theorem reasons_map (f : α → β) (x : Traced α) : (f <$> x).reasons = x.reasons := by
  simp [Functor.map]

@[simp] theorem events_map (f : α → β) (x : Traced α) : (f <$> x).events = x.events := by
  simp [Functor.map]

instance : LawfulMonad Traced :=
  LawfulMonad.mk' Traced
    (fun x => by cases x; simp [Functor.map])
    (fun a f => by simp [bind, pure])
    (fun x f g => by simp [bind, List.append_assoc])

def note (kind : NoteKind) (message : String) : Traced Unit :=
  { value := (), reasons := [{ severity := kind.severity, message }] }

@[simp] theorem reasons_note (kind : NoteKind) (message : String) :
    (note kind message).reasons = [{ severity := kind.severity, message }] := rfl

@[simp] theorem events_note (kind : NoteKind) (message : String) :
    (note kind message).events = [] := rfl

@[simp] def info (message : String) : Traced Unit := note .info message

@[simp] def debug (message : String) : Traced Unit := note .debug message

@[simp] def warn (message : String) : Traced Unit := note .warn message

@[simp] def error (message : String) : Traced Unit := note .error message

def emit (event : Event) : Traced Unit := { value := (), events := [event] }

@[simp] theorem reasons_emit (event : Event) : (emit event).reasons = [] := rfl

@[simp] theorem events_emit (event : Event) : (emit event).events = [event] := rfl

def explain (reasons : List Reason) : Traced Unit := { value := (), reasons }

@[simp] theorem reasons_explain (reasons : List Reason) :
    (explain reasons).reasons = reasons := rfl

@[simp] theorem events_explain (reasons : List Reason) : (explain reasons).events = [] := rfl

/-- Try the members of a list in order, up to the first one that gives a result. -/
def firstSome (f : α → Traced (Option β)) : List α → Traced (Option β)
  | [] => return none
  | a :: as => do
    match ← f a with
    | some b => return some b
    | none => firstSome f as

end Traced

/-- The keys that were hashed, in order. -/
def Event.hashedKeys (events : List Event) : List String :=
  events.filterMap fun
    | .hashed key => some key
    | _ => none

end FeatureFlags
