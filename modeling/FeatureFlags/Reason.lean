/-!
Reasons: the notes that explain a decision, in the order in which they were made. Errors are always
reported, other notes on request.
-/

namespace FeatureFlags

inductive Severity where
  /-- A note about the normal course of a decision. -/
  | info
  /-- Something is wrong with the configuration, a service, or the input. -/
  | error
  deriving DecidableEq, Repr

structure Reason where
  severity : Severity
  message : String
  deriving DecidableEq, Repr

inductive LogLevel where
  | trace
  | debug
  | warn
  | error
  deriving DecidableEq, Repr

inductive NoteKind where
  | info
  | debug
  | warn
  | error
  deriving DecidableEq, Repr

namespace NoteKind

def severity : NoteKind → Severity
  | error => .error
  | _ => .info

/-- The level at which a note is logged, one below its name for the two harmless kinds. -/
def logLevel : NoteKind → LogLevel
  | info => .debug
  | debug => .trace
  | warn => .warn
  | error => .error

end NoteKind

namespace Reason

def isError (reason : Reason) : Bool := reason.severity = .error

def hasErrors (reasons : List Reason) : Bool := reasons.any isError

def report (includeInfos : Bool) (reasons : List Reason) : List String :=
  (reasons.filter fun reason => includeInfos || reason.isError).map message

def messages (reasons : List Reason) : List String := reasons.map message

end Reason
end FeatureFlags
