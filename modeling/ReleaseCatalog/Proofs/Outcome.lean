import ReleaseCatalog.Resolve
import ReleaseCatalog.Proofs.Sequence

/-!
# Outcomes up to the details of an error

Two reports have the same outcome if they come to the same value, or to errors
of the same kind. The kinds are the ways to fail that a caller can tell apart
without reading a message.
-/

namespace ReleaseCatalog

/-- The kinds of errors. -/
inductive ErrorKind where
  | invalidArgument
  | notFound
  | ambiguousMatch
  | unsupportedGuess
  | unsupportedGuessPlatform
  | checksumMismatch
  | invalidChecksumFormat
  | corruptState
  | validationFailed
  | duplicateName
  | duplicateCombination
  | template
  | disk
  | fetch
  | identify
deriving DecidableEq

/-- The kind of an error. -/
def Error.kind : Error → ErrorKind
  | unknownOrder .. | emptyOrigin | emptyAddition | notAFileName .. => .invalidArgument
  | noSuchName .. | noSuchUrl .. | noMatch .. | noFamily .. | noPatchRelease .. => .notFound
  | severalMatch .. | sameVersion .. => .ambiguousMatch
  | guessNotAllowed .. => .unsupportedGuess
  | noGuessRule .. => .unsupportedGuessPlatform
  | checksumMismatch .. => .checksumMismatch
  | checksumFormat .. => .invalidChecksumFormat
  | corruptDocument .. => .corruptState
  | invalidEntries .. => .validationFailed
  | repeatedName .. => .duplicateName
  | repeatedBuild .. => .duplicateCombination
  | missingFields .. => .template
  | disk .. => .disk
  | fetch .. => .fetch
  | unidentified .. => .identify

variable {α β : Type} {r : Report α} {a : α} {k : ErrorKind}

/-- What the report comes to: its value, or the kind of its error. -/
def Report.outcome (r : Report α) : Except ErrorKind α := r.result.mapError Error.kind

theorem Report.outcome_ok_iff : r.outcome = .ok a ↔ r.result = .ok a :=
  mapError_ok_iff

theorem Report.outcome_error_iff : r.outcome = .error k ↔ ∃ e, r.result = .error e ∧ e.kind = k :=
  mapError_error_iff

theorem Report.outcome_of_error {e : Error} (h : r.result = .error e) : r.outcome = .error e.kind :=
  outcome_error_iff.2 ⟨e, h, rfl⟩

/-- The outcome of a sequence is the sequence of the outcomes. -/
theorem Report.outcome_bind (r : Report α) (f : α → Report β) :
    (r >>= f).outcome = r.outcome >>= fun a => (f a).outcome := by
  unfold outcome
  rw [result_bind]
  cases r.result <;> rfl

end ReleaseCatalog
