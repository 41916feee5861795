import ReleaseCatalog.Error
import ReleaseCatalog.Log

/-!
# Reports

A report is what an operation comes to: its value or its error, and the events
on the way there. Operations are put together with `do`, where an error ends the
report but keeps the events so far.

* `result_bind`: the result of a sequence is the sequence of the results, so
  statements about results need not speak of events.
-/

namespace ReleaseCatalog

/-- The outcome of an operation, and the events that led to it. -/
structure Report (α : Type) where
  events : List Event
  result : Except Error α

namespace Report

/-- The report of what follows, with the events so far in front. -/
protected def bind (r : Report α) (f : α → Report β) : Report β :=
  match r.result with
  | .ok a => ⟨r.events ++ (f a).events, (f a).result⟩
  | .error e => ⟨r.events, .error e⟩

instance : Monad Report where
  pure a := ⟨[], .ok a⟩
  bind := Report.bind

instance : MonadExceptOf Error Report where
  throw e := ⟨[], .error e⟩
  tryCatch r handle :=
    match r.result with
    | .ok _ => r
    | .error e => ⟨r.events ++ (handle e).events, (handle e).result⟩

/-- The report of a result that comes without events. -/
def ofExcept (result : Except Error α) : Report α := ⟨[], result⟩

def log (e : Event) : Report Unit := ⟨[e], .ok ()⟩

variable {α β : Type}

@[simp] theorem result_pure (a : α) : (pure a : Report α).result = .ok a := rfl

@[simp] theorem result_log (e : Event) : (log e).result = .ok () := rfl

@[simp] theorem result_ofExcept (r : Except Error α) : (ofExcept r).result = r := rfl

@[simp] theorem result_bind (r : Report α) (f : α → Report β) :
    (r >>= f).result = r.result >>= fun a => (f a).result := by
  show (Report.bind r f).result = _
  unfold Report.bind
  cases r.result <;> rfl

end Report

end ReleaseCatalog
