import ReleaseCatalog.Report

/-!
# Operations on a world

An operation looks at a world and changes it, such as the files of a machine or
the servers of a network. It comes to a report and leaves a world behind.

* An operation that fails keeps the events and the changes that came before the
  failure;
* `attempt` makes a failure a value, `orElseUndo` cleans up after one;
* `run_bind`: a sequence runs its second operation in the world that the first
  one leaves.
-/

namespace ReleaseCatalog

/-- An operation on a world. -/
def Operation (World α : Type) : Type := World → Report α × World

namespace Operation

variable {World α β : Type}

/-- What the operation comes to in a world, and the world that it leaves. -/
def run (t : Operation World α) (w : World) : Report α × World := t w

/-- One operation after another, which is left out if the first one fails. -/
protected def bind (t : Operation World α) (f : α → Operation World β) :
    Operation World β := fun w =>
  match (t w).1.result with
  | .ok a => (⟨(t w).1.events ++ (f a (t w).2).1.events, (f a (t w).2).1.result⟩, (f a (t w).2).2)
  | .error e => (⟨(t w).1.events, .error e⟩, (t w).2)

instance : Monad (Operation World) where
  pure a := fun w => (pure a, w)
  bind := Operation.bind

/-- The operation that leaves the world as it is and comes to a given report. -/
def ofReport (r : Report α) : Operation World α := fun w => (r, w)

def ofExcept (result : Except Error α) : Operation World α := ofReport (.ofExcept result)

def fail (e : Error) : Operation World α := ofExcept (.error e)

/-- The operation that reports a single event. -/
def log (e : Event) : Operation World Unit := ofReport (.log e)

/-- The operation that looks at the world. -/
def look (view : World → α) : Operation World α := fun w => (pure (view w), w)

/-- The operation that never fails and gives the result of another one. -/
def attempt (t : Operation World α) : Operation World (Except Error α) := fun w =>
  (⟨(t w).1.events, .ok (t w).1.result⟩, (t w).2)

/-- An operation and, if it fails, another one to clean up, whose own outcome
does not matter. -/
def orElseUndo (t : Operation World α) (undo : Operation World Unit) : Operation World α := do
  match ← t.attempt with
  | .ok a => return a
  | .error e =>
    let _ ← undo.attempt
    fail e

@[simp] theorem run_pure (a : α) (w : World) : (pure a : Operation World α).run w = (pure a, w) :=
  rfl

@[simp] theorem run_look (view : World → α) (w : World) :
    (look view).run w = (pure (view w), w) := rfl

theorem run_bind (t : Operation World α) (f : α → Operation World β) (w : World) :
    (t >>= f).run w =
      match (t.run w).1.result with
      | .ok a =>
        (⟨(t.run w).1.events ++ ((f a).run (t.run w).2).1.events,
          ((f a).run (t.run w).2).1.result⟩, ((f a).run (t.run w).2).2)
      | .error e => (⟨(t.run w).1.events, .error e⟩, (t.run w).2) := rfl

end Operation

end ReleaseCatalog
