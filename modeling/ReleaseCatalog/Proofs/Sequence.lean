import ReleaseCatalog.Operation

/-!
# Sequences that succeed

A sequence of steps succeeds exactly if each step does, in the world that the
one before it leaves. `bind_ok_iff` says so of results, `Operation.runs_bind` of
operations; the other lemmas say when a single step succeeds and what it does to
the world.
-/

namespace ReleaseCatalog

theorem bind_ok_iff {ε α β : Type} {x : Except ε α} {f : α → Except ε β} {b : β} :
    (x >>= f) = .ok b ↔ ∃ a, x = .ok a ∧ f a = .ok b := by
  cases x with
  | error e => exact iff_of_false (fun h => nomatch h) fun ⟨_, h, _⟩ => nomatch h
  | ok a =>
    constructor
    · intro h
      exact ⟨a, rfl, h⟩
    · rintro ⟨a', ha, h⟩
      cases ha
      exact h

@[simp] theorem throw_eq_ok {ε α : Type} {e : ε} {a : α} : (throw e : Except ε α) = .ok a ↔ False :=
  iff_of_false (fun h => nomatch h) id

@[simp] theorem pure_eq_ok {ε α : Type} {a b : α} : (pure a : Except ε α) = .ok b ↔ a = b :=
  ⟨Except.ok.inj, congrArg _⟩

theorem map_ok_iff {ε α β : Type} {x : Except ε α} {f : α → β} {b : β} :
    x.map f = .ok b ↔ ∃ a, x = .ok a ∧ f a = b := by
  cases x with
  | error e => exact iff_of_false (fun h => nomatch h) fun ⟨_, h, _⟩ => nomatch h
  | ok a =>
    constructor
    · intro h
      exact ⟨a, rfl, Except.ok.inj h⟩
    · rintro ⟨a', ha, rfl⟩
      cases ha
      rfl

theorem mapError_ok_iff {ε δ α : Type} {x : Except ε α} {f : ε → δ} {a : α} :
    x.mapError f = .ok a ↔ x = .ok a := by
  cases x with
  | error e => exact iff_of_false (fun h => nomatch h) (fun h => nomatch h)
  | ok b => exact ⟨fun h => congrArg _ (Except.ok.inj h), fun h => congrArg _ (Except.ok.inj h)⟩

theorem mapError_error_iff {ε δ α : Type} {x : Except ε α} {f : ε → δ} {k : δ} :
    x.mapError f = .error k ↔ ∃ e, x = .error e ∧ f e = k := by
  cases x with
  | error e =>
    constructor
    · intro h
      exact ⟨e, rfl, Except.error.inj h⟩
    · rintro ⟨e', he, rfl⟩
      cases he
      rfl
  | ok b => exact iff_of_false (fun h => nomatch h) fun ⟨_, h, _⟩ => nomatch h

namespace Operation

variable {World α β : Type} {w w' : World} {a a' : α} {b : β}

/-- The operation succeeds with a value in a world, and leaves another world. -/
def Runs (t : Operation World α) (w : World) (a : α) (w' : World) : Prop :=
  (t.run w).1.result = .ok a ∧ (t.run w).2 = w'

theorem runs_of_ok {t : Operation World α} (h : (t.run w).1.result = .ok a) :
    t.Runs w a (t.run w).2 := ⟨h, rfl⟩

@[simp] theorem runs_pure : (pure a : Operation World α).Runs w a' w' ↔ a = a' ∧ w = w' := by
  simp [Runs]

@[simp] theorem runs_ofExcept {result : Except Error α} :
    (ofExcept result).Runs w a w' ↔ result = .ok a ∧ w = w' := Iff.rfl

@[simp] theorem runs_fail {e : Error} : (fail e : Operation World α).Runs w a w' ↔ False :=
  iff_of_false (fun h => nomatch h.1) id

@[simp] theorem runs_log {e : Event} {u : Unit} : (log e).Runs w u w' ↔ w = w' :=
  ⟨And.right, fun h => ⟨rfl, h⟩⟩

@[simp] theorem runs_look {view : World → α} : (look view).Runs w a w' ↔ view w = a ∧ w = w' := by
  simp [Runs]

/-- **A sequence runs if its parts do, one after another.** -/
@[simp] theorem runs_bind {t : Operation World α} {f : α → Operation World β} :
    (t >>= f).Runs w b w' ↔ ∃ a v, t.Runs w a v ∧ (f a).Runs v b w' := by
  unfold Runs
  rw [run_bind]
  constructor
  · intro h
    cases ht : (t.run w).1.result with
    | error e => simp [ht] at h
    | ok a =>
      rw [ht] at h
      exact ⟨a, _, ⟨rfl, rfl⟩, h⟩
  · rintro ⟨a, v, ⟨ht, rfl⟩, h⟩
    rw [ht]
    exact h

/-- Behind a part that runs only the rest of a sequence counts. -/
theorem Runs.result_bind {t : Operation World α} {f : α → Operation World β} (h : t.Runs w a w') :
    ((t >>= f).run w).1.result = ((f a).run w').1.result := by
  obtain ⟨hresult, hworld⟩ := h
  rw [run_bind, hresult, hworld]

theorem Runs.world_bind {t : Operation World α} {f : α → Operation World β} (h : t.Runs w a w') :
    ((t >>= f).run w).2 = ((f a).run w').2 := by
  obtain ⟨hresult, hworld⟩ := h
  rw [run_bind, hresult, hworld]

/-- A part that fails ends the sequence. -/
theorem run_bind_of_error {t : Operation World α} {f : α → Operation World β} {e : Error}
    (h : (t.run w).1.result = .error e) :
    ((t >>= f).run w).1.result = .error e ∧ ((t >>= f).run w).2 = (t.run w).2 := by
  rw [run_bind, h]
  exact ⟨rfl, rfl⟩

theorem result_orElseUndo (t : Operation World α) (undo : Operation World Unit) (w : World) :
    ((orElseUndo t undo).run w).1.result = (t.run w).1.result := by
  have hattempt : (t.attempt.run w).1.result = .ok (t.run w).1.result := rfl
  unfold orElseUndo
  rw [run_bind, hattempt]
  dsimp only
  cases (t.run w).1.result <;> rfl

/-- An operation that fails leaves the world that the cleaning up leaves. -/
theorem world_orElseUndo (t : Operation World α) (undo : Operation World Unit) (w : World) :
    ((orElseUndo t undo).run w).2 =
      match (t.run w).1.result with
      | .ok _ => (t.run w).2
      | .error _ => (undo.run (t.run w).2).2 := by
  have hattempt : (t.attempt.run w).1.result = .ok (t.run w).1.result := rfl
  unfold orElseUndo
  rw [run_bind, hattempt]
  dsimp only
  cases (t.run w).1.result <;> rfl

/-- Cleaning up is for failures only. -/
@[simp] theorem runs_orElseUndo {t : Operation World α} {undo : Operation World Unit} :
    (orElseUndo t undo).Runs w a w' ↔ t.Runs w a w' := by
  have hattempt : ∀ {r v}, t.attempt.Runs w r v ↔ (t.run w).1.result = r ∧ (t.run w).2 = v := by
    intro r v
    simp [Runs, attempt, run]
  unfold orElseUndo
  simp only [runs_bind, hattempt]
  constructor
  · rintro ⟨r, v, ⟨rfl, rfl⟩, h⟩
    cases hr : (t.run w).1.result with
    | ok a' =>
      rw [hr] at h
      obtain ⟨rfl, rfl⟩ := runs_pure.1 h
      exact ⟨hr, rfl⟩
    | error e =>
      -- after the undoing it fails again
      rw [hr] at h
      obtain ⟨_, _, _, hfail⟩ := runs_bind.1 h
      exact absurd hfail (by simp)
  · rintro ⟨hr, rfl⟩
    exact ⟨_, _, ⟨rfl, rfl⟩, by rw [hr]; exact runs_pure.2 ⟨rfl, rfl⟩⟩

end Operation

end ReleaseCatalog
