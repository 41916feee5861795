import ReleaseCatalog.Disk.Machine
import ReleaseCatalog.Proofs.Disk.Action

/-!
# What work on the disk has done when it succeeds

Work on a machine succeeds only if the disk would have allowed it
(`completes_perform`), and on a machine that refuses nothing it succeeds if the
disk allows it (`Machine.Willing.perform`). Making a directory with those above
it takes unforeseeably many steps; when it has succeeded the directory is there
(`isDirectory_of_makeDirectories`).
-/

namespace ReleaseCatalog

variable {α β : Type} {a b : α} {m m' : Machine} {path : Path}

/-- What the work comes to on a machine, and the machine that it leaves. -/
def outcome (work : OnDisk α) (m : Machine) : Except DiskError α × Machine := work.run.run m

/-- The work succeeds with a value on a machine, and leaves another one. -/
def Completes (work : OnDisk α) (m : Machine) (a : α) (m' : Machine) : Prop :=
  outcome work m = (.ok a, m')

theorem outcome_bind (work : OnDisk α) (f : α → OnDisk β) (m : Machine) :
    outcome (work >>= f) m = match outcome work m with
      | (.ok a, m₁) => outcome (f a) m₁
      | (.error e, m₁) => (.error e, m₁) := by
  unfold outcome
  rw [ExceptT.run_bind, StateT.run_bind]
  rcases work.run.run m with ⟨_ | _, m₁⟩ <;> rfl

theorem outcome_tryCatch (work : OnDisk α) (handle : DiskError → OnDisk α) (m : Machine) :
    outcome (tryCatch work handle) m = match outcome work m with
      | (.ok a, m₁) => (.ok a, m₁)
      | (.error e, m₁) => outcome (handle e) m₁ := by
  unfold outcome
  rw [ExceptT.run_tryCatch, StateT.run_bind]
  rcases work.run.run m with ⟨_ | _, m₁⟩ <;> rfl

@[simp] theorem completes_pure : Completes (pure a) m b m' ↔ a = b ∧ m = m' := by
  show (Except.ok a, m) = (.ok b, m') ↔ _
  simp

@[simp] theorem completes_throw {e : DiskError} : Completes (throw e : OnDisk α) m a m' ↔ False :=
  iff_of_false (fun h => nomatch h) id

@[simp] theorem completes_get {s : Machine} : Completes get m s m' ↔ m = s ∧ m = m' := by
  show (Except.ok m, m) = (.ok s, m') ↔ _
  simp

@[simp] theorem completes_bind {work : OnDisk α} {f : α → OnDisk β} {b : β} :
    Completes (work >>= f) m b m' ↔ ∃ a m₁, Completes work m a m₁ ∧ Completes (f a) m₁ b m' := by
  unfold Completes
  rw [outcome_bind]
  rcases outcome work m with ⟨r, m₁⟩
  cases r with
  | error e => simp
  | ok a =>
    constructor
    · intro h
      exact ⟨a, m₁, rfl, h⟩
    · rintro ⟨a', m₁', h', h⟩
      cases h'
      exact h

theorem completes_tryCatch {work : OnDisk α} {handle : DiskError → OnDisk α}
    (h : Completes (tryCatch work handle) m a m') :
    Completes work m a m' ∨ ∃ e m₁, Completes (handle e) m₁ a m' := by
  unfold Completes at *
  rw [outcome_tryCatch] at h
  split at h
  · rename_i ho
    exact .inl (ho.trans h)
  · exact .inr ⟨_, _, h⟩

theorem outcome_perform (action : Action) (m : Machine) :
    outcome (perform action) m = m.perform action := rfl

/-- **An action succeeds only if the disk allows it.** -/
theorem completes_perform {action : Action} {u : Unit} :
    Completes (perform action) m u m' ↔
      m.faults.head?.join = none ∧ ∃ d, m.disk.act action = .ok d ∧ m' = m.step d := by
  unfold Completes
  rw [outcome_perform, Machine.perform]
  cases m.faults.head?.join with
  | some fault => simp
  | none => cases m.disk.act action <;> simp [eq_comm]

theorem Operation.run_onDisk (blame : Path) (work : OnDisk α) (m : Machine) :
    (onDisk blame work).run m =
      (.ofExcept ((outcome work m).1.mapError (.disk blame)), (outcome work m).2) := rfl

theorem Operation.runs_onDisk {blame : Path} {work : OnDisk α} :
    (onDisk blame work).Runs m a m' ↔ Completes work m a m' := by
  unfold Runs Completes
  rw [run_onDisk, Report.result_ofExcept, mapError_ok_iff, Prod.ext_iff]

theorem Operation.runs_see {view : Disk → Path → Except DiskError α} :
    (see view path).Runs m a m' ↔ view m.disk path = .ok a ∧ m = m' := by
  show Except.mapError _ (view m.disk path) = .ok a ∧ m = m' ↔ _
  rw [mapError_ok_iff]

theorem isDirectory_of_makeLast {mode : Nat} {u : Unit}
    (h : Completes (makeLast mode path) m u m') :
    m'.disk.isDirectory path = true := by
  rcases completes_tryCatch h with h | ⟨e, m₁, h⟩
  · obtain ⟨-, d, hd, rfl⟩ := completes_perform.1 h
    exact (Disk.isDirectory_of_act hd).2
  · -- making it has failed, which is passed over only if it is there
    simp only [completes_bind, completes_get] at h
    obtain ⟨_, _, ⟨rfl, rfl⟩, h⟩ := h
    split at h
    · rename_i hd
      obtain ⟨-, rfl⟩ := completes_pure.1 h
      exact hd
    · exact (completes_throw.1 h).elim

theorem isDirectory_of_makeDirectoriesFrom {mode : Nat} {u : Unit} (hp : path.text ≠ "") :
    ∀ {steps : Nat}, Completes (makeDirectoriesFrom mode steps path) m u m' →
      m'.disk.isDirectory path = true := by
  intro steps h
  cases steps with
  | zero => exact isDirectory_of_makeLast h
  | succ steps =>
    rw [makeDirectoriesFrom, if_neg hp] at h
    rcases completes_tryCatch h with h | ⟨e, m₁, h⟩
    · exact isDirectory_of_makeLast h
    · -- whatever was made above, the last step is to make the directory itself
      split at h
      · obtain ⟨_, _, -, h⟩ := completes_bind.1 h
        exact isDirectory_of_makeLast h
      · exact (completes_throw.1 h).elim

/-- **A directory that was made with those above it is there.** -/
theorem isDirectory_of_makeDirectories {mode : Nat} {u : Unit} (hp : path.text ≠ "")
    (h : Completes (makeDirectories mode path) m u m') : m'.disk.isDirectory path = true :=
  isDirectory_of_makeDirectoriesFrom hp h

namespace Machine

/-- The machine refuses nothing from now on. -/
def Willing (m : Machine) : Prop := ∀ fault ∈ m.faults, fault = none

/-- **On a machine that refuses nothing an action succeeds if the disk allows it.** -/
theorem Willing.perform {action : Action} {d : Disk} (h : m.Willing)
    (hd : m.disk.act action = .ok d) :
    Completes (ReleaseCatalog.perform action) m () (m.step d) ∧ (m.step d).Willing := by
  refine ⟨completes_perform.2 ⟨?_, d, hd, rfl⟩, fun fault hf => h fault (List.mem_of_mem_tail hf)⟩
  cases hm : m.faults with
  | nil => rfl
  | cons fault rest =>
    have hnone : fault = none := h fault (by simp [hm])
    simp [hnone]

end Machine

end ReleaseCatalog
