import Mathlib.Order.Defs.Unbundled
import ReleaseCatalog.Proofs.Disk.Frame
import ReleaseCatalog.Proofs.Disk.Machine

/-!
# The disks that a machine goes through

What each action keeps is kept from the first disk to every disk on the way and
from there to the last one, whatever the machine refuses and however the work
ends. `Preserves` says so of work on the disk and `Operation.Preserves` of
operations; both go from the parts of a sequence to the whole.

* `preserves_perform`: an action keeps what it keeps where it succeeds, and an
  append what every shorter append keeps.
* `preserves_makeDirectories`: a directory with those above it is made without
  touching a file.
* `preserves_write`, `preserves_remove`: a file is written and removed without
  touching another one.
-/

namespace ReleaseCatalog

variable {α β : Type} {R : Disk → Disk → Prop} {m m' m'' : Machine} {path : Path} {a : Action}

namespace Machine

/-- An action succeeds, or the disk does not allow it, or the machine refuses it. -/
theorem perform_cases (m : Machine) (a : Action) :
    (∃ d, m.disk.act a = .ok d ∧ m.perform a = (.ok (), m.step d)) ∨
      (∃ cause, m.perform a = (.error cause, m.step m.disk)) ∨
        ∃ fault : Fault,
          m.perform a = (.error fault.cause, m.step (m.disk.actPartly fault.written a)) := by
  unfold perform
  cases m.faults.head?.join with
  | some fault => exact .inr (.inr ⟨fault, rfl⟩)
  | none =>
    cases hact : m.disk.act a with
    | ok d => exact .inl ⟨d, rfl, rfl⟩
    | error cause => exact .inr (.inl ⟨cause, rfl⟩)

theorem perform_step (m : Machine) (a : Action) : ∃ d, (m.perform a).2 = m.step d := by
  rcases m.perform_cases a with ⟨d, -, h⟩ | ⟨cause, h⟩ | ⟨fault, h⟩ <;>
    exact ⟨_, congrArg Prod.snd h⟩

/-- A removal that the machine does not refuse leaves no file. -/
theorem content?_perform_remove (h : m.faults.head?.join = none) :
    (m.perform (.remove path)).2.disk.content? path = none := by
  unfold perform
  rw [h]
  cases hact : m.disk.act (.remove path) with
  | ok d => exact Disk.content?_removed hact
  | error cause => exact Disk.content?_of_not_removed hact

end Machine

/-- The machine goes on to another one in some actions. Every disk on the way is
in a relation to the first one, and the last one is to it. -/
def Machine.Reaches (R : Disk → Disk → Prop) (m m' : Machine) : Prop :=
  ∃ passed, m'.trail = passed ++ m.trail ∧ m'.faults = m.faults.drop passed.length ∧
    R m.disk m'.disk ∧ ∀ d ∈ passed, R m.disk d ∧ R d m'.disk

/-- Each action takes one of the faults to come and leaves one disk more. -/
theorem Machine.Reaches.counts (h : m.Reaches R m') :
    ∃ k, m'.trail.length = m.trail.length + k ∧ m'.faults = m.faults.drop k := by
  obtain ⟨passed, ht, hf, -, -⟩ := h
  exact ⟨passed.length, by rw [ht, List.length_append, Nat.add_comm], hf⟩

/-- However the work ends, it keeps what the relation stands for on the way. -/
def Preserves (R : Disk → Disk → Prop) (work : OnDisk α) : Prop :=
  ∀ m : Machine, m.Reaches R (outcome work m).2

/-- However the operation ends, it keeps what the relation stands for on the way. -/
def Operation.Preserves (R : Disk → Disk → Prop) (t : Operation Machine α) : Prop :=
  ∀ m : Machine, m.Reaches R (t.run m).2

theorem Operation.preserves_onDisk {blame : Path} {work : OnDisk α}
    (h : ReleaseCatalog.Preserves R work) :
    Preserves R (onDisk blame work) := h

section Sequences

variable [IsPreorder Disk R]

namespace Machine

theorem Reaches.refl (m : Machine) : m.Reaches R m :=
  ⟨[], rfl, rfl, refl_of R m.disk, fun _ hd => nomatch hd⟩

theorem Reaches.trans (h : m.Reaches R m') (h' : m'.Reaches R m'') : m.Reaches R m'' := by
  obtain ⟨passed, ht, hf, hlast, hp⟩ := h
  obtain ⟨later, ht', hf', hlast', hp'⟩ := h'
  refine ⟨later ++ passed, ?_, ?_, trans_of R hlast hlast', fun d hd => ?_⟩
  · rw [ht', ht, List.append_assoc]
  · rw [hf', hf, List.drop_drop, List.length_append, Nat.add_comm]
  · rcases List.mem_append.1 hd with hd | hd
    · exact ⟨trans_of R hlast (hp' d hd).1, (hp' d hd).2⟩
    · exact ⟨(hp d hd).1, trans_of R (hp d hd).2 hlast'⟩

theorem reaches_step {d : Disk} (h : R m.disk d) : m.Reaches R (m.step d) := by
  refine ⟨[d], rfl, by simp [step], h, fun d' hd => ?_⟩
  obtain rfl := List.mem_singleton.1 hd
  exact ⟨h, refl_of R d'⟩

end Machine

theorem preserves_pure (x : α) : Preserves R (pure x) := fun m => .refl m

theorem preserves_throw (cause : DiskError) : Preserves R (throw cause : OnDisk α) :=
  fun m => .refl m

theorem preserves_get : Preserves R (get : OnDisk Machine) := fun m => .refl m

theorem Preserves.bind {work : OnDisk α} {f : α → OnDisk β} (hw : Preserves R work)
    (hf : ∀ x, Preserves R (f x)) : Preserves R (work >>= f) := by
  intro m
  have hfirst := hw m
  rw [outcome_bind]
  rcases hout : outcome work m with ⟨cause | x, m₁⟩ <;> rw [hout] at hfirst
  · exact hfirst
  · exact hfirst.trans (hf x m₁)

theorem Preserves.tryCatch {work : OnDisk α} {handle : DiskError → OnDisk α} (hw : Preserves R work)
    (hh : ∀ cause, Preserves R (handle cause)) : Preserves R (tryCatch work handle) := by
  intro m
  have hfirst := hw m
  rw [outcome_tryCatch]
  rcases hout : outcome work m with ⟨cause | x, m₁⟩ <;> rw [hout] at hfirst
  · exact hfirst.trans (hh cause m₁)
  · exact hfirst

/-- **What an action keeps where it succeeds and where it is refused is kept.** -/
theorem preserves_perform (h : ∀ d d', d.act a = .ok d' → R d d')
    (hpart : ∀ n d, R d (d.actPartly n a)) :
    Preserves R (perform a) := by
  intro m
  rw [outcome_perform]
  rcases m.perform_cases a with ⟨d, hact, hdone⟩ | ⟨cause, hdone⟩ | ⟨fault, hdone⟩ <;> rw [hdone]
  · exact Machine.reaches_step (h _ _ hact)
  · exact Machine.reaches_step (refl_of R m.disk)
  · exact Machine.reaches_step (hpart _ _)

/-- An append that was refused is a shorter one, or none at all. -/
theorem preserves_append {bytes : List UInt8}
    (h : ∀ d d' bytes, d.act (.append path bytes) = .ok d' → R d d') :
    Preserves R (perform (.append path bytes)) := by
  refine preserves_perform (fun d d' hact => h d d' bytes hact) fun n d => ?_
  unfold Disk.actPartly
  dsimp only
  cases hact : d.act (.append path (bytes.take n)) with
  | ok d' => exact h d d' _ hact
  | error cause => exact refl_of R d

theorem preserves_makeLast {mode : Nat}
    (h : ∀ d d' path, d.act (.makeDirectory path mode) = .ok d' → R d d') :
    Preserves R (makeLast mode path) := by
  have hmake : Preserves R (perform (.makeDirectory path mode)) :=
    preserves_perform (fun d d' hact => h d d' path hact) fun _ d => refl_of R d
  refine hmake.tryCatch fun cause => preserves_get.bind fun s => ?_
  split
  · exact preserves_pure ()
  · exact preserves_throw cause

theorem preserves_makeDirectoriesFrom {mode : Nat}
    (h : ∀ d d' path, d.act (.makeDirectory path mode) = .ok d' → R d d') :
    ∀ (steps : Nat) (path : Path), Preserves R (makeDirectoriesFrom mode steps path) := by
  intro steps
  induction steps with
  | zero => exact fun path => preserves_makeLast h
  | succ steps ih =>
    intro path
    rw [makeDirectoriesFrom]
    split
    · exact preserves_pure ()
    · refine (preserves_makeLast h).tryCatch fun cause => ?_
      -- what is missing above is made first, and everything else is passed on
      split
      · exact (ih _).bind fun _ => preserves_makeLast h
      · exact preserves_throw _

namespace Operation

theorem preserves_ofReport (r : Report α) : Preserves R (ofReport r) := fun m => .refl m

theorem preserves_look (view : Machine → α) : Preserves R (look view) := fun m => .refl m

theorem Preserves.bind {t : Operation Machine α} {f : α → Operation Machine β} (ht : Preserves R t)
    (hf : ∀ x, Preserves R (f x)) : Preserves R (t >>= f) := by
  intro m
  have hfirst := ht m
  rw [run_bind]
  cases (t.run m).1.result with
  | ok x => exact hfirst.trans (hf x _)
  | error e => exact hfirst

end Operation

end Sequences

namespace Disk

instance (places : Set Place) : IsPreorder Disk (Keeps places) where
  refl := Keeps.refl places
  trans _ _ _ := Keeps.trans

instance (path : Path) : IsPreorder Disk (Spares path) where
  refl := Spares.refl path
  trans _ _ _ := Spares.trans

end Disk

/-- **Directories are made without touching a file.** -/
theorem preserves_makeDirectories (places : Set Place) (mode : Nat) (path : Path) :
    Preserves (Disk.Keeps places) (makeDirectories mode path) :=
  preserves_makeDirectoriesFrom (fun _ _ _ => Disk.keeps_of_makeDirectory places) _ path

/-- Writing a file touches no other one. -/
theorem preserves_write (path : Path) (document : List UInt8) :
    Preserves (Disk.Spares path) (do
      perform (.create path)
      perform (.append path document)
      perform (.sync path)) := by
  have hcreate : Preserves (Disk.Spares path) (perform (.create path)) :=
    preserves_perform (fun _ _ => Disk.spares_of_create) fun _ d => Disk.Spares.refl path d
  have hsync : Preserves (Disk.Spares path) (perform (.sync path)) :=
    preserves_perform (fun _ _ => Disk.spares_of_sync) fun _ d => Disk.Spares.refl path d
  exact hcreate.bind fun _ =>
    (preserves_append fun _ _ _ => Disk.spares_of_append).bind fun _ => hsync

theorem preserves_remove (path : Path) : Preserves (Disk.Spares path) (perform (.remove path)) :=
  preserves_perform (fun _ _ => Disk.spares_of_remove) fun _ d => Disk.Spares.refl path d

end ReleaseCatalog
