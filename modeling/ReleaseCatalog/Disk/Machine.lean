import ReleaseCatalog.Disk.Action
import ReleaseCatalog.Operation

/-!
# Disks that refuse

A machine has a disk on which actions may fail although the disk alone would
allow them: it is full, or a permission is missing. Which actions fail is given
from the start, so that nothing need be known about why. The machine remembers
every disk that it went through.

* `perform`: an action on a machine;
* `makeDirectories`: a directory with those above it, as far as they are missing;
* `Operation.see`, `Operation.onDisk`: looks at the disk and changes of it as
  operations. Where the disk refuses, the operation fails with the path to blame.
-/

namespace ReleaseCatalog

/-- A refusal of the disk. -/
structure Fault where
  cause : DiskError
  /-- How many bytes of an append reach the disk nevertheless. -/
  written : Nat := 0

/-- A disk at work. -/
structure Machine where
  disk : Disk
  /-- What happens to each of the actions to come: `none` stands for no refusal,
  and so does the end of the list. -/
  faults : List (Option Fault) := []
  /-- The disks after each of the actions so far, the latest first. -/
  trail : List Disk := []

/-- The disk after an action that was refused: only an append leaves a trace. -/
def Disk.actPartly (d : Disk) (written : Nat) : Action → Disk
  | .append path bytes =>
    match d.act (.append path (bytes.take written)) with
    | .ok after => after
    | .error _ => d
  | _ => d

/-- What is done with the disk of a machine. -/
abbrev OnDisk := ExceptT DiskError (StateM Machine)

/-- The machine after an action that left this disk. -/
def Machine.step (m : Machine) (after : Disk) : Machine :=
  ⟨after, m.faults.tail, after :: m.trail⟩

/-- The outcome of an action on a machine, and the machine after it. -/
def Machine.perform (m : Machine) (a : Action) : Except DiskError Unit × Machine :=
  match m.faults.head?.join with
  | some fault => (.error fault.cause, m.step (m.disk.actPartly fault.written a))
  | none =>
    match m.disk.act a with
    | .ok after => (.ok (), m.step after)
    | .error cause => (.error cause, m.step m.disk)

def perform (a : Action) : OnDisk Unit := fun m => m.perform a

/-- Makes a directory unless there is one. What is missing above it is an error. -/
def makeLast (mode : Nat) (path : Path) : OnDisk Unit :=
  tryCatch (perform (.makeDirectory path mode)) fun cause => do
    if (← get).disk.isDirectory path then return () else throw cause

/-- Makes a directory and the missing ones above it, in at most `steps` steps
upwards. -/
def makeDirectoriesFrom (mode : Nat) : (steps : Nat) → Path → OnDisk Unit
  | 0, path => makeLast mode path
  | steps + 1, path =>
    if path.text = "" then return ()
    else
      tryCatch (makeLast mode path) fun cause => do
        match cause, path.parent? with
        | .notFound, some above =>
          makeDirectoriesFrom mode steps above
          makeLast mode path
        | cause, _ => throw cause

/-- Makes a directory and the missing ones above it. Each step upwards shortens
the path. -/
def makeDirectories (mode : Nat) (path : Path) : OnDisk Unit :=
  makeDirectoriesFrom mode (path.text.length + 1) path

namespace Operation

variable {α : Type}

/-- A look at what a path names. -/
def see (view : Disk → Path → Except DiskError α) (path : Path) : Operation Machine α := fun m =>
  (.ofExcept ((view m.disk path).mapError (.disk path)), m)

/-- Work on the disk, for whose failure a path is to blame. -/
def onDisk (blame : Path) (work : OnDisk α) : Operation Machine α := fun m =>
  (.ofExcept ((work.run.run m).1.mapError (.disk blame)), (work.run.run m).2)

end Operation

end ReleaseCatalog
