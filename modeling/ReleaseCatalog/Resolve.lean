import ReleaseCatalog.Guess

/-!
# Answering requests

`resolve` finds the one tarball of a list that a request asks for, `resolveGuess`
guesses the next release of the family that the request belongs to.
-/

namespace ReleaseCatalog

/-- The tarball's version. -/
def Tarball.parsedVersion (t : Tarball) : Version := .ofText t.version

/-- Of two tarballs the newer one, the first where neither is newer. -/
def newer (t u : Tarball) : Tarball := if t.parsedVersion.precedes u.parsedVersion then u else t

/-- The tarballs of the same version as `t` under another name. -/
def rivals (t : Tarball) (tarballs : List Tarball) : List Tarball :=
  tarballs.filter fun u => u.name ≠ t.name && u.parsedVersion = t.parsedVersion

/-- The newest of several tarballs, the first one of which is given apart,
unless others have the same version. -/
def newestOf (first : Tarball) (rest : List Tarball) : Except Error Tarball :=
  let newest := rest.foldl newer first
  match rivals newest (first :: rest) with
  | [] => .ok newest
  | tied => .error (.sameVersion (newest.name :: tied.map (·.name)))

/-- The tarball among the candidates for a request. -/
def choose (r : Request) : List Tarball → Except Error Tarball
  | [] => .error (.noMatch r)
  | [only] => .ok only
  | first :: rest =>
    if r.newest then newestOf first rest
    else .error (.severalMatch ((first :: rest).map (·.name)))

/-- The tarball of a list that a request asks for. -/
def resolve (tarballs : List Tarball) (r : Request) : Report Tarball := do
  let candidates := r.select tarballs
  Report.log (.candidates candidates.length r)
  Report.ofExcept (choose r candidates)

/-- Of two versions the newer one, the first where neither is newer. -/
def Version.newer (v w : Version) : Version := if v.precedes w then w else v

/-- The next release of the family that a request belongs to, guessed from the
newest release of that family in a list. -/
def resolveGuess (tarballs : List Tarball) (r : Request) (p : Policy) : Report Tarball := do
  Report.ofExcept (p.checkAllowed r.shortVersion)
  match r.family.select tarballs with
  | [] => throw (.noFamily r)
  | first :: rest =>
    let newest := (rest.map (·.parsedVersion)).foldl Version.newer first.parsedVersion
    p.nextRelease newest first.shortVersion r.flavor r.os

end ReleaseCatalog
