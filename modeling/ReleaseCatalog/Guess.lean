import ReleaseCatalog.Dict
import ReleaseCatalog.Report
import ReleaseCatalog.Template

/-!
# Guessing the next release

From the newest release of a short version, the name and the place of the next
one can be guessed before it is published. A policy says for which short
versions that may be done, and for each operating system how the file is named.

* `Policy.checkAllowed`: the short version is one that may be guessed for;
* `Policy.ruleFor`: how the files for an operating system are named;
* `Policy.nextRelease`: the tarball of the next release.
-/

namespace ReleaseCatalog

open Text

/-- How the tarballs for an operating system are named. -/
structure PlatformRule where
  /-- The template of the file name, which may use the fields `Version`, `Ext`
  and `Minimal`. -/
  nameTemplate : String := ""
  /-- Only minimal builds are guessed. -/
  forceMinimal : Bool := false
  defaultExtension : String := "tar.gz"
  /-- The file extensions of the short versions that do not have the default one. -/
  extensionOverrides : Dict String := .empty
  /-- Values of further fields. -/
  templateData : Dict String := .empty
deriving DecidableEq

/-- The file extension of a short version. -/
def PlatformRule.extensionFor (r : PlatformRule) (shortVersion : String) : String :=
  (r.extensionOverrides.get? shortVersion).getD r.defaultExtension

/-- What may be guessed, and how. -/
structure Policy where
  /-- What the URLs of guessed tarballs start with. -/
  downloadUrl : String
  allowedVersions : List String
  /-- The rules by the names of operating systems. -/
  platforms : Dict PlatformRule
deriving DecidableEq

namespace Policy

/-- The rule for Linux where none is set. -/
def linuxRule : PlatformRule where
  nameTemplate :=
    "mysql-\x7b\x7b.Version\x7d\x7d-linux-glibc2.17-x86_64\x7b\x7b.Minimal\x7d\x7d.\x7b\x7b.Ext\x7d\x7d"
  forceMinimal := true
  extensionOverrides := .ofList [("8.0", "tar.xz")]

/-- The rule for macOS where none is set. -/
def darwinRule : PlatformRule where
  nameTemplate := "mysql-\x7b\x7b.Version\x7d\x7d-macos14-arm64.\x7b\x7b.Ext\x7d\x7d"

def default : Policy where
  downloadUrl := "https://dev.mysql.com/get/Downloads/MySQL"
  allowedVersions := ["5.7", "8.0", "8.1", "8.2", "8.3", "8.4", "9.0"]
  platforms := .ofList [("linux", linuxRule), ("darwin", darwinRule)]

/-- Fails unless the short version may be guessed for. -/
def checkAllowed (p : Policy) (shortVersion : String) : Except Error Unit :=
  if shortVersion ∈ p.allowedVersions then .ok ()
  else .error (.guessNotAllowed shortVersion p.allowedVersions)

def ruleFor (p : Policy) (os : OperatingSystem) : Except Error PlatformRule :=
  match p.platforms.get? os.name with
  | some rule => .ok rule
  | none => .error (.noGuessRule os p.platforms.keys)

/-- The values of the fields that a guess computes. -/
def computedFields (rule : PlatformRule) (version shortVersion : String) : Dict String :=
  .ofList [("Version", version), ("Ext", rule.extensionFor shortVersion),
    ("Minimal", if rule.forceMinimal then "-minimal" else "")]

/-- The start of the URLs of a short version, slashes at the end of the setting
left out. -/
def urlFor (p : Policy) (shortVersion name : String) : String :=
  let base := (p.downloadUrl.toList.reverse.dropWhile (· = '/')).reverse
  String.join [String.ofList base, "-", shortVersion, "/", name]

/-- The text of the version after the given one in its last number. -/
def successorText (major minor patch : UInt64) : String :=
  (Version.mk [major, minor, patch + 1]).text

/-- The tarball of the release that follows `newest`, the newest one of a short
version, a flavor and an operating system. -/
def nextRelease (p : Policy) (newest : Version) (shortVersion flavor : String)
    (os : OperatingSystem) : Report Tarball :=
  match newest.triple? with
  | none => throw (.noPatchRelease flavor shortVersion os)
  | some (major, minor, patch) => do
    let rule ← Report.ofExcept (p.ruleFor os)
    let version := successorText major minor patch
    let computed := computedFields rule version shortVersion
    let shadowed := rule.templateData.overridden computed
    if shadowed ≠ [] then Report.log (.fieldsShadowed os shadowed)
    let name ← Report.ofExcept <|
      Template.fill os.name rule.nameTemplate (rule.templateData.override computed)
    let url := p.urlFor shortVersion name
    Report.log (.guessed name url)
    return {
      name, url, flavor, version, shortVersion
      os := os.name
      minimal := rule.forceMinimal
      notes := guessedNote }

end Policy

end ReleaseCatalog
