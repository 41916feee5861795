import ReleaseCatalog.Disk.Machine
import ReleaseCatalog.Guess
import ReleaseCatalog.Json.Fields
import ReleaseCatalog.Json.Reader

/-!
# Settings

What a user can set is a JSON record in a file of the configuration directory.
Where the file or a part of the record is missing, defaults stand in.

* `configDirectory`: the directory of settings, catalog and log;
* `Settings.ofJson?`: the settings of a record;
* `Settings.load`: the settings of a file.
-/

namespace ReleaseCatalog

open Json

/-- Everything that can be set. -/
structure Settings where
  guess : Policy := .default
deriving DecidableEq

/-- The directory of settings, catalog and log. It is below the directory for
configurations if one is set, else below the user's home directory, else below
the current directory. -/
def configDirectory (configHome home : Option String) : Path :=
  let base : Path :=
    match configHome.filter (· ≠ ""), home with
    | some directory, _ => ⟨directory⟩
    | none, some home => Path.join ⟨home⟩ ".config"
    | none, none => ⟨"."⟩
  base.join "tarball-registry"

def catalogFileName : String := "tarball-list.json"

def settingsFileName : String := "config.json"

def logFileName : String := "tarball-registry.log"

/-- The dictionary of a record's members. -/
def asDict? (value? : Json → Option α) (v : Json) : Option (Dict α) :=
  (asMembers? value? v).map Dict.ofList

def PlatformRule.ofJson? (v : Json) : Option PlatformRule := do
  let given ← fields?
    ["nameTemplate", "forceMinimal", "defaultExtension", "extensionOverrides", "templateData"] v
  let standard : PlatformRule := {}
  return {
    nameTemplate := ← given.get? "nameTemplate" asText? standard.nameTemplate
    forceMinimal := ← given.get? "forceMinimal" asBool? standard.forceMinimal
    defaultExtension := ← given.get? "defaultExtension" asText? standard.defaultExtension
    extensionOverrides :=
      ← given.get? "extensionOverrides" (asDict? asText?) standard.extensionOverrides
    templateData := ← given.get? "templateData" (asDict? asText?) standard.templateData }

def Policy.ofJson? (v : Json) : Option Policy := do
  let given ← fields? ["downloadUrl", "allowedVersions", "platforms"] v
  return {
    downloadUrl := ← given.get? "downloadUrl" asText? Policy.default.downloadUrl
    allowedVersions := ← given.get? "allowedVersions" (asList? asText?)
      Policy.default.allowedVersions
    platforms := ← given.get? "platforms" (asDict? PlatformRule.ofJson?) Policy.default.platforms }

namespace Settings

def ofJson? (v : Json) : Option Settings := do
  let given ← fields? ["guess"] v
  return { guess := ← given.get? "guess" Policy.ofJson? .default }

/-- The settings in the text of a file. -/
def ofText? (s : List Char) : Option Settings := ofSymbols? (s.map some) >>= ofJson?

/-- The settings in a file, the default ones if there is no file. -/
def load (path : Path) : Operation Machine Settings := do
  if ← Operation.look (·.disk.exists? path) then
    match ofText? (← Operation.see Disk.readText path) with
    | some settings => return settings
    | none => Operation.fail (.corruptDocument path)
  else
    Operation.log (.noSettings path)
    return {}

end Settings

end ReleaseCatalog
