import ReleaseCatalog.Document
import ReleaseCatalog.Proofs.Json.RoundTrip

/-!
# The document says what the catalog says

Every field of every tarball is read back from the record as it was written, one
that was left out as the empty text (`Tarball.ofJson?_toJson`), and so is the
whole catalog from the bytes of its document (`Catalog.ofBytes?_bytes`). Neither
needs the catalog to be valid.
-/

namespace ReleaseCatalog

open Json

theorem lookup_optionalText (key value k : String) :
    (optionalText key value).lookup k =
      if k = key then (if value = "" then none else some (.text value)) else none := by
  unfold optionalText
  by_cases hv : value = ""
  · simp [hv]
  · by_cases hk : k = key <;> simp [hv, hk]

/-- The record of a structure gives each of its fields, if no key stands in it
twice. -/
theorem fields?_record {keys : List String} {members : List (String × Json)}
    (h : (members.map (·.1)).Nodup) :
    fields? keys (record members) = some fun k => members.lookup k := by
  have hall : (keys.all fun k => (members.map (·.1)).count k ≤ 1) = true := by
    rw [List.all_eq_true]
    intro k _
    simpa using List.nodup_iff_count.1 h k
  exact if_pos hall

theorem get?_eq {α : Type} (given : Given) (key : String) (read? : Json → Option α) (default : α) :
    given.get? key read? default = ((given key).map read?).getD (some default) := by
  unfold Given.get?
  cases given key <;> rfl

/-- What a left-out text is read as is the text that was left out. -/
theorem getD_optionalText (value : String) :
    ((if value = "" then none else some (.text value)).map asText?).getD (some "") =
      some value := by
  by_cases hv : value = ""
  · simp [hv]
  · simp [hv, asText?]

theorem asInt64?_number (n : Int64) : asInt64? (.number n.toInt) = some n := by
  have hfits : asInt64? (.number n.toInt) = some (Int64.ofInt n.toInt) :=
    if_pos ⟨n.minValue_le_toInt, n.toInt_le⟩
  rw [hfits, Int64.ofInt_toInt]

theorem asList?_map {α : Type} {item? : Json → Option α} {toJson : α → Json}
    (h : ∀ a, item? (toJson a) = some a) (l : List α) :
    asList? item? (.list (l.map toJson)) = some l := by
  unfold asList?
  induction l with
  | nil => rfl
  | cons a l ih =>
    simp only at ih ⊢
    rw [List.map_cons, List.mapM_cons, h, ih]; rfl

namespace Tarball

/-- The keys of a record are those of a tarball in their order, some left out. -/
theorem members_keys (t : Tarball) : (t.members.map (·.1)).Sublist keys := by
  have hopt : ∀ key value, ((optionalText key value).map (·.1)).Sublist [key] := by
    intro key value
    unfold optionalText
    split
    · exact List.nil_sublist _
    · exact List.Sublist.refl _
  unfold members
  simp only [List.map_append]
  exact ((((List.Sublist.refl ["name"]).append (hopt "checksum" _)).append
    (List.Sublist.refl ["OS", "arch", "url", "flavor", "minimal", "size", "short_version",
      "version"])).append
      (hopt "updated_by" _)).append (hopt "notes" _) |>.append (hopt "date_added" _)

theorem get?_text (t : Tarball) (key value : String)
    (h : t.members.lookup key = some (.text value)) :
    Given.get? (fun k => t.members.lookup k) key asText? "" = some value := by
  rw [get?_eq, h]
  rfl

theorem get?_optionalText (t : Tarball) (key value : String)
    (h : t.members.lookup key = if value = "" then none else some (.text value)) :
    Given.get? (fun k => t.members.lookup k) key asText? "" = some value := by
  rw [get?_eq, h]
  exact getD_optionalText value

/-- **A tarball is read back from its record.** -/
theorem ofJson?_toJson (t : Tarball) : ofJson? t.toJson = some t := by
  have hnodup : (t.members.map (·.1)).Nodup := t.members_keys.nodup (by decide)
  have hminimal : Given.get? (fun k => t.members.lookup k) "minimal" asBool? false =
      some t.minimal := by
    have hlookup : t.members.lookup "minimal" = some (.bool t.minimal) := by
      simp [members, List.lookup_append, List.lookup_cons, lookup_optionalText]
    rw [get?_eq, hlookup]
    rfl
  have hsize : Given.get? (fun k => t.members.lookup k) "size" asInt64? 0 = some t.size := by
    have hlookup : t.members.lookup "size" = some (.number t.size.toInt) := by
      simp [members, List.lookup_append, List.lookup_cons, lookup_optionalText]
    rw [get?_eq, hlookup]
    exact congrArg (Option.getD · _) (congrArg some (asInt64?_number t.size))
  unfold ofJson? toJson
  -- field by field: simplifying all the binds at once takes time exponential in their
  -- number
  rw [fields?_record hnodup, Option.bind_eq_bind, Option.bind_some,
    t.get?_text "name" t.name, t.get?_optionalText "checksum" t.checksum, t.get?_text "OS" t.os,
    t.get?_text "arch" t.arch, t.get?_text "url" t.url, t.get?_text "flavor" t.flavor, hminimal,
    hsize, t.get?_text "short_version" t.shortVersion, t.get?_text "version" t.version,
    t.get?_optionalText "updated_by" t.updatedBy, t.get?_optionalText "notes" t.notes,
    t.get?_optionalText "date_added" t.dateAdded]
  · rfl
  all_goals simp [members, List.lookup_append, List.lookup_cons, lookup_optionalText]

end Tarball

namespace Catalog

theorem ofJson?_toJson (c : Catalog) : ofJson? c.toJson = some c := by
  have hlist : asList? Tarball.ofJson? (.list (c.tarballs.map Tarball.toJson)) = some c.tarballs :=
    asList?_map Tarball.ofJson?_toJson c.tarballs
  unfold ofJson? toJson
  rw [fields?_record (by unfold optionalText; split <;> simp)]
  simp [get?_eq, List.lookup_append, List.lookup_cons, lookup_optionalText, getD_optionalText,
    asText?, hlist]

/-- **A catalog is read back from its document.** -/
theorem ofBytes?_bytes (c : Catalog) : ofBytes? c.bytes = some c := by
  unfold ofBytes? bytes
  rw [ofBytes?_pretty]
  exact ofJson?_toJson c

end Catalog

end ReleaseCatalog
