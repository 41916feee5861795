import ReleaseCatalog.Proofs.DocumentFields
import ReleaseCatalog.Proofs.Persistence

/-!
# Loading documents that others wrote

A document may come from another tool or from an editor: its keys stand in any
order, with any white space, some of them are missing and some are unknown here.
A file with such a document is loaded as the catalog that it gives.

* `Catalog.Typed`: a document that has the known keys once at most, with values
  of their kinds.
* `Catalog.Alike`: two documents that give the same for all known keys.
* `Catalog.Repeats`: a document with a known key twice.
* `CatalogFile.load_text`: what is loaded from a file with a JSON text.
-/

namespace ReleaseCatalog

open Json Operation

variable {members members' : List (String × Json)}

/-- A key with one value of the right kind at most gives something. -/
theorem Json.exists_gives {α : Type} {key : String} {stands : Json → α → Prop} (default : α)
    (h : valuesOf members key = [] ∨ ∃ v, valuesOf members key = [v] ∧ ∃ a, stands v a) :
    ∃ a, Gives members key stands default a := by
  rcases h with hnone | ⟨v, hv, a, ha⟩
  · exact ⟨default, .inr ⟨hnone, rfl⟩⟩
  · exact ⟨a, .inl ⟨v, hv, ha⟩⟩

/-- Where the values for a key stand for the same, the same is given. -/
theorem Json.gives_congr_values {α : Type} {key : String} {stands : Json → α → Prop} {default a : α}
    (h : List.Forall₂ (fun v w => ∀ a, stands v a ↔ stands w a) (valuesOf members key)
      (valuesOf members' key)) :
    Gives members key stands default a ↔ Gives members' key stands default a := by
  unfold Gives
  revert h
  generalize valuesOf members key = values
  generalize valuesOf members' key = values'
  rintro (_ | ⟨hvalue, _ | _⟩)
  · simp
  · simp [hvalue]
  · simp

namespace Tarball

/-- The value is one of the kind that the field with this key holds. -/
def IsOfKind (key : String) (v : Json) : Prop :=
  if key = "minimal" then ∃ b, v = .bool b
  else if key = "size" then ∃ n, v = .number n ∧ Int64.minValue.toInt ≤ n ∧ n ≤ Int64.maxValue.toInt
  else ∃ s, v = .text s

/-- The record gives no more than one value to a key of a tarball, and that one
is of the kind of its field. -/
def Typed (members : List (String × Json)) : Prop :=
  ∀ key ∈ keys, valuesOf members key = [] ∨ ∃ v, valuesOf members key = [v] ∧ IsOfKind key v

/-- The values are the same, or two records that give the same for every key of
a tarball. -/
inductive Alike : Json → Json → Prop where
  | refl (v : Json) : Alike v v
  | record {members members' : List (String × Json)}
      (h : ∀ key ∈ keys, valuesOf members key = valuesOf members' key) :
      Alike (.record members) (.record members')

theorem isOfKind_text {key : String} (h : key ∈ textFields.map (·.1)) {v : Json} :
    IsOfKind key v ↔ ∃ s, v = .text s := by
  have hkeys : ∀ key ∈ textFields.map (·.1), key ≠ "minimal" ∧ key ≠ "size" := by decide
  obtain ⟨hminimal, hsize⟩ := hkeys key h
  unfold IsOfKind
  rw [if_neg hminimal, if_neg hsize]

theorem isOfKind_size {v : Json} : IsOfKind "size" v ↔ ∃ n : Int64, v = .number n.toInt := by
  unfold IsOfKind
  rw [if_neg (by decide), if_pos rfl]
  constructor
  · rintro ⟨n, rfl, hmin, hmax⟩
    have hword : (Int64.ofInt n).toInt = n :=
      Int64.toInt_ofInt_of_le hmin (Int.lt_add_one_of_le hmax)
    exact ⟨Int64.ofInt n, congrArg Json.number hword.symm⟩
  · rintro ⟨n, rfl⟩
    exact ⟨n.toInt, rfl, n.le_toInt, Int.le_of_lt_add_one n.toInt_lt⟩

/-- **A record with values of the right kinds gives a tarball.** -/
theorem exists_givenBy (h : Typed members) : ∃ t : Tarball, t.GivenBy members := by
  have hkeys : ∀ key ∈ textFields.map (·.1), key ∈ keys := by decide
  have htexts : ∀ key, ∃ s, key ∈ textFields.map (·.1) →
      Gives members key (fun v s => v = .text s) "" s := by
    intro key
    by_cases hkey : key ∈ textFields.map (·.1)
    · obtain ⟨s, hs⟩ := exists_gives "" ((h key (hkeys key hkey)).imp_right fun ⟨v, hv, hkind⟩ =>
        ⟨v, hv, (isOfKind_text hkey).1 hkind⟩)
      exact ⟨s, fun _ => hs⟩
    · exact ⟨"", fun hmem => absurd hmem hkey⟩
  choose text htext using htexts
  obtain ⟨minimal, hminimal⟩ := exists_gives false (h "minimal" (by decide))
  obtain ⟨size, hsize⟩ := exists_gives 0 ((h "size" (by decide)).imp_right fun ⟨v, hv, hkind⟩ =>
    ⟨v, hv, isOfKind_size.1 hkind⟩)
  let t : Tarball := {
    name := text "name", checksum := text "checksum", os := text "OS", arch := text "arch",
    url := text "url"
    flavor := text "flavor", minimal := minimal, size := size, shortVersion := text "short_version"
    version := text "version", updatedBy := text "updated_by", notes := text "notes",
    dateAdded := text "date_added" }
  have hfields : ∀ field ∈ textFields, field.2 t = text field.1 := by simp [textFields, t]
  refine ⟨t, fun field hfield => ?_, hminimal, hsize⟩
  rw [hfields field hfield]
  exact htext _ (List.mem_map_of_mem hfield)

theorem givenBy_congr (h : ∀ key ∈ keys, valuesOf members key = valuesOf members' key)
    {t : Tarball} :
    t.GivenBy members ↔ t.GivenBy members' := by
  have hmono : ∀ {members members' : List (String × Json)},
      (∀ key ∈ keys, valuesOf members key = valuesOf members' key) → t.GivenBy members →
        t.GivenBy members' := by
    intro members members' h hgiven
    have hkeys : ∀ field ∈ textFields, field.1 ∈ keys := by simp [textFields, keys]
    exact ⟨fun field hfield =>
      (gives_congr (h _ (hkeys field hfield))).1 (hgiven.texts field hfield),
      (gives_congr (h _ (by decide))).1 hgiven.minimal,
      (gives_congr (h _ (by decide))).1 hgiven.size⟩
  exact ⟨hmono h, hmono fun key hkey => (h key hkey).symm⟩

theorem ofJson?_congr {v w : Json} (h : Alike v w) : ofJson? v = ofJson? w := by
  cases h with
  | refl => rfl
  | record h =>
    refine Option.ext fun t => ?_
    rw [ofJson?_record, ofJson?_record, givenBy_congr h]

/-- A record that gives two values to a key of a tarball gives no tarball. -/
theorem not_givenBy {key : String} (hkey : key ∈ keys) (h : 1 < (valuesOf members key).length)
    (t : Tarball) :
    ¬ t.GivenBy members := by
  intro hgiven
  have honce := hgiven.once key hkey
  omega

end Tarball

namespace Catalog

/-- The record gives no more than one value to a key of a catalog, and that one
is of the kind of its field. The tarballs are a list of records of their kind. -/
structure Typed (members : List (String × Json)) : Prop where
  texts : ∀ key ∈ ["DbdeployerVersion", "updated_on"],
    valuesOf members key = [] ∨ ∃ v, valuesOf members key = [v] ∧ ∃ s, v = .text s
  tarballs : valuesOf members "Tarballs" = [] ∨
    ∃ v, valuesOf members "Tarballs" = [v] ∧ ∃ items, v = .list items ∧
    ∀ item ∈ items, ∃ fields, item = .record fields ∧ Tarball.Typed fields

/-- The values are the same, or two lists of tarballs alike. -/
inductive AlikeLists : Json → Json → Prop where
  | refl (v : Json) : AlikeLists v v
  | list {items items' : List Json} (h : List.Forall₂ Tarball.Alike items items') :
      AlikeLists (.list items) (.list items')

/-- The records give the same for every key of a catalog, and their tarballs are
alike. -/
structure Alike (members members' : List (String × Json)) : Prop where
  texts : ∀ key ∈ ["DbdeployerVersion", "updated_on"], valuesOf members key = valuesOf members' key
  tarballs : List.Forall₂ AlikeLists (valuesOf members "Tarballs") (valuesOf members' "Tarballs")

/-- The record gives two values to a key of a catalog, or a record among its
tarballs does to a key of a tarball. -/
def Repeats (members : List (String × Json)) : Prop :=
  (∃ key ∈ keys, 1 < (valuesOf members key).length) ∨
    ∃ items fields, ("Tarballs", .list items) ∈ members ∧ .record fields ∈ items ∧
      ∃ key ∈ Tarball.keys, 1 < (valuesOf fields key).length

theorem exists_givenBy (h : Typed members) : ∃ c : Catalog, c.GivenBy members := by
  have htarballs : ∀ {items : List Json},
      (∀ item ∈ items, ∃ fields, item = .record fields ∧ Tarball.Typed fields) →
      ∃ l : List Tarball, List.Forall₂ (fun item t => Tarball.WrittenAs t item) items l := by
    intro items hitems
    induction items with
    | nil => exact ⟨[], .nil⟩
    | cons item items ih =>
      obtain ⟨⟨fields, rfl, htyped⟩, hrest⟩ := List.forall_mem_cons.1 hitems
      obtain ⟨t, ht⟩ := Tarball.exists_givenBy htyped
      obtain ⟨l, hl⟩ := ih hrest
      exact ⟨t :: l, .cons (.record ht) hl⟩
  obtain ⟨version, hversion⟩ := exists_gives "" (h.texts "DbdeployerVersion" (by decide))
  obtain ⟨updated, hupdated⟩ := exists_gives "" (h.texts "updated_on" (by decide))
  obtain ⟨tarballs, hgiven⟩ :
      ∃ l, Gives members "Tarballs" (fun v l => Tarball.ListedAs l v) [] l := by
    refine exists_gives [] (h.tarballs.imp_right ?_)
    rintro ⟨v, hv, items, hitems, htyped⟩
    obtain ⟨l, hl⟩ := htarballs htyped
    exact ⟨v, hv, l, items, hitems, hl⟩
  exact ⟨⟨version, updated, tarballs⟩, hversion, hupdated, hgiven⟩

theorem asList?_congr {v w : Json} (h : AlikeLists v w) :
    asList? Tarball.ofJson? v = asList? Tarball.ofJson? w := by
  cases h with
  | refl => rfl
  | @list items items' h =>
    show items.mapM Tarball.ofJson? = items'.mapM Tarball.ofJson?
    induction h with
    | nil => rfl
    | cons hitem _ ih => rw [List.mapM_cons, List.mapM_cons, Tarball.ofJson?_congr hitem, ih]

theorem ofJson?_congr (h : Alike members members') :
    ofJson? (.record members) = ofJson? (.record members') := by
  refine Option.ext fun c => ?_
  have htexts : ∀ key ∈ ["DbdeployerVersion", "updated_on"], ∀ s : String,
      Gives members key (fun v s => v = .text s) "" s ↔
        Gives members' key (fun v s => v = .text s) "" s :=
    fun key hkey s => gives_congr (h.texts key hkey)
  have hlisted : ∀ v w, AlikeLists v w → ∀ l, Tarball.ListedAs l v ↔ Tarball.ListedAs l w := by
    intro v w hvw l
    rw [← Tarball.asList?_eq_some_iff, ← Tarball.asList?_eq_some_iff, asList?_congr hvw]
  have htarballs : Gives members "Tarballs" (fun v l => Tarball.ListedAs l v) [] c.tarballs ↔
      Gives members' "Tarballs" (fun v l => Tarball.ListedAs l v) [] c.tarballs :=
    gives_congr_values (h.tarballs.imp hlisted)
  rw [ofJson?_record, ofJson?_record]
  constructor
  · rintro ⟨hversion, hupdated, hgiven⟩
    exact ⟨(htexts _ (by decide) _).1 hversion, (htexts _ (by decide) _).1 hupdated,
      htarballs.1 hgiven⟩
  · rintro ⟨hversion, hupdated, hgiven⟩
    exact ⟨(htexts _ (by decide) _).2 hversion, (htexts _ (by decide) _).2 hupdated,
      htarballs.2 hgiven⟩

theorem exists_of_forall₂ {items : List Json} {l : List Tarball}
    (h : List.Forall₂ (fun item t => Tarball.WrittenAs t item) items l) {item : Json}
    (hitem : item ∈ items) :
    ∃ t : Tarball, t.WrittenAs item := by
  induction h with
  | nil => exact nomatch hitem
  | cons hhead _ ih =>
    rcases List.mem_cons.1 hitem with rfl | hrest
    · exact ⟨_, hhead⟩
    · exact ih hrest

theorem not_givenBy (h : Repeats members) (c : Catalog) : ¬ c.GivenBy members := by
  intro hgiven
  rcases h with ⟨key, hkey, htwice⟩ | ⟨items, fields, hmember, hfields, key, hkey, htwice⟩
  · have honce := hgiven.once key hkey
    omega
  · have hitems : Json.list items ∈ valuesOf members "Tarballs" :=
      List.mem_map.2 ⟨_, List.mem_filter.2 ⟨hmember, by simp⟩, rfl⟩
    rcases hgiven.tarballs with ⟨v, hv, items', rfl, hwritten⟩ | ⟨hnone, -⟩
    · rw [hv, List.mem_singleton, Json.list.injEq] at hitems
      subst hitems
      obtain ⟨t, ht⟩ := exists_of_forall₂ hwritten hfields
      cases ht with
      | record hrecord => exact Tarball.not_givenBy hkey htwice t hrecord
    · rw [hnone] at hitems
      exact nomatch hitems

end Catalog

namespace CatalogFile

variable {f : CatalogFile} {m : Machine}

/-- What is loaded from a file that is there. -/
theorem result_load {document : List UInt8} (h : m.disk.read f.path = .ok document) :
    (f.load.run m).1.result =
      (Catalog.ofBytes? document).elim (.error (.corruptDocument f.path)) .ok := by
  have hsee : (see Disk.read f.path).Runs m document m := runs_see.2 ⟨h, rfl⟩
  unfold load
  rw [(isThere_runs h).result_bind, if_pos rfl, hsee.result_bind]
  cases Catalog.ofBytes? document <;> rfl

/-- What is loaded from a file with a JSON text is up to what the text says. -/
theorem result_load_text {text : String} (htext : Says text (.record members))
    (hread : m.disk.read f.path = .ok (Text.Utf8.bytes text)) :
    (f.load.run m).1.result =
      (Catalog.ofJson? (.record members)).elim (.error (.corruptDocument f.path)) .ok := by
  rw [result_load hread, Catalog.ofBytes?, ofBytes?_text htext]
  rfl

/-- **What is loaded from a file with a JSON text.** A text that says a record
is loaded as the catalog which the record gives, and as nothing else. It gives
one if all known keys that it has stand there once and with a value of their
kind. Texts that give the same for the known keys are loaded alike, whatever
their white space, the order of their keys and their unknown members are. A text
that gives two values to a known key is refused. -/
theorem load_text (f : CatalogFile) (m : Machine) (text : String) (members : List (String × Json))
    (htext : Says text (.record members))
    (hread : m.disk.read f.path = .ok (Text.Utf8.bytes text)) :
    (∀ c, (f.load.run m).1.result = .ok c ↔ c.GivenBy members) ∧
    (Catalog.Typed members → ∃ c, (f.load.run m).1.result = .ok c) ∧
    (∀ (m' : Machine) (text' : String) (members' : List (String × Json)),
      Says text' (.record members') →
      m'.disk.read f.path = .ok (Text.Utf8.bytes text') → Catalog.Alike members members' →
      (f.load.run m').1.result = (f.load.run m).1.result) ∧
    (Catalog.Repeats members → (f.load.run m).1.result = .error (.corruptDocument f.path)) := by
  have hload := result_load_text htext hread
  have hgiven : ∀ c, (f.load.run m).1.result = .ok c ↔ c.GivenBy members := by
    intro c
    rw [hload, ← Catalog.ofJson?_record]
    cases Catalog.ofJson? (.record members) <;> simp
  refine ⟨hgiven, fun htyped => ?_, fun m' text' members' htext' hread' halike => ?_,
    fun hrepeats => ?_⟩
  · obtain ⟨c, hc⟩ := Catalog.exists_givenBy htyped
    exact ⟨c, (hgiven c).2 hc⟩
  · rw [hload, result_load_text htext' hread', Catalog.ofJson?_congr halike]
  · have hnone : Catalog.ofJson? (.record members) = none :=
      Option.eq_none_iff_forall_ne_some.2 fun c hc =>
        Catalog.not_givenBy hrepeats c (Catalog.ofJson?_record.1 hc)
    rw [hload, hnone]
    rfl

/-- A document as an editor may leave it, with white space, an escape, an unknown
key and the keys in another order, and one that dates the catalog twice. -/
theorem load_text_edited :
    let f : CatalogFile := ⟨⟨"t.json"⟩⟩
    let holding := fun text : String =>
      (⟨⟨[(["t.json"], .file (Text.Utf8.bytes text) 0o644)]⟩, [], []⟩ : Machine)
    let edited := "\x7b \"x\" : [null,\x7b\"Tarballs\":-1.5e3\x7d],\n" ++
      "\"Tarballs\":[\x7b\"size\":7 ,\"OS\":\"\\u006cinux\"\x7d],\"updated_on\":\"2024-06-01\"\x7d\n"
    let twice :=
      (Json.record [("updated_on", .text "2024-06-01"), ("updated_on", .text "2024-06-02")]).pretty
    (f.load.run (holding edited)).1.result =
        .ok { updatedOn := "2024-06-01", tarballs := [{ os := "linux", size := 7 }] } ∧
      (f.load.run (holding twice)).1.result = .error (.corruptDocument f.path) := by
  intro f holding edited twice
  have bare : ∀ {s : List Char} {v : Json}, Spells s v → Spaced ([] ++ (s ++ [])) v :=
    fun h => .spaced isSpace_nil h isSpace_nil
  have key : ∀ k : String, SpacedKey ([] ++ (stringText k ++ [])) (some k) :=
    fun k => .spaced isSpace_nil (quoted_stringText k) isSpace_nil
  have hnumber := Numeral.broken (.inr rfl) 1 (.some (by decide : IsDigits ['5']))
    (.some (.inl rfl) (.inl rfl) (by decide : IsDigits ['3'])) (by simp)
  have hnested :=
    @Spells.members _ [("Tarballs", unusable)] (.last (key "Tarballs") (bare (.numeral hnumber)))
  have hunits : "linux".toList.flatMap codeUnits =
      (4096 * 0 + 256 * 0 + 16 * 6 + 12) :: "inux".toList.flatMap codeUnits := by decide +kernel
  have hlinux := hunits ▸ Literal.unit (by decide : IsHexDigit '0' 0) (by decide : IsHexDigit '0' 0)
    (by decide : IsHexDigit '6' 6) (by decide : IsHexDigit 'c' 12) (literal_escaped "inux".toList)
  have hfields := @Spells.members _ [("size", .number 7), ("OS", .text "linux")]
    (.more (key "size") (.spaced isSpace_nil (.numeral (.whole 7)) isSpace_blank)
      (.last (key "OS") (bare (.text (.text hlinux)))))
  have hdocument := @Spells.members _
    [("x", .list [.unusable, .record [("Tarballs", .unusable)]]),
      ("Tarballs", .list [.record [("size", .number 7), ("OS", .text "linux")]]),
      ("updated_on", .text "2024-06-01")]
    (.more (.spaced isSpace_blank (quoted_stringText "x") isSpace_blank)
      (.spaced isSpace_blank (.items (.more (bare .null) (.last (bare hnested)))) isSpace_nil)
      (.more (.spaced (isSpace_newLine 0) (quoted_stringText "Tarballs") isSpace_nil)
        (bare (.items (.last (bare hfields))))
        (.last (key "updated_on") (bare (.text (quoted_stringText "2024-06-01"))))))
  have hsaid : Says edited _ :=
    (Spaced.spaced isSpace_nil hdocument (isSpace_newLine 0)).toSays (by decide +kernel)
  have hedited : (holding edited).disk.read f.path = .ok (Text.Utf8.bytes edited) := by
    decide +kernel
  have htwice : (holding twice).disk.read f.path = .ok (Text.Utf8.bytes twice) := by decide +kernel
  obtain ⟨hgiven, -⟩ := load_text f (holding edited) edited _ hsaid hedited
  obtain ⟨-, -, -, hrepeats⟩ := load_text f (holding twice) twice _ (says_pretty _) htwice
  refine ⟨(hgiven _).2 ⟨?_, ?_, ?_⟩, hrepeats (.inl ⟨"updated_on", by decide, by decide⟩)⟩
  · exact .inr ⟨by decide, rfl⟩
  · exact .inl ⟨_, rfl, rfl⟩
  · refine .inl ⟨_, rfl, _, rfl, .cons (.record ⟨?_, ?_, ?_⟩) .nil⟩
    · simp [Tarball.textFields, Gives, valuesOf]
    · exact .inr ⟨rfl, rfl⟩
    · exact .inl ⟨_, rfl, rfl⟩

end CatalogFile

end ReleaseCatalog
