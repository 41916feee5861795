import Mathlib.Data.List.Forall2
import ReleaseCatalog.Proofs.Document

/-!
# What a record gives

Exactly when a record is read as a tarball or a catalog, and as which one: each
field has the one value that the record gives for its key, or its default where
the record gives none. Nothing else of the record counts, neither the order of
the keys nor the members with other keys.

* `Json.valuesOf`: all that a record gives for a key. `Json.Gives`: one value or none.
* `Json.get?_eq_some_iff`: a field is read if its key is given once at most.
* `Tarball.ofJson?_record`, `Tarball.ofJson?_eq_some_iff`: what is read as a tarball.
* `Catalog.ofJson?_record`: what is read as a catalog.
-/

namespace ReleaseCatalog

namespace Json

variable {α : Type} {members members' : List (String × Json)} {key : String}

/-- The values that stand behind a key in a record, in their order. -/
def valuesOf (members : List (String × Json)) (key : String) : List Json :=
  (members.filter (·.1 = key)).map (·.2)

/-- The record gives this for a key: it has one value for it, which stands for
this, or it has none and this is the default. -/
def Gives (members : List (String × Json)) (key : String) (stands : Json → α → Prop)
    (default a : α) :
    Prop :=
  (∃ v, valuesOf members key = [v] ∧ stands v a) ∨ (valuesOf members key = [] ∧ a = default)

theorem Gives.length_le {stands : Json → α → Prop} {default a : α}
    (h : Gives members key stands default a) :
    (valuesOf members key).length ≤ 1 := by
  rcases h with ⟨v, hv, -⟩ | ⟨hnone, -⟩
  · rw [hv]; exact Nat.le_refl 1
  · rw [hnone]; exact Nat.zero_le 1

theorem gives_congr (h : valuesOf members key = valuesOf members' key) {stands : Json → α → Prop}
    {default a : α} : Gives members key stands default a ↔ Gives members' key stands default a := by
  unfold Gives
  rw [h]

theorem count_key : (members.map (·.1)).count key = (valuesOf members key).length := by
  unfold valuesOf
  rw [List.length_map, List.count, List.countP_map, List.countP_eq_length_filter]
  congr 2

theorem lookup_key : members.lookup key = (valuesOf members key).head? := by
  unfold valuesOf
  induction members with
  | nil => rfl
  | cons m members ih =>
    obtain ⟨k, v⟩ := m
    by_cases hk : k = key
    · simp [hk]
    · have hne : (key == k) = false := beq_eq_false_iff_ne.2 (Ne.symm hk)
      simp [List.lookup_cons, hk, hne, ih]

/-- The fields of a structure can be read if the record has no key of them twice. -/
theorem fields?_record_eq_some_iff {keys : List String} {given : Given} :
    fields? keys (record members) = some given ↔
      (∀ key ∈ keys, (valuesOf members key).length ≤ 1) ∧
      given = fun key => (valuesOf members key).head? := by
  have honce : (keys.all fun k => (members.map (·.1)).count k ≤ 1) = true ↔
      ∀ key ∈ keys, (valuesOf members key).length ≤ 1 := by
    simp only [List.all_eq_true, decide_eq_true_eq, count_key]
  unfold fields?
  simp only [honce, lookup_key, Option.ite_none_right_eq_some, Option.some.injEq]
  exact and_congr_right fun _ => eq_comm

theorem zip_keys_sublist :
    ∀ (keys : List String) (values : List Json), ((keys.zip values).map (·.1)).Sublist keys
  | [], _ => List.nil_sublist _
  | _ :: _, [] => List.nil_sublist _
  | key :: keys, _ :: values => (zip_keys_sublist keys values).cons_cons key

/-- A list gives each field of a structure the value at its place. -/
theorem fields?_list {keys : List String} (hkeys : keys.Nodup) (values : List Json) :
    fields? keys (list values) =
      if values.length ≤ keys.length then fields? keys (record (keys.zip values)) else none := by
  rw [fields?_record ((zip_keys_sublist keys values).nodup hkeys)]
  rfl

/-- **A field is read as what the record gives for its key.** -/
theorem get?_eq_some_iff {read? : Json → Option α} {stands : Json → α → Prop}
    (hread : ∀ v a, read? v = some a ↔ stands v a) (honce : (valuesOf members key).length ≤ 1)
    {default a : α} :
    Given.get? (fun key => (valuesOf members key).head?) key read? default = some a ↔
      Gives members key stands default a := by
  unfold Gives
  rw [get?_eq]
  match valuesOf members key, honce with
  | [], _ => simp [eq_comm]
  | [v], _ => simp [hread]

theorem asText?_eq_some_iff (v : Json) (s : String) : asText? v = some s ↔ v = text s := by
  cases v <;> simp [asText?]

theorem asBool?_eq_some_iff (v : Json) (b : Bool) : asBool? v = some b ↔ v = bool b := by
  cases v <;> simp [asBool?]

theorem asInt64?_eq_some_iff (v : Json) (n : Int64) : asInt64? v = some n ↔ v = number n.toInt := by
  constructor
  · intro h
    cases v with
    | number i =>
      obtain ⟨⟨hmin, hmax⟩, hn⟩ := Option.ite_none_right_eq_some.1 h
      rw [← Option.some.inj hn, Int64.toInt_ofInt_of_le hmin (Int.lt_add_one_of_le hmax)]
    | _ => exact nomatch h
  · rintro rfl
    exact asInt64?_number n

theorem mapM_eq_some_iff {item? : Json → Option α} {items : List Json} {l : List α} :
    items.mapM item? = some l ↔ List.Forall₂ (fun item a => item? item = some a) items l := by
  induction items generalizing l with
  | nil => cases l <;> simp
  | cons item items ih =>
    simp only [List.mapM_cons, Option.bind_eq_bind, Option.bind_eq_some_iff, Option.pure_def,
      Option.some.injEq, ih, List.forall₂_cons_left_iff]
    constructor
    · rintro ⟨a, ha, l', hl', rfl⟩
      exact ⟨a, l', ha, hl', rfl⟩
    · rintro ⟨a, l', ha, hl', rfl⟩
      exact ⟨a, ha, l', hl', rfl⟩

theorem asList?_eq_some_iff (item? : Json → Option α) (v : Json) (l : List α) :
    asList? item? v = some l ↔
      ∃ items, v = list items ∧ List.Forall₂ (fun item a => item? item = some a) items l := by
  cases v <;> simp [asList?, mapM_eq_some_iff]

end Json

open Json

namespace Tarball

variable {members : List (String × Json)} {t : Tarball}

/-- The fields of a tarball that hold a text, each behind its key. -/
def textFields : List (String × (Tarball → String)) :=
  [("name", name), ("checksum", checksum), ("OS", os), ("arch", arch), ("url", url),
    ("flavor", flavor), ("short_version", shortVersion), ("version", version),
    ("updated_by", updatedBy), ("notes", notes), ("date_added", dateAdded)]

/-- The record gives this tarball. What it does not give is empty, and a size is
zero then. -/
structure GivenBy (t : Tarball) (members : List (String × Json)) : Prop where
  texts : ∀ field ∈ textFields, Gives members field.1 (fun v s => v = .text s) "" (field.2 t)
  minimal : Gives members "minimal" (fun v b => v = .bool b) false t.minimal
  size : Gives members "size" (fun v n => v = .number n.toInt) 0 t.size

theorem keys_eq : keys.Perm (textFields.map (·.1) ++ ["minimal", "size"]) := by decide

theorem GivenBy.once (h : t.GivenBy members) : ∀ key ∈ keys, (valuesOf members key).length ≤ 1 := by
  intro key hkey
  rcases List.mem_append.1 (keys_eq.mem_iff.1 hkey) with hkey | hkey
  · obtain ⟨field, hfield, rfl⟩ := List.mem_map.1 hkey
    exact (h.texts field hfield).length_le
  · simp only [List.mem_cons, List.not_mem_nil, or_false] at hkey
    rcases hkey with rfl | rfl
    · exact h.minimal.length_le
    · exact h.size.length_le

theorem GivenBy.get?_text (h : t.GivenBy members) : ∀ field ∈ textFields,
    Given.get? (fun key => (valuesOf members key).head?) field.1 asText? "" =
      some (field.2 t) := fun field hfield =>
  (get?_eq_some_iff asText?_eq_some_iff (h.texts field hfield).length_le).2 (h.texts field hfield)

/-- What was read as a tarball is the one that the record gives. -/
theorem givenBy_of_ofJson? (h : ofJson? (.record members) = some t) : t.GivenBy members := by
  obtain ⟨given, hgiven, h⟩ := Option.bind_eq_some_iff.1 h
  obtain ⟨honce, rfl⟩ := fields?_record_eq_some_iff.1 hgiven
  obtain ⟨name, hname, h⟩ := Option.bind_eq_some_iff.1 h
  obtain ⟨checksum, hchecksum, h⟩ := Option.bind_eq_some_iff.1 h
  obtain ⟨os, hos, h⟩ := Option.bind_eq_some_iff.1 h
  obtain ⟨arch, harch, h⟩ := Option.bind_eq_some_iff.1 h
  obtain ⟨url, hurl, h⟩ := Option.bind_eq_some_iff.1 h
  obtain ⟨flavor, hflavor, h⟩ := Option.bind_eq_some_iff.1 h
  obtain ⟨minimal, hminimal, h⟩ := Option.bind_eq_some_iff.1 h
  obtain ⟨size, hsize, h⟩ := Option.bind_eq_some_iff.1 h
  obtain ⟨short, hshort, h⟩ := Option.bind_eq_some_iff.1 h
  obtain ⟨version, hversion, h⟩ := Option.bind_eq_some_iff.1 h
  obtain ⟨updated, hupdated, h⟩ := Option.bind_eq_some_iff.1 h
  obtain ⟨notes, hnotes, h⟩ := Option.bind_eq_some_iff.1 h
  obtain ⟨date, hdate, h⟩ := Option.bind_eq_some_iff.1 h
  obtain rfl := Option.some.inj h
  have htext : ∀ {key value : String}, key ∈ keys →
      Given.get? (fun key => (valuesOf members key).head?) key asText? "" = some value →
      Gives members key (fun v s => v = .text s) "" value :=
    fun hkey hget => (get?_eq_some_iff asText?_eq_some_iff (honce _ hkey)).1 hget
  constructor
  · simp only [textFields, List.forall_mem_cons]
    exact ⟨htext (by decide) hname, htext (by decide) hchecksum, htext (by decide) hos,
      htext (by decide) harch, htext (by decide) hurl, htext (by decide) hflavor,
      htext (by decide) hshort, htext (by decide) hversion, htext (by decide) hupdated,
      htext (by decide) hnotes, htext (by decide) hdate, nofun⟩
  · exact (get?_eq_some_iff asBool?_eq_some_iff (honce _ (by decide))).1 hminimal
  · exact (get?_eq_some_iff asInt64?_eq_some_iff (honce _ (by decide))).1 hsize

/-- The tarball that a record gives is read from it. -/
theorem GivenBy.ofJson? (h : t.GivenBy members) : Tarball.ofJson? (.record members) = some t := by
  have honce := h.once
  have htext := h.get?_text
  simp only [textFields, List.forall_mem_cons] at htext
  obtain ⟨hname, hchecksum, hos, harch, hurl, hflavor, hshort, hversion, hupdated, hnotes,
      hdate, -⟩ := htext
  have hminimal := (get?_eq_some_iff asBool?_eq_some_iff (honce _ (by decide))).2 h.minimal
  have hsize := (get?_eq_some_iff asInt64?_eq_some_iff (honce _ (by decide))).2 h.size
  refine Option.bind_eq_some_iff.2 ⟨_, fields?_record_eq_some_iff.2 ⟨honce, rfl⟩, ?_⟩
  refine Option.bind_eq_some_iff.2 ⟨_, hname, ?_⟩
  refine Option.bind_eq_some_iff.2 ⟨_, hchecksum, ?_⟩
  refine Option.bind_eq_some_iff.2 ⟨_, hos, ?_⟩
  refine Option.bind_eq_some_iff.2 ⟨_, harch, ?_⟩
  refine Option.bind_eq_some_iff.2 ⟨_, hurl, ?_⟩
  refine Option.bind_eq_some_iff.2 ⟨_, hflavor, ?_⟩
  refine Option.bind_eq_some_iff.2 ⟨_, hminimal, ?_⟩
  refine Option.bind_eq_some_iff.2 ⟨_, hsize, ?_⟩
  refine Option.bind_eq_some_iff.2 ⟨_, hshort, ?_⟩
  refine Option.bind_eq_some_iff.2 ⟨_, hversion, ?_⟩
  refine Option.bind_eq_some_iff.2 ⟨_, hupdated, ?_⟩
  refine Option.bind_eq_some_iff.2 ⟨_, hnotes, ?_⟩
  refine Option.bind_eq_some_iff.2 ⟨_, hdate, ?_⟩
  rfl

/-- **A record is read as the tarball that it gives**, and as no other. -/
theorem ofJson?_record : ofJson? (.record members) = some t ↔ t.GivenBy members :=
  ⟨givenBy_of_ofJson?, GivenBy.ofJson?⟩

/-- The tarball as a value: a record that gives it, or the list of its fields'
values, of which some may be missing at the end. -/
inductive WrittenAs (t : Tarball) : Json → Prop where
  | record {members : List (String × Json)} (h : t.GivenBy members) : t.WrittenAs (.record members)
  | list {values : List Json} (hlength : values.length ≤ keys.length)
      (h : t.GivenBy (keys.zip values)) :
      t.WrittenAs (.list values)

theorem ofJson?_list (values : List Json) :
    ofJson? (.list values) =
      if values.length ≤ keys.length then ofJson? (.record (keys.zip values)) else none := by
  unfold ofJson?
  rw [fields?_list (by decide)]
  split <;> rfl

/-- **What is read as a tarball.** -/
theorem ofJson?_eq_some_iff {v : Json} : ofJson? v = some t ↔ t.WrittenAs v := by
  cases v with
  | record members => exact ofJson?_record.trans ⟨.record, fun | .record h => h⟩
  | list values =>
    rw [ofJson?_list, Option.ite_none_right_eq_some, ofJson?_record]
    exact ⟨fun ⟨hlength, h⟩ => .list hlength h, fun | .list hlength h => ⟨hlength, h⟩⟩
  | _ => exact iff_of_false nofun nofun

/-- The tarballs as a value: the list of them, in their order. -/
def ListedAs (tarballs : List Tarball) (v : Json) : Prop :=
  ∃ items, v = .list items ∧ List.Forall₂ (fun item t => WrittenAs t item) items tarballs

theorem asList?_eq_some_iff (v : Json) (tarballs : List Tarball) :
    asList? ofJson? v = some tarballs ↔ ListedAs tarballs v := by
  simp only [Json.asList?_eq_some_iff, ofJson?_eq_some_iff, ListedAs]

end Tarball

namespace Catalog

variable {members : List (String × Json)} {c : Catalog}

/-- The record gives this catalog. What it does not give is empty. -/
structure GivenBy (c : Catalog) (members : List (String × Json)) : Prop where
  schemaVersion : Gives members "DbdeployerVersion" (fun v s => v = .text s) "" c.schemaVersion
  updatedOn : Gives members "updated_on" (fun v s => v = .text s) "" c.updatedOn
  tarballs : Gives members "Tarballs" (fun v l => Tarball.ListedAs l v) [] c.tarballs

theorem GivenBy.once (h : c.GivenBy members) : ∀ key ∈ keys, (valuesOf members key).length ≤ 1 := by
  simp only [keys, List.forall_mem_cons]
  exact ⟨h.schemaVersion.length_le, h.updatedOn.length_le, h.tarballs.length_le, nofun⟩

/-- **A record is read as the catalog that it gives**, and as no other. -/
theorem ofJson?_record : ofJson? (.record members) = some c ↔ c.GivenBy members := by
  constructor
  · intro h
    obtain ⟨given, hgiven, h⟩ := Option.bind_eq_some_iff.1 h
    obtain ⟨honce, rfl⟩ := fields?_record_eq_some_iff.1 hgiven
    obtain ⟨version, hversion, h⟩ := Option.bind_eq_some_iff.1 h
    obtain ⟨updated, hupdated, h⟩ := Option.bind_eq_some_iff.1 h
    obtain ⟨tarballs, htarballs, h⟩ := Option.bind_eq_some_iff.1 h
    obtain rfl := Option.some.inj h
    exact ⟨(get?_eq_some_iff asText?_eq_some_iff (honce _ (by decide))).1 hversion,
      (get?_eq_some_iff asText?_eq_some_iff (honce _ (by decide))).1 hupdated,
      (get?_eq_some_iff Tarball.asList?_eq_some_iff (honce _ (by decide))).1 htarballs⟩
  · intro h
    have hversion :=
      (get?_eq_some_iff asText?_eq_some_iff h.schemaVersion.length_le).2 h.schemaVersion
    have hupdated := (get?_eq_some_iff asText?_eq_some_iff h.updatedOn.length_le).2 h.updatedOn
    have htarballs :=
      (get?_eq_some_iff Tarball.asList?_eq_some_iff h.tarballs.length_le).2 h.tarballs
    refine Option.bind_eq_some_iff.2 ⟨_, fields?_record_eq_some_iff.2 ⟨h.once, rfl⟩, ?_⟩
    refine Option.bind_eq_some_iff.2 ⟨_, hversion, ?_⟩
    refine Option.bind_eq_some_iff.2 ⟨_, hupdated, ?_⟩
    refine Option.bind_eq_some_iff.2 ⟨_, htarballs, ?_⟩
    rfl

end Catalog

end ReleaseCatalog
