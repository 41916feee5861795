import Mathlib.Data.List.Basic
import Mathlib.Data.List.TakeWhile
import ReleaseCatalog.Proofs.Dict
import ReleaseCatalog.Proofs.Outcome
import ReleaseCatalog.Proofs.Text.Encoding
import ReleaseCatalog.Proofs.Text.Search
import ReleaseCatalog.Template

/-!
# Where the fields of a template are

A template is divided at its fields from left to right: each one is the first
that starts behind the field before it. `Divided` says so without a scanner, and
filling puts a value in place of each field and keeps everything between.

* `IsField`: how a field is written; `field?_eq_some_iff`: the reader finds
  exactly that.
* `exists_divided`: every text is divided, and `partsFrom_of_divided`: the
  scanner finds the parts of a division.
* `fill_ok_iff`, `fill_error_iff`: when a template can be filled, and the error
  otherwise.
* `fill_divided`: the filled template, for every template and all values.
-/

namespace ReleaseCatalog.Template

open Text

variable {s rest last text : List Char} {name template : String} {data data' : Dict String}

/-! ### The text of a field -/

/-- A name starts with a letter or an underscore, and goes on with those and
digits. -/
def IsName (name : List Char) : Prop :=
  (∃ c ∈ name.head?, isNameStart c = true) ∧ ∀ c ∈ name, isNameChar c = true

/-- The text is a field of that name: the name behind a dot between double
braces, with blanks inside the braces or none. -/
def IsField (text : List Char) (name : String) : Prop :=
  IsName name.toList ∧ ∃ left right : List Char, (∀ c ∈ left, isBlank c = true) ∧
    (∀ c ∈ right, isBlank c = true) ∧
    text = ['{', '{'] ++ (left ++ (['.'] ++ (name.toList ++ (right ++ ['}', '}']))))

/-- A field stands at the front of the text. -/
def StartsWithField (s : List Char) : Prop := ∃ text name, IsField text name ∧ text <+: s

theorem toNat_of_isNameChar {c : Char} (h : isNameChar c = true) :
    0x30 ≤ c.toNat ∧ c.toNat ≤ 0x7A := by
  have hclasses : (((decide ('A'.val ≤ c.val ∧ c.val ≤ 'Z'.val) ||
      (decide ('a'.val ≤ c.val) && decide (c.val ≤ 'z'.val))) || decide (c = '_')) ||
      (decide ('0' ≤ c) && decide (c ≤ '9'))) = true := h
  simp only [Bool.or_eq_true, Bool.and_eq_true, decide_eq_true_eq, UInt32.le_iff_toNat_le,
    Char.le_def] at hclasses
  rcases hclasses with ((hupper | hlower) | rfl) | hdigit
  · exact ⟨Nat.le_trans (by decide) hupper.1, Nat.le_trans hupper.2 (by decide)⟩
  · exact ⟨Nat.le_trans (by decide) hlower.1, Nat.le_trans hlower.2 (by decide)⟩
  · decide
  · exact ⟨Nat.le_trans (by decide) hdigit.1, Nat.le_trans hdigit.2 (by decide)⟩

theorem isBlank_of_isNameChar {c : Char} (h : isNameChar c = true) : isBlank c = false := by
  have hcode := toNat_of_isNameChar h
  have hapart : ∀ r ∈ blankRanges, r.2 < 0x30 ∨ 0x7A < r.1 := by decide
  rw [Bool.eq_false_iff]
  intro hblank
  obtain ⟨r, hr, hin⟩ := inRanges_iff.1 hblank
  have := hapart r hr
  omega

/-- What follows a name is a blank or a brace, so the name is read to its end. -/
theorem not_isNameChar_of_head? {right : List Char} (hright : ∀ c ∈ right, isBlank c = true)
    (rest : List Char) :
    ∀ c ∈ (right ++ ['}', '}'] ++ rest).head?, isNameChar c = false := by
  intro c hc
  cases right with
  | nil =>
    obtain rfl : '}' = c := Option.some.inj hc
    decide
  | cons b right =>
    obtain rfl : b = c := Option.some.inj hc
    rw [Bool.eq_false_iff]
    intro hname
    have hblank := hright b List.mem_cons_self
    rw [isBlank_of_isNameChar hname] at hblank
    exact nomatch hblank

theorem isNameStart_iff {name : List Char} :
    (name.head?.map isNameStart).getD false = true ↔ ∃ c ∈ name.head?, isNameStart c = true := by
  cases name <;> simp

/-- **The reader of a field finds what is written as one**, with its name and
what follows it. -/
theorem field?_eq_some_iff {name : List Char} :
    field? s = some (name, rest) ↔
      ∃ text, IsField text (String.ofList name) ∧ s = text ++ rest := by
  unfold field? IsField trimStart
  simp only [Option.bind_eq_bind, Option.bind_eq_some_iff, String.toList_ofList]
  constructor
  · rintro ⟨inner, hinner, dotted, hdotted, h⟩
    rw [after?_eq_some_iff] at hinner hdotted
    split at h
    · rename_i hstart
      obtain ⟨rest', hrest, h⟩ := Option.bind_eq_some_iff.1 h
      obtain ⟨rfl, rfl⟩ := Prod.mk.inj (Option.some.inj h)
      rw [after?_eq_some_iff] at hrest
      refine ⟨_, ⟨⟨isNameStart_iff.1 hstart, fun c hc => List.mem_takeWhile_imp hc⟩,
        inner.takeWhile isBlank, (dotted.dropWhile isNameChar).takeWhile isBlank,
        fun c hc => List.mem_takeWhile_imp hc, fun c hc => List.mem_takeWhile_imp hc, rfl⟩, ?_⟩
      -- put together again what each reader took
      simp only [List.append_assoc]
      rw [← hrest, List.takeWhile_append_dropWhile, List.takeWhile_append_dropWhile, ← hdotted,
        List.takeWhile_append_dropWhile, hinner]
    · exact nomatch h
  · rintro ⟨text, ⟨⟨hstart, hname⟩, left, right, hleft, hright, rfl⟩, rfl⟩
    have hdot : ∀ c ∈ (['.'] ++ (name ++ (right ++ (['}', '}'] ++ rest)))).head?,
        isBlank c = false := by
      intro c hc
      obtain rfl : '.' = c := Option.some.inj hc
      decide
    have hclose : ∀ c ∈ (['}', '}'] ++ rest).head?, isBlank c = false := by
      intro c hc
      obtain rfl : '}' = c := Option.some.inj hc
      decide
    have hend := not_isNameChar_of_head? hright rest
    rw [List.append_assoc] at hend
    simp only [List.append_assoc]
    refine ⟨_, after?_eq_some_iff.2 rfl, _, after?_eq_some_iff.2 (dropWhile_run hleft hdot), ?_⟩
    rw [takeWhile_run hname hend, dropWhile_run hname hend, dropWhile_run hright hclose,
      if_pos (isNameStart_iff.2 hstart), after?_eq_some_iff.2 rfl]
    rfl

theorem field?_eq_none_iff : field? s = none ↔ ¬ StartsWithField s := by
  rw [Option.eq_none_iff_forall_not_mem]
  constructor
  · rintro hnone ⟨text, name, hfield, rest, rfl⟩
    refine hnone (name.toList, rest) (field?_eq_some_iff.2 ⟨text, ?_, rfl⟩)
    rwa [String.ofList_toList]
  · rintro hno ⟨name, rest⟩ hsome
    obtain ⟨text, hfield, rfl⟩ := field?_eq_some_iff.1 hsome
    exact hno ⟨text, String.ofList name, hfield, List.prefix_append text rest⟩

theorem IsField.ne_nil (h : IsField text name) : text ≠ [] := by
  obtain ⟨-, left, right, -, -, rfl⟩ := h
  exact List.cons_ne_nil _ _

/-! ### Division at the fields -/

/-- A field of a template by its name, with the text between it and the field
before. -/
structure Placed where
  front : List Char
  name : String

/-- The text is divided at its fields, into these and the text behind the last
one: in front of a field and behind the one before it no other field starts, and
none does behind the last. -/
inductive Divided : List Char → List Placed → List Char → Prop where
  | last {s : List Char} (h : ∀ t, t <:+ s → ¬ StartsWithField t) : Divided s [] s
  | field {front text rest : List Char} {name : String} {found : List Placed} {last : List Char}
      (hfield : IsField text name)
        (hfirst : ∀ t, t ≠ [] → t <:+ front → ¬ StartsWithField (t ++ (text ++ rest)))
      (hrest : Divided rest found last) :
        Divided (front ++ (text ++ rest)) (⟨front, name⟩ :: found) last

variable {found : List Placed}

/-- A character at which no field starts goes in front of a division. -/
theorem Divided.cons {c : Char} (h : Divided s found last) (hc : ¬ StartsWithField (c :: s)) :
    ∃ found last, Divided (c :: s) found last := by
  cases h with
  | last h =>
    refine ⟨[], c :: s, .last fun t ht => ?_⟩
    rcases List.suffix_cons_iff.1 ht with rfl | ht
    · exact hc
    · exact h t ht
  | @field front text rest name found last hfield hfirst hrest =>
    have hfirst' : ∀ t, t ≠ [] → t <:+ c :: front → ¬ StartsWithField (t ++ (text ++ rest)) := by
      intro t hne ht
      rcases List.suffix_cons_iff.1 ht with rfl | ht
      · exact hc
      · exact hfirst t hne ht
    exact ⟨⟨c :: front, name⟩ :: found, last, .field hfield hfirst' hrest⟩

/-- **Every text is divided at its fields.** -/
theorem exists_divided (s : List Char) : ∃ found last, Divided s found last := by
  induction hn : s.length using Nat.strongRecOn generalizing s with
  | _ n ih =>
    cases hread : field? s with
    | some read =>
      obtain ⟨name, rest⟩ := read
      obtain ⟨text, hfield, rfl⟩ := field?_eq_some_iff.1 hread
      have hshort : rest.length < n := by
        rw [← hn, List.length_append]
        have := List.length_pos_iff.2 hfield.ne_nil
        omega
      obtain ⟨found, last, hrest⟩ := ih rest.length hshort rest rfl
      have hfirst : ∀ t, t ≠ [] → t <:+ [] → ¬ StartsWithField (t ++ (text ++ rest)) :=
        fun t hne ht => absurd (List.suffix_nil.1 ht) hne
      exact ⟨_, _, .field hfield hfirst hrest⟩
    | none =>
      cases s with
      | nil => exact ⟨[], [], .last fun t ht => List.suffix_nil.1 ht ▸ field?_eq_none_iff.1 hread⟩
      | cons c s =>
        obtain ⟨found, last, hrest⟩ := ih s.length (by rw [← hn, List.length_cons]; omega) s rfl
        exact hrest.cons (field?_eq_none_iff.1 hread)

/-- The parts of a field with the text in front of it. -/
def Placed.parts (p : Placed) : List Part := p.front.map .char ++ [.field p.name]

theorem partsFrom_nil (fuel : ℕ) : partsFrom fuel [] = [] := by
  cases fuel <;> rfl

/-- The scanner passes over characters at which no field starts. -/
theorem partsFrom_front {front : List Char} (fuel : ℕ)
    (h : ∀ t, t ≠ [] → t <:+ front → ¬ StartsWithField (t ++ s)) :
    partsFrom (front.length + fuel) (front ++ s) = front.map .char ++ partsFrom fuel s := by
  induction front with
  | nil => rw [List.length_nil, Nat.zero_add]; rfl
  | cons c front ih =>
    have hnone : field? (c :: (front ++ s)) = none :=
      field?_eq_none_iff.2 (h (c :: front) (List.cons_ne_nil _ _) (List.suffix_refl _))
    have hrest := ih fun t hne ht => h t hne (ht.trans (List.suffix_cons c front))
    rw [List.length_cons, Nat.add_right_comm, List.cons_append, partsFrom, hnone, hrest]
    rfl

/-- The scanner takes a field as a whole. -/
theorem partsFrom_field (h : IsField text name) {fuel : ℕ} :
    partsFrom (fuel + 1) (text ++ rest) = .field name :: partsFrom fuel rest := by
  have hread : field? (text ++ rest) = some (name.toList, rest) :=
    field?_eq_some_iff.2 ⟨text, by rwa [String.ofList_toList], rfl⟩
  cases text with
  | nil => exact absurd rfl h.ne_nil
  | cons c text =>
    rw [List.cons_append] at hread ⊢
    rw [partsFrom, hread]
    show Part.field (String.ofList name.toList) :: _ = _
    rw [String.ofList_toList]

/-- **The scanner finds the parts of a division**, given as many steps as there
are characters. -/
theorem partsFrom_of_divided (h : Divided s found last) {fuel : ℕ} (hfuel : s.length ≤ fuel) :
    partsFrom fuel s = found.flatMap Placed.parts ++ last.map .char := by
  induction h generalizing fuel with
  | @last s h =>
    obtain ⟨more, rfl⟩ := Nat.exists_eq_add_of_le hfuel
    have hplain : ∀ t, t ≠ [] → t <:+ s → ¬ StartsWithField (t ++ []) := by
      intro t _ ht
      rw [List.append_nil]
      exact h t ht
    have hscan := partsFrom_front more hplain
    rw [List.append_nil, partsFrom_nil, List.append_nil] at hscan
    rw [hscan]
    rfl
  | @field front text rest name found last hfield hfirst hrest ih =>
    have htext := List.length_pos_iff.2 hfield.ne_nil
    rw [List.length_append, List.length_append] at hfuel
    obtain ⟨more, rfl⟩ : ∃ more, fuel = front.length + (more + 1) :=
      ⟨fuel - front.length - 1, by omega⟩
    rw [partsFrom_front _ hfirst, partsFrom_field hfield, ih (by omega),
      List.flatMap_cons, Placed.parts]
    simp only [List.append_assoc, List.cons_append, List.nil_append]

theorem parts_of_divided (h : Divided template.toList found last) :
    parts template = found.flatMap Placed.parts ++ last.map .char :=
  partsFrom_of_divided h le_rfl

/-! ### The names of the fields -/

theorem mem_fields_iff {f : String} : f ∈ fields template ↔ .field f ∈ parts template := by
  unfold fields
  rw [Dict.keys, ← Dict.contains_iff, Dict.contains_ofList, decide_eq_true_iff, List.mem_map]
  simp only [List.mem_filterMap]
  constructor
  · rintro ⟨e, ⟨p, hp, he⟩, rfl⟩
    cases p with
    | char c => cases he
    | field name =>
      obtain rfl := Option.some.inj he
      exact hp
  · intro hf
    exact ⟨(f, ()), ⟨.field f, hf, rfl⟩, rfl⟩

theorem mem_fields_of_divided (h : Divided template.toList found last) {f : String} :
    f ∈ fields template ↔ ∃ p ∈ found, p.name = f := by
  rw [mem_fields_iff, parts_of_divided h]
  simp [Placed.parts, eq_comm]

/-- Names are ASCII. -/
theorem utf8Size_of_isNameChar {c : Char} (h : isNameChar c = true) : c.utf8Size = 1 := by
  have hcode := toNat_of_isNameChar h
  rw [Char.utf8Size_eq_one_iff, UInt32.le_iff_toNat_le]
  show c.toNat ≤ 127
  omega

theorem Divided.isName (h : Divided s found last) : ∀ p ∈ found, IsName p.name.toList := by
  induction h with
  | last h => exact fun p hp => nomatch hp
  | field hfield hfirst hrest ih =>
    rintro p (_ | ⟨_, hp⟩)
    · exact hfield.1
    · exact ih p hp

/-- **The names of the fields ascend strictly, byte by byte.** -/
theorem fields_ascend (template : String) :
    (fields template).Pairwise fun f g => Utf8.bytes f < Utf8.bytes g := by
  obtain ⟨found, last, hdivided⟩ := exists_divided template.toList
  have hascii : ∀ f ∈ fields template, ∀ c ∈ f.toList, c.utf8Size = 1 := by
    intro f hf c hc
    obtain ⟨p, hp, rfl⟩ := (mem_fields_of_divided hdivided).1 hf
    exact utf8Size_of_isNameChar ((hdivided.isName p hp).2 c hc)
  refine List.Pairwise.imp_of_mem (fun {f g} hf hg hlt => ?_) (Dict.keys_ordered _)
  exact Utf8.encode_lt (hascii f hf) (hascii g hg) (String.lt_iff.1 hlt)

/-! ### Filling -/

theorem flatMap_filled_char (s : List Char) : (s.map Part.char).flatMap (·.filled data) = s := by
  rw [List.flatMap_map]
  exact List.flatMap_singleton' s

/-- The fields of a template that have no value. -/
def missing (template : String) (data : Dict String) : List String :=
  (fields template).filter fun f => !data.contains f

theorem mem_missing_iff {f : String} :
    f ∈ missing template data ↔ f ∈ fields template ∧ data.get? f = none := by
  unfold missing Dict.contains
  rw [List.mem_filter, Bool.not_eq_true', Option.isSome_eq_false_iff, Option.isNone_iff_eq_none]

theorem missing_eq_nil_iff :
    missing template data = [] ↔ ∀ f ∈ fields template, data.contains f = true := by
  unfold missing
  rw [List.filter_eq_nil_iff]
  simp only [Bool.not_eq_true, Bool.not_eq_false']

theorem fill_eq (title : String) :
    fill title template data =
      if missing template data = [] then
        .ok (String.ofList ((parts template).flatMap (·.filled data)))
      else .error (.missingFields title (missing template data)) := rfl

/-- A template whose fields all have values is filled with them. -/
theorem fill_ok {title : String} (h : ∀ f ∈ fields template, data.contains f = true) :
    fill title template data = .ok (String.ofList ((parts template).flatMap (·.filled data))) := by
  rw [fill_eq, if_pos (missing_eq_nil_iff.2 h)]

/-- **A template can be filled exactly if all its fields have values.** -/
theorem fill_isOk_iff {title : String} :
    (∃ s, fill title template data = .ok s) ↔ ∀ f ∈ fields template, data.contains f = true := by
  rw [← missing_eq_nil_iff, fill_eq]
  constructor
  · rintro ⟨s, hs⟩
    by_contra hmissing
    rw [if_neg hmissing] at hs
    exact nomatch hs
  · intro hnone
    exact ⟨_, if_pos hnone⟩

/-- **Otherwise the error lists the fields without a value.** -/
theorem fill_error_iff {title : String} {e : Error} :
    fill title template data = .error e ↔
      missing template data ≠ [] ∧ e = .missingFields title (missing template data) := by
  rw [fill_eq]
  by_cases hmissing : missing template data = []
  · rw [if_pos hmissing]
    exact iff_of_false (fun h => nomatch h) fun h => h.1 hmissing
  · rw [if_neg hmissing, and_iff_right hmissing, Except.error.injEq, eq_comm]

theorem fill_error_kind {title : String} {e : Error} (h : fill title template data = .error e) :
    e.kind = .template := by
  obtain ⟨-, rfl⟩ := fill_error_iff.1 h
  rfl

/-- Whether a template can be filled depends on the keys alone. -/
theorem fill_congr {title : String} (h : ∀ k, data.contains k = data'.contains k)
    (hok : ∃ s, fill title template data = .ok s) : ∃ s, fill title template data' = .ok s := by
  rw [fill_isOk_iff] at hok ⊢
  intro f hf
  rw [← h]
  exact hok f hf

/-- Values of other keys do not matter. -/
theorem fill_eq_of_fields {title : String} (h : ∀ f ∈ fields template, data'.get? f = data.get? f) :
    fill title template data' = fill title template data := by
  have hmissing : missing template data' = missing template data := by
    refine List.filter_congr fun f hf => ?_
    unfold Dict.contains
    rw [h f hf]
  have hfilled : (parts template).flatMap (·.filled data') =
      (parts template).flatMap (·.filled data) := by
    refine List.flatMap_congr fun p hp => ?_
    cases p with
    | char c => rfl
    | field name =>
      show ((data'.get? name).getD "").toList = ((data.get? name).getD "").toList
      rw [h name (mem_fields_iff.2 hp)]
  rw [fill_eq, fill_eq, hmissing, hfilled]

/-- The characters of a division with values for its fields. -/
theorem flatMap_filled_divided (value : String → String)
    (h : ∀ p ∈ found, data.get? p.name = some (value p.name)) :
    (found.flatMap Placed.parts ++ last.map Part.char).flatMap (·.filled data) =
      found.flatMap (fun p => p.front ++ (value p.name).toList) ++ last := by
  rw [List.flatMap_append, flatMap_filled_char, List.flatMap_assoc]
  congr 1
  refine List.flatMap_congr fun p hp => ?_
  rw [Placed.parts, List.flatMap_append, flatMap_filled_char, List.flatMap_singleton]
  show p.front ++ ((data.get? p.name).getD "").toList = _
  rw [h p hp]
  rfl

/-- **A filled template is the template with a value in place of each field.**

A template can be filled exactly if each of its fields has a value; otherwise
the error lists those that have none, in ascending order. The fields are where a
division of the template finds them, from left to right and each behind the one
before. What stands between them is kept, and the values are put in as they are,
so what they look like does not matter, and no other value does. -/
theorem fill_divided (title template : String) (data : Dict String) :
    (∃ found last, Divided template.toList found last) ∧
    ∀ found last, Divided template.toList found last →
      (∀ f, f ∈ fields template ↔ ∃ p ∈ found, p.name = f) ∧
      ((∃ s, fill title template data = .ok s) ↔ ∀ f ∈ fields template, data.contains f = true) ∧
      (∀ e, fill title template data = .error e → ∃ absent, e = .missingFields title absent ∧
        (∀ f, f ∈ absent ↔ f ∈ fields template ∧ data.get? f = none) ∧
        absent.Pairwise fun f g => Utf8.bytes f < Utf8.bytes g) ∧
      (∀ s, fill title template data = .ok s → ∃ value : String → String,
        (∀ p ∈ found, data.get? p.name = some (value p.name)) ∧
        s.toList = found.flatMap (fun p => p.front ++ (value p.name).toList) ++ last) ∧
      ∀ data', (∀ f ∈ fields template, data'.get? f = data.get? f) →
        fill title template data' = fill title template data := by
  refine ⟨exists_divided template.toList,
    fun found last hdivided =>
      ⟨fun f => mem_fields_of_divided hdivided, fill_isOk_iff, fun e he => ?_, fun s hs => ?_,
        fun data' => fill_eq_of_fields⟩⟩
  · obtain ⟨-, rfl⟩ := fill_error_iff.1 he
    exact ⟨_, rfl, fun f => mem_missing_iff, (fields_ascend template).filter _⟩
  · have hall := fill_isOk_iff.1 ⟨s, hs⟩
    have hvalue : ∀ p ∈ found, data.get? p.name = some ((data.get? p.name).getD "") := by
      intro p hp
      have hsome := hall p.name ((mem_fields_of_divided hdivided).2 ⟨p, hp, rfl⟩)
      obtain ⟨v, hv⟩ := Option.isSome_iff_exists.1 hsome
      rw [hv]
      rfl
    rw [fill_ok hall] at hs
    obtain rfl := Except.ok.inj hs
    refine ⟨fun name => (data.get? name).getD "", hvalue, ?_⟩
    rw [String.toList_ofList, parts_of_divided hdivided,
      flatMap_filled_divided (fun name => (data.get? name).getD "") hvalue]

/-- Only the inner braces belong to the field, and a value that is written as a
field is put in as it is. -/
example :
    fill "braces" "\x7b\x7b\x7b .A \x7d\x7d\x7d" (.ofList [("A", "\x7b\x7b.B\x7d\x7d")]) =
      .ok "\x7b\x7b\x7b.B\x7d\x7d\x7d" := by
  decide +kernel

end ReleaseCatalog.Template
