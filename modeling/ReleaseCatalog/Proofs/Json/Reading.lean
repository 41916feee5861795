import ReleaseCatalog.Json.Reader
import ReleaseCatalog.Proofs.Json.Numeral
import ReleaseCatalog.Proofs.Text.Encoding

/-!
# Every JSON text is read

The text of a value is cut into tokens, and over those the reader comes to the
value and is back where it was: what it had open before the value is open after
it, however deep the value nests. The two go together through the grammar, one
case for each of its productions.

* `Yields`: the tokens that a piece of text is cut into, whatever follows it.
* `reads_spells`: a value is read in every state in which one may start.
* `ofBytes?_text`: **what a text says is what is read from its bytes**.
* `Says.unique`: a text says one thing.
-/

namespace ReleaseCatalog.Json

open Text.Utf8

/-! ## From text to tokens -/

/-- The text is cut into these tokens, unless what follows goes on with a number
at its end. -/
def Yields (s : List Char) (ts : List Token) : Prop :=
  ∀ {rest : List Symbol} {more : List Token}, EndsNumber rest → Scans rest more →
    Scans (s.map some ++ rest) (ts ++ more)

/-! ## From tokens to the value -/

/-- A value may start in the state, and this is open around it then. -/
def Opens (state : State) (outer : List Frame) : Prop :=
  ∀ t, t ≠ .listClose → state.step t = State.start outer t

theorem opens_value (outer : List Frame) : Opens (.value outer) outer := fun _ _ => rfl

theorem opens_firstItem (outer : List Frame) : Opens (.firstItem outer) (.item [] :: outer) := by
  intro t ht
  cases t <;> first | exact absurd rfl ht | rfl

/-- A key may come in the state, behind these members. -/
def TakesKey (state : State) (before : List (Option String × Json)) (outer : List Frame) : Prop :=
  ∀ k, state.step (.string k) = some (.colon before k outer)

theorem takesKey_firstKey (outer : List Frame) : TakesKey (.firstKey outer) [] outer := fun _ => rfl

theorem takesKey_key (members : List (Option String × Json)) (outer : List Frame) :
    TakesKey (.key members outer) members outer := fun _ => rfl

theorem recordOf_keyed (members : List (String × Json)) :
    recordOf (members.map keyed).reverse = record members := by
  have hkeys : (members.map keyed).mapM (fun m => m.1.map (·, m.2)) = some members := by
    induction members with
    | nil => rfl
    | cons m members ih => rw [List.map_cons, List.mapM_cons, ih]; rfl
  unfold recordOf
  rw [List.reverse_reverse, hkeys]

theorem recordOf_noText {members : List (Option String × Json)} (h : ∃ m ∈ members, m.1 = none) :
    recordOf members.reverse = unusable := by
  have hkeys : members.mapM (fun m => m.1.map (·, m.2)) = none := by
    obtain ⟨m, hm, hnone⟩ := h
    induction members with
    | nil => exact nomatch hm
    | cons m' members ih =>
      rw [List.mapM_cons]
      rcases List.mem_cons.1 hm with rfl | hm
      · rw [hnone]; rfl
      · rw [ih hm]; cases m'.1 <;> rfl
  unfold recordOf
  rw [List.reverse_reverse, hkeys]

/-- One step of the reader. -/
theorem foldlM_step {state after : State} {t : Token} (h : state.step t = some after)
    (ts : List Token) : (t :: ts).foldlM State.step state = ts.foldlM State.step after := by
  rw [List.foldlM_cons, h]; rfl

/-- Over the tokens, the reader comes from every state in which a value may
start to the one behind this value. -/
def Reads (ts : List Token) (v : Json) : Prop :=
  ∀ {state : State} {outer : List Frame} (more : List Token), Opens state outer →
    (ts ++ more).foldlM State.step state = more.foldlM State.step (.close v outer)

/-- Over the tokens, the reader puts these items on a list. -/
def ReadsItems (ts : List Token) (items : List Json) : Prop :=
  ∀ {state : State} {before : List Json} {outer : List Frame} (more : List Token),
    Opens state (.item before :: outer) →
    (ts ++ more).foldlM State.step state =
      more.foldlM State.step (.afterItem (items.reverse ++ before) outer)

/-- Over the tokens, the reader puts these members into a record. -/
def ReadsMembers (ts : List Token) (members : List (Option String × Json)) : Prop :=
  ∀ {state : State} {before : List (Option String × Json)} {outer : List Frame} (more : List Token),
    TakesKey state before outer →
    (ts ++ more).foldlM State.step state =
      more.foldlM State.step (.afterMember (members.reverse ++ before) outer)

theorem reads_plain (v : Json) : Reads [.plain v] v :=
  fun more hopens => foldlM_step (hopens _ (by simp)) more

theorem reads_text (t : String) : Reads [.string (some t)] (text t) :=
  fun more hopens => foldlM_step (hopens _ (by simp)) more

theorem reads_noText : Reads [.string none] unusable :=
  fun more hopens => foldlM_step (hopens _ (by simp)) more

/-- A list is read with its items, and the brackets around them. -/
theorem reads_list {ts : List Token} {items : List Json} (h : ReadsItems ts items) :
    Reads (.listOpen :: (ts ++ [.listClose])) (list items) := by
  intro state outer more hopens
  have hopen : state.step .listOpen = some (.firstItem outer) := hopens _ (by simp)
  have hitems := h (.listClose :: more) (opens_firstItem outer)
  rw [List.cons_append, List.append_assoc, List.singleton_append, foldlM_step hopen, hitems,
    foldlM_step rfl, List.append_nil, List.reverse_reverse]

theorem reads_noItems : Reads [.listOpen, .listClose] (list []) := by
  intro state outer more hopens
  have hopen : state.step .listOpen = some (.firstItem outer) := hopens _ (by simp)
  exact (foldlM_step hopen _).trans (foldlM_step rfl more)

/-- A record is read with its members, and the brackets around them. -/
theorem reads_record {ts : List Token} {members : List (Option String × Json)} {v : Json}
    (h : ReadsMembers ts members) (hv : recordOf members.reverse = v) :
    Reads (.recordOpen :: (ts ++ [.recordClose])) v := by
  intro state outer more hopens
  have hopen : state.step .recordOpen = some (.firstKey outer) := hopens _ (by simp)
  have hmembers := h (.recordClose :: more) (takesKey_firstKey outer)
  rw [List.cons_append, List.append_assoc, List.singleton_append, foldlM_step hopen, hmembers,
    foldlM_step rfl, List.append_nil, hv]

theorem reads_noMembers : Reads [.recordOpen, .recordClose] (record []) := by
  intro state outer more hopens
  have hopen : state.step .recordOpen = some (.firstKey outer) := hopens _ (by simp)
  exact (foldlM_step hopen _).trans (foldlM_step rfl more)

/-- A piece of text between brackets. -/
theorem yields_brackets {s : List Char} {ts : List Token} {opening closing : Char} {t t' : Token}
    (h : Yields s ts) (hopening : markToken? opening = some t)
    (hclosing : markToken? closing = some t') (hends : closing ∈ spaces ++ [',', ']', '}']) :
    Yields (opening :: (s ++ [closing])) (t :: (ts ++ [t'])) := by
  intro rest more _ hs
  have hclose := h (endsNumber_cons hends rest) (scans_mark hclosing hs)
  have hscans := scans_mark hopening hclose
  simpa using hscans

theorem yields_space {w : List Char} (hw : IsSpace w) : Yields w [] := fun _ hs => scans_space hw hs

mutual

theorem reads_spells : ∀ {s : List Char} {v : Json}, Spells s v → ∃ ts, Yields s ts ∧ Reads ts v
  | _, _, .null => ⟨_, fun _ hs => scans_null hs, reads_plain _⟩
  | _, _, .bool b => ⟨_, fun _ hs => scans_bool b hs, reads_plain _⟩
  | _, _, .numeral h => ⟨_, fun hr hs => scans_numeral h hr hs, reads_plain _⟩
  | _, _, .text h => ⟨_, fun _ hs => scans_quoted h hs, reads_text _⟩
  | _, _, .noText h => ⟨_, fun _ hs => scans_quoted h hs, reads_noText⟩
  | _, _, .noItems hw => ⟨_, yields_brackets (yields_space hw) rfl rfl (by decide), reads_noItems⟩
  | _, _, .items h => by
    obtain ⟨ts, hyields, hreads⟩ := reads_items h
    exact ⟨_, yields_brackets hyields rfl rfl (by decide), reads_list hreads⟩
  | _, _, .noMembers hw =>
    ⟨_, yields_brackets (yields_space hw) rfl rfl (by decide), reads_noMembers⟩
  | _, _, .members h => by
    obtain ⟨ts, hyields, hreads⟩ := reads_members h
    exact ⟨_, yields_brackets hyields rfl rfl (by decide), reads_record hreads (recordOf_keyed _)⟩
  | _, _, .noRecord h hkey => by
    obtain ⟨ts, hyields, hreads⟩ := reads_members h
    exact ⟨_, yields_brackets hyields rfl rfl (by decide),
      reads_record hreads (recordOf_noText hkey)⟩

theorem reads_spaced : ∀ {s : List Char} {v : Json}, Spaced s v → ∃ ts, Yields s ts ∧ Reads ts v
  | _, _, .spaced hbefore h hafter => by
    obtain ⟨ts, hyields, hreads⟩ := reads_spells h
    refine ⟨ts, fun hr hs => ?_, hreads⟩
    have hscans :=
      scans_space hbefore (hyields (endsNumber_space hafter hr) (scans_space hafter hs))
    simpa using hscans

theorem reads_items : ∀ {s : List Char} {items : List Json}, SpellsItems s items →
    ∃ ts, Yields s ts ∧ ReadsItems ts items
  | _, _, .last hv => by
    obtain ⟨ts, hyields, hreads⟩ := reads_spaced hv
    exact ⟨ts, hyields, fun more hopens => hreads more hopens⟩
  | _, _, .more hv h => by
    obtain ⟨ts, hyields, hreads⟩ := reads_spaced hv
    obtain ⟨ts', hyields', hreads'⟩ := reads_items h
    refine ⟨ts ++ .comma :: ts', fun hr hs => ?_, fun more hopens => ?_⟩
    · have hmore := scans_mark (c := ',') rfl (hyields' hr hs)
      have hscans := hyields (endsNumber_cons (by decide) _) hmore
      simpa using hscans
    · rw [List.append_assoc, List.cons_append, hreads _ hopens, State.close, foldlM_step rfl,
        hreads' _ (opens_value _)]
      simp

theorem reads_members : ∀ {s : List Char} {members : List (Option String × Json)},
    SpellsMembers s members →
    ∃ ts, Yields s ts ∧ ReadsMembers ts members
  | _, [(key, _)], .last hkey hv => by
    obtain ⟨ts, hyields, hreads⟩ := reads_spaced hv
    refine ⟨.string key :: .colon :: ts, fun hr hs => ?_, fun more hkeys => ?_⟩
    · have hscans := scans_spacedKey hkey (scans_mark (c := ':') rfl (hyields hr hs))
      simpa using hscans
    · rw [List.cons_append, List.cons_append, foldlM_step (hkeys _), foldlM_step rfl,
        hreads _ (opens_value _)]
      rfl
  | _, (key, _) :: _, .more hkey hv h => by
    obtain ⟨ts, hyields, hreads⟩ := reads_spaced hv
    obtain ⟨ts', hyields', hreads'⟩ := reads_members h
    refine ⟨.string key :: .colon :: (ts ++ .comma :: ts'), fun hr hs => ?_, fun more hkeys => ?_⟩
    · have hmore := scans_mark (c := ',') rfl (hyields' hr hs)
      have hvalue := hyields (endsNumber_cons (by decide) _) hmore
      have hscans := scans_spacedKey hkey (scans_mark (c := ':') rfl hvalue)
      simpa using hscans
    · rw [List.cons_append, List.cons_append, List.append_assoc, List.cons_append,
        foldlM_step (hkeys _), foldlM_step rfl, hreads _ (opens_value _), State.close,
        foldlM_step rfl, hreads' _ (takesKey_key _ _)]
      simp

end

/-- **What a text says is what is read from its bytes**, whatever its white
space is and however deep it nests. -/
theorem ofBytes?_text {text : String} {v : Json} (h : Says text v) :
    ofBytes? (bytes text) = some v := by
  obtain ⟨ts, hyields, hreads⟩ := reads_spaced h
  have hscan := hyields endsNumber_nil scans_nil
  have hread := hreads [] (opens_value [])
  rw [List.append_nil] at hscan hread
  rw [List.append_nil] at hscan
  unfold ofBytes? ofSymbols? bytes
  rw [symbols_encode, hscan.scan?]
  show ofTokens? ts = some v
  unfold ofTokens?
  rw [hread]
  rfl

/-- **A text says one thing at most.** -/
theorem Says.unique {text : String} {v w : Json} (hv : Says text v) (hw : Says text w) : v = w :=
  Option.some.inj ((ofBytes?_text hv).symm.trans (ofBytes?_text hw))

end ReleaseCatalog.Json
