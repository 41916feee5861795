import ReleaseCatalog.Proofs.Json.CodeUnits

/-!
# Tokens of JSON

How each piece of a JSON text is cut into tokens, whatever text follows it.

* `Scans s ts`: the text is cut into these tokens, with any number of steps that
  is enough.
* `scans_space`, `scans_mark`: white space gives no token, brackets, commas and
  colons one each.
* `scans_quoted`: a string is one token, with the text that it is.
-/

namespace ReleaseCatalog.Json

open Text Text.Utf8

/-- The text is cut into these tokens. -/
def Scans (s : List Symbol) (ts : List Token) : Prop :=
  ∀ fuel, s.length ≤ fuel → scanFrom fuel s = some ts

theorem Scans.scan? {s : List Symbol} {ts : List Token} (h : Scans s ts) :
    Token.scan? s = some ts := h _ (Nat.le_refl _)

theorem scans_nil : Scans [] [] := by
  intro fuel _
  cases fuel <;> rfl

variable {s rest : List Symbol} {ts : List Token}

/-- A step takes a token or passes over a blank. -/
theorem scans_step {c : Symbol} {taken : Option Token} (h : scanToken c s = some (taken, rest))
    (hlen : rest.length ≤ s.length) (hr : Scans rest ts) : Scans (c :: s) (taken.toList ++ ts) := by
  intro fuel hf
  cases fuel with
  | zero => simp at hf
  | succ fuel =>
    -- what is left is shorter, so one step less is enough for it
    have hrest := hr fuel (by rw [List.length_cons] at hf; omega)
    rw [scanFrom, h]
    simp only [hrest]
    rfl

theorem scans_token {c : Symbol} {t : Token} (h : scanToken c s = some (some t, rest))
    (hlen : rest.length ≤ s.length) (hr : Scans rest ts) : Scans (c :: s) (t :: ts) :=
  scans_step h hlen hr

/-- White space gives no token. -/
theorem scans_space {w : List Char} (hw : IsSpace w) (hr : Scans rest ts) :
    Scans (w.map some ++ rest) ts := by
  have hblank : ∀ c ∈ spaces, ∀ s, scanToken (some c) s = some (none, s) := by
    intro c hc s
    simp only [spaces, List.mem_cons, List.not_mem_nil, or_false] at hc
    rcases hc with rfl | rfl | rfl | rfl <;> rfl
  induction w with
  | nil => exact hr
  | cons c w ih =>
    have hrest := ih fun x hx => hw x (List.mem_cons_of_mem _ hx)
    exact scans_step (hblank c (hw c List.mem_cons_self) _) (Nat.le_refl _) hrest

/-- The token of a bracket, a comma or a colon. -/
def markToken? : Char → Option Token
  | '[' => some .listOpen
  | ']' => some .listClose
  | '{' => some .recordOpen
  | '}' => some .recordClose
  | ',' => some .comma
  | ':' => some .colon
  | _ => none

theorem scans_mark {c : Char} {t : Token} (h : markToken? c = some t) (hr : Scans rest ts) :
    Scans (some c :: rest) (t :: ts) := by
  refine scans_token ?_ (Nat.le_refl _) hr
  unfold markToken? at h
  split at h <;> cases h <;> rfl

theorem scans_bool (b : Bool) (hr : Scans rest ts) :
    Scans ((if b then "true" else "false").toList.map some ++ rest) (.plain (bool b) :: ts) := by
  cases b with
  | true =>
    have h : scanToken (some 't') (some 'r' :: some 'u' :: some 'e' :: rest) =
      some (some (.plain (bool true)), rest) := rfl
    exact scans_token h (by simp; omega) hr
  | false =>
    have h : scanToken (some 'f') (some 'a' :: some 'l' :: some 's' :: some 'e' :: rest) =
      some (some (.plain (bool false)), rest) := rfl
    exact scans_token h (by simp; omega) hr

theorem scans_null (hr : Scans rest ts) :
    Scans ("null".toList.map some ++ rest) (.plain unusable :: ts) := by
  have h : scanToken (some 'n') (some 'u' :: some 'l' :: some 'l' :: rest) =
    some (some (.plain unusable), rest) := rfl
  exact scans_token h (by simp; omega) hr

/-! ## Strings -/

theorem hexValue?_of_isHexDigit {c : Char} {n : Nat} (h : IsHexDigit c n) :
    hexValue? c = some n ∧ n < 16 := by
  have hlower : ∀ n, (hn : n < 16) → hexValue? "0123456789abcdef".toList[n] = some n := by decide
  have hupper : ∀ n, (hn : n < 16) → hexValue? "0123456789ABCDEF".toList[n] = some n := by decide
  rcases h with h | h
  · obtain ⟨hn, rfl⟩ := List.getElem?_eq_some_iff.1 h
    exact ⟨hlower n hn, hn⟩
  · obtain ⟨hn, rfl⟩ := List.getElem?_eq_some_iff.1 h
    exact ⟨hupper n hn, hn⟩

theorem unit?_of_isHexDigit {a b c d : Char} {i j k l : Nat} (ha : IsHexDigit a i)
    (hb : IsHexDigit b j) (hc : IsHexDigit c k) (hd : IsHexDigit d l) :
    unit? a b c d = some (4096 * i + 256 * j + 16 * k + l) ∧
    4096 * i + 256 * j + 16 * k + l < 0x10000 := by
  obtain ⟨ha, hi⟩ := hexValue?_of_isHexDigit ha
  obtain ⟨hb, hj⟩ := hexValue?_of_isHexDigit hb
  obtain ⟨hc, hk⟩ := hexValue?_of_isHexDigit hc
  obtain ⟨hd, hl⟩ := hexValue?_of_isHexDigit hd
  refine ⟨?_, by omega⟩
  unfold unit?
  rw [ha, hb, hc, hd]
  rfl

/-- A character that stands for itself in a string literal. -/
theorem scanString_char {c : Char} (hq : c ≠ '"') (hb : c ≠ '\\') (hge : ¬ c.toNat < 0x20)
    (rest : List Symbol) :
    scanString (some c :: rest) = (scanString rest).map fun q => (.char c :: q.1, q.2) := by
  rw [scanString, if_neg (by simp [hb, hge])] <;> simp [hq, hb]

/-- A character behind a backslash. -/
theorem scanString_short {e c : Char} (he : shortEscape? e = some c) (rest : List Symbol) :
    scanString (some '\\' :: some e :: rest) =
      (scanString rest).map fun q => (.char c :: q.1, q.2) := by
  have hu : e ≠ 'u' := by rintro rfl; simp [shortEscape?] at he
  rw [scanString, he]
  · cases scanString rest <;> rfl
  · intro _ _ _ _ _ _ h; exact hu h

/-- A code unit in hexadecimal digits. -/
theorem scanString_unit {a b c d : Char} {n : Nat} (h : unit? a b c d = some n)
    (rest : List Symbol) :
    scanString (some '\\' :: some 'u' :: some a :: some b :: some c :: some d :: rest) =
      (scanString rest).map fun q => (.unit n :: q.1, q.2) := by
  rw [scanString, h]
  cases scanString rest <;> rfl

/-- A literal is read up to its closing quote, and its parts have its code units. -/
theorem scanString_literal {s : List Char} {units : List Nat} (h : Literal s units)
    (rest : List Symbol) :
    ∃ parts, scanString (s.map some ++ some '"' :: rest) = some (parts, rest) ∧
      parts.flatMap Part.units = units ∧
      ∀ p ∈ parts, p.Written := by
  induction h with
  | empty => exact ⟨[], rfl, rfl, fun _ hp => nomatch hp⟩
  | @plain c s units hquote hslash hcontrol _ ih =>
    obtain ⟨parts, hscan, hunits, hwritten⟩ := ih
    refine ⟨.char c :: parts, ?_, congrArg (codeUnits c ++ ·) hunits,
      List.forall_mem_cons.2 ⟨trivial, hwritten⟩⟩
    rw [List.map_cons, List.cons_append, scanString_char hquote hslash hcontrol, hscan]
    rfl
  | @escape e c s units he _ ih =>
    obtain ⟨parts, hscan, hunits, hwritten⟩ := ih
    have hshort : ∀ p ∈ escapes, shortEscape? p.1 = some p.2 := by decide
    refine ⟨.char c :: parts, ?_, congrArg (codeUnits c ++ ·) hunits,
      List.forall_mem_cons.2 ⟨trivial, hwritten⟩⟩
    rw [List.map_cons, List.map_cons, List.cons_append, List.cons_append,
      scanString_short (hshort _ he), hscan]
    rfl
  | @unit a b c d i j k l s units ha hb hc hd _ ih =>
    obtain ⟨parts, hscan, hunits, hwritten⟩ := ih
    obtain ⟨hunit, hsmall⟩ := unit?_of_isHexDigit ha hb hc hd
    refine ⟨.unit (4096 * i + 256 * j + 16 * k + l) :: parts, ?_, congrArg (List.cons _) hunits,
      List.forall_mem_cons.2 ⟨hsmall, hwritten⟩⟩
    simp only [List.map_cons, List.cons_append]
    rw [scanString_unit hunit, hscan]
    rfl

/-- A literal between quotes is one token, with the text that has its code units. -/
theorem scans_literal {s : List Char} {units : List Nat} {key : Option String} (h : Literal s units)
    (hkey : ∀ t, key = some t ↔ units = t.toList.flatMap codeUnits) (hr : Scans rest ts) :
    Scans (('"' :: (s ++ ['"'])).map some ++ rest) (.string key :: ts) := by
  obtain ⟨parts, hscan, hunits, hwritten⟩ := scanString_literal h rest
  have htext : (partsText? parts).map String.ofList = key := by
    refine Option.ext fun t => ?_
    rw [hkey, ← hunits, ← partsText?_eq_some_iff hwritten, Option.map_eq_some_iff]
    constructor
    · rintro ⟨cs, hcs, rfl⟩
      rw [hcs, String.toList_ofList]
    · exact fun ht => ⟨_, ht, String.ofList_toList⟩
  have htoken : scanToken (some '"') (s.map some ++ some '"' :: rest) =
      some (some (.string key), rest) := by
    rw [scanToken, hscan, ← htext]
    rfl
  have hlit : ('"' :: (s ++ ['"'])).map some ++ rest =
      some '"' :: (s.map some ++ some '"' :: rest) := by simp
  rw [hlit]
  exact scans_token htoken (by simp; omega) hr

/-- **A string is one token**, with the text that it is. -/
theorem scans_quoted {s : List Char} {key : Option String} (h : Quoted s key) (hr : Scans rest ts) :
    Scans (s.map some ++ rest) (.string key :: ts) := by
  cases h with
  | @text _ t h =>
    refine scans_literal h (fun u => ?_) hr
    rw [Option.some.injEq, ← String.toList_inj]
    exact ⟨congrArg _, flatMap_codeUnits_inj⟩
  | noText h hnone => exact scans_literal h (fun t => iff_of_false nofun (hnone t)) hr

/-- **A key is one token**, with white space around it or not. -/
theorem scans_spacedKey {s : List Char} {key : Option String} (h : SpacedKey s key)
    (hr : Scans rest ts) :
    Scans (s.map some ++ rest) (.string key :: ts) := by
  obtain @⟨before, s, after, key, hbefore, h, hafter⟩ := h
  have hkey := scans_space hbefore (scans_quoted h (scans_space hafter hr))
  simpa using hkey

end ReleaseCatalog.Json
