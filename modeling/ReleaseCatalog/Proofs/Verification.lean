import ReleaseCatalog.Describe
import ReleaseCatalog.Proofs.Checksum
import ReleaseCatalog.Proofs.Disk.Machine

/-!
# Files checked against their entries

An entry that was made from a file keeps the digest of that file. Checking any
file against the entry tells whether it has the same digest; how the file is
read, and in which case the digest is written, does not matter.

* `Algorithm.digestReads_eq`: what the buffer holds behind the bytes of a read
  is not taken.
* `runs_fileDigest`: the digest of a file is that of its whole content.
* `Tarball.verify_result`: what a check comes to once the checksum and the file
  can be read.
* `describeFile_ok_iff`: when an entry is made from a file, and which one.
* `describeFile_verify`: the check of any file against an entry that was made
  from a file.
-/

namespace ReleaseCatalog

open Digest Operation

variable {host : Host} {path : Path} {draft d t : Tarball} {m m' : Machine} {a : Algorithm}
  {c : Checksum} {bytes : List UInt8} {digest : String}

/-- Of a buffer that was filled again, its front is what was read. -/
theorem take_refilled (buffer piece : List UInt8) :
    (refilled buffer piece).take piece.length = piece := by
  unfold refilled
  exact List.take_left

/-- **Reads are taken as the pieces that they give**, up to the read that gives
nothing, and whatever the buffer holds. -/
theorem Digest.Hasher.takeReads_eq {H : BlockHash} (h : Hasher H) (buffer : List UInt8)
    {reads : List (List UInt8)} (hreads : ∀ piece ∈ reads, piece ≠ []) (more : List (List UInt8)) :
    h.takeReads buffer (reads ++ [] :: more) = reads.foldl Hasher.update h := by
  induction reads generalizing h buffer with
  | nil => rfl
  | cons piece reads ih =>
    obtain ⟨hpiece, hreads⟩ := List.forall_mem_cons.1 hreads
    rw [List.cons_append, Hasher.takeReads, if_neg hpiece, List.foldl_cons]
    dsimp only
    rw [take_refilled, ih _ _ hreads]

theorem Algorithm.digestReads_eq (a : Algorithm) (buffer : List UInt8) {reads : List (List UInt8)}
    (hreads : ∀ piece ∈ reads, piece ≠ []) (more : List (List UInt8)) :
    a.digestReads buffer (reads ++ [] :: more) = hex (a.function.digest reads.flatten) := by
  unfold Algorithm.digestReads
  rw [Hasher.takeReads_eq _ _ hreads, Hasher.finish_eq_digest]

/-- No piece of a file is empty. -/
theorem ne_nil_of_mem_piecesOf (bytes : List UInt8) : ∀ piece ∈ piecesOf bytes, piece ≠ [] := by
  rw [piecesOf]
  split
  · exact nofun
  · rename_i hne
    have hpos := List.length_pos_iff.2 hne
    have htake : bytes.take pieceSize ≠ [] := by
      rw [ne_eq, List.take_eq_nil_iff]
      simp only [pieceSize, hne, or_false]
      decide
    exact List.forall_mem_cons.2 ⟨htake, ne_nil_of_mem_piecesOf (bytes.drop pieceSize)⟩
termination_by bytes.length
decreasing_by
  simp only [List.length_drop, pieceSize]
  omega

/-- The pieces of a file put together are the file. -/
theorem flatten_piecesOf (bytes : List UInt8) : (piecesOf bytes).flatten = bytes := by
  rw [piecesOf]
  split
  · rename_i hnil
    exact hnil.symm
  · rename_i hne
    have hpos := List.length_pos_iff.2 hne
    rw [List.flatten_cons, flatten_piecesOf (bytes.drop pieceSize), List.take_append_drop]
termination_by bytes.length
decreasing_by
  simp only [List.length_drop, pieceSize]
  omega

/-- **The digest of a file is the digest of all that is in it.** -/
theorem runs_fileDigest :
    (fileDigest a path).Runs m digest m' ↔
      ∃ bytes, m.disk.read path = .ok bytes ∧ digest = hex (a.function.digest bytes) ∧ m = m' := by
  unfold fileDigest
  rw [runs_bind]
  constructor
  · rintro ⟨bytes, v, hsee, hpure⟩
    obtain ⟨hread, rfl⟩ := runs_see.1 hsee
    obtain ⟨rfl, rfl⟩ := runs_pure.1 hpure
    rw [a.digestReads_eq _ (ne_nil_of_mem_piecesOf bytes), flatten_piecesOf]
    exact ⟨bytes, hread, rfl, rfl⟩
  · rintro ⟨bytes, hread, rfl, rfl⟩
    refine ⟨bytes, m, runs_see.2 ⟨hread, rfl⟩, runs_pure.2 ⟨?_, rfl⟩⟩
    rw [a.digestReads_eq _ (ne_nil_of_mem_piecesOf bytes), flatten_piecesOf]

theorem fileDigest_runs (h : m.disk.read path = .ok bytes) (a : Algorithm) :
    (fileDigest a path).Runs m (hex (a.function.digest bytes)) m :=
  runs_fileDigest.2 ⟨bytes, h, rfl, rfl⟩

/-- **A check fails exactly if the digests do not agree**, once the checksum and
the file can be read. -/
theorem Tarball.verify_result (hc : Checksum.ofText t.checksum = .ok c)
    (hread : m.disk.read path = .ok bytes) :
    ((t.verify path).run m).1.result =
      if c.agreesWith (hex (c.algorithm.function.digest bytes)) then .ok ()
      else .error (.checksumMismatch c.digest (hex (c.algorithm.function.digest bytes))) := by
  have hchecksum : t.checksum ≠ "" := by
    intro hempty
    have hnone : Checksum.ofText "" = .error (.checksumFormat "") := by decide
    rw [hempty, hnone] at hc
    exact nomatch hc
  have hexpected : (Operation.ofExcept (Checksum.ofText t.checksum)).Runs m c m :=
    runs_ofExcept.2 ⟨hc, rfl⟩
  have hfound := fileDigest_runs hread c.algorithm
  unfold Tarball.verify
  rw [if_neg hchecksum, hexpected.result_bind, hfound.result_bind]
  split <;> rfl

/-- The entry for a file of given content, after a draft of which the name has
told the rest. -/
def Tarball.describing (identified : Tarball) (host : Host) (name : String) (bytes : List UInt8) :
    Tarball :=
  { identified.completed name host with
    checksum := (Checksum.mk .sha512 (hex (sha512.digest bytes))).text
    size := fileSize bytes.length }

/-- **An entry is made from a file exactly if the path names a file that can be
read, and its name tells what the draft does not.** -/
theorem describeFile_ok_iff :
    ((describeFile host path draft).run m).1.result = .ok d ↔
      ∃ name bytes identified, path.fileName? = some name ∧ m.disk.read path = .ok bytes ∧
        draft.identified name = .ok identified ∧ d = identified.describing host name bytes := by
  unfold describeFile
  cases hname : path.fileName? with
  | none =>
    refine iff_of_false (fun h => nomatch h) ?_
    rintro ⟨name, _, _, hsome, -⟩
    exact nomatch hsome
  | some name =>
    constructor
    · intro h
      obtain ⟨digest, m₁, hdigest, h⟩ := runs_bind.1 (runs_of_ok h)
      obtain ⟨bytes, hread, rfl, rfl⟩ := runs_fileDigest.1 hdigest
      obtain ⟨again, m₂, hsee, h⟩ := runs_bind.1 h
      obtain ⟨hagain, rfl⟩ := runs_see.1 hsee
      obtain ⟨identified, m₃, htold, h⟩ := runs_bind.1 h
      obtain ⟨hidentified, rfl⟩ := runs_ofExcept.1 htold
      obtain ⟨_, m₄, hlog, h⟩ := runs_bind.1 h
      obtain rfl := runs_log.1 hlog
      obtain ⟨rfl, -⟩ := runs_pure.1 h
      -- the file is looked at twice, and is the same both times
      obtain rfl := Except.ok.inj (hread.symm.trans hagain)
      exact ⟨name, bytes, identified, rfl, hread, hidentified, rfl⟩
    · rintro ⟨name', bytes, identified, hsome, hread, hidentified, rfl⟩
      obtain rfl := Option.some.inj hsome
      have hdigest := fileDigest_runs hread .sha512
      have hsee : (see Disk.read path).Runs m bytes m := runs_see.2 ⟨hread, rfl⟩
      have hfound : (Operation.ofExcept (draft.identified name)).Runs m identified m :=
        runs_ofExcept.2 ⟨hidentified, rfl⟩
      dsimp only
      rw [hdigest.result_bind, hsee.result_bind, hfound.result_bind]
      rfl

/-- The checksum that an entry made from a file of given content keeps. -/
def Checksum.recorded (bytes : List UInt8) : Checksum := ⟨.sha512, hex (sha512.digest bytes)⟩

/-- **A digest of 512 bits is written in 128 digits.** -/
theorem hex_sha512 (bytes : List UInt8) :
    (hex (sha512.digest bytes)).length = 128 ∧
    ∀ x ∈ (hex (sha512.digest bytes)).toList, x ∈ hexDigits := by
  refine ⟨?_, fun x hx => mem_hexDigits_of_mem_hex hx⟩
  have hwords : (sha512.digest bytes).length = 8 * 8 := sha512Parts.length_digest bytes
  rw [length_hex, hwords]

/-- A file is checked against the digest of another one by comparing the digests
of the two. -/
theorem Tarball.verify_spelled {x y : List UInt8} (halgorithm : c.algorithm = .sha512)
    (hspells : Checksum.Spells c.digest (sha512.digest x)) (hread : m.disk.read path = .ok y) :
    (({ t with checksum := c.text }.verify path).run m).1.result =
      if sha512.digest y = sha512.digest x then .ok ()
      else .error (.checksumMismatch c.digest (hex (sha512.digest y))) := by
  have hne : sha512.digest x ≠ [] := by
    intro hnil
    have hwords : (sha512.digest x).length = 8 * 8 := sha512Parts.length_digest x
    rw [hnil] at hwords
    exact nomatch hwords
  have hc : Checksum.ofText c.text = .ok c := Checksum.ofText_of_spells hspells hne
  have hfunction : c.algorithm.function = sha512 := by
    rw [halgorithm]
    rfl
  have hresult := Tarball.verify_result (t := { t with checksum := c.text }) hc hread
  rw [hfunction] at hresult
  simp only [Checksum.agreesWith_hex_iff hspells] at hresult
  exact hresult

/-- **An entry made from a file tells that file from all others, as far as their
digests differ.** Whatever is checked against it, the check goes through exactly
if the digests are the same, and otherwise names both of them; it does so, too,
if the digest of the entry is put into capitals. -/
theorem describeFile_verify (host : Host) (path : Path) (draft d : Tarball) (m : Machine)
    (h : ((describeFile host path draft).run m).1.result = .ok d) :
    ∃ x, m.disk.read path = .ok x ∧ d.checksum = (Checksum.recorded x).text ∧
      (∀ z, (hex (sha512.digest z)).length = 128 ∧
        ∀ c ∈ (hex (sha512.digest z)).toList, c ∈ hexDigits) ∧
      ∀ (elsewhere : Machine) (place : Path) (y : List UInt8), elsewhere.disk.read place = .ok y →
        ((d.verify place).run elsewhere).1.result =
            (if sha512.digest y = sha512.digest x then .ok ()
              else .error (.checksumMismatch (hex (sha512.digest x)) (hex (sha512.digest y)))) ∧
          (({ d with checksum := (Checksum.recorded x).inCapitals.text }.verify place).run
            elsewhere).1.result =
            (if sha512.digest y = sha512.digest x then .ok ()
              else .error
                (.checksumMismatch (Checksum.recorded x).inCapitals.digest
                  (hex (sha512.digest y)))) := by
  obtain ⟨name, x, identified, -, hread, -, rfl⟩ := describeFile_ok_iff.1 h
  refine ⟨x, hread, rfl, hex_sha512, fun elsewhere place y hy => ⟨?_, ?_⟩⟩
  · have hspells : Checksum.Spells (Checksum.recorded x).digest (sha512.digest x) :=
      Checksum.spells_hex _
    exact Tarball.verify_spelled (t := identified.describing host name x) rfl hspells hy
  · have hspells : Checksum.Spells (Checksum.recorded x).inCapitals.digest (sha512.digest x) :=
      Checksum.spells_inCapitals .sha512 _
    exact Tarball.verify_spelled rfl hspells hy

/-- A file of three bytes is described, and after its last byte has changed it
is another file. -/
theorem describeFile_verify_tampered :
    let host : Host :=
      ⟨.linux, .amd64, 7, ⟨2024, 5, 1, by decide⟩,
        ⟨0, 0, 0, 0, by decide, by decide, by decide, by decide⟩⟩
    let path : Path := ⟨"mysql-8.0.38-macos14-arm64.tar.gz"⟩
    let holding : List UInt8 → Machine :=
      fun bytes => ⟨⟨[(["mysql-8.0.38-macos14-arm64.tar.gz"], .file bytes 0o644)]⟩, [], []⟩
    let original : List UInt8 := [0x61, 0x62, 0x63]
    let tampered : List UInt8 := [0x61, 0x62, 0x64]
    ∃ d, ((describeFile host path {}).run (holding original)).1.result = .ok d ∧
      ((d.verify path).run (holding original)).1.result = .ok () ∧
      ((d.verify path).run (holding tampered)).1.result =
        .error (.checksumMismatch (hex (sha512.digest original))
          (hex (sha512.digest tampered))) := by
  intro host path holding original tampered
  have hok : ((describeFile host path {}).run (holding original)).1.result.isOk = true := by
    decide +kernel
  have hchanged : sha512.digest tampered ≠ sha512.digest original := by decide +kernel
  cases hd : ((describeFile host path {}).run (holding original)).1.result with
  | error e =>
    rw [hd] at hok
    exact nomatch hok
  | ok d =>
    obtain ⟨x, hx, -, -, hverify⟩ := describeFile_verify host path {} d (holding original) hd
    have horiginal : (holding original).disk.read path = .ok original := by decide +kernel
    have htampered : (holding tampered).disk.read path = .ok tampered := by decide +kernel
    obtain rfl := Except.ok.inj (horiginal.symm.trans hx)
    have hkept := (hverify _ path _ horiginal).1
    have hlost := (hverify _ path _ htampered).1
    exact ⟨d, rfl, hkept.trans (if_pos rfl), hlost.trans (if_neg hchanged)⟩

end ReleaseCatalog
