import ReleaseCatalog.Proofs.Digest.Md5
import ReleaseCatalog.Proofs.Digest.Sha1
import ReleaseCatalog.Proofs.Digest.Sha2
import ReleaseCatalog.Proofs.Verification

/-!
# Digests of files are standard digests

Each of the four functions computes the digest that its standard defines, so the
digest of a file is the standard digest of what is in it, whatever the reads
were that brought it in.

* `Algorithm.function_digest`: the functions compute the standard digests.
* `Algorithm.length_hex_digest`: how many digits the digests have.
* `Algorithm.digest_standard`: the digest of a content in reads, in pieces and
  in a file.
-/

namespace ReleaseCatalog

open Digest

/-- **The functions compute the standard digests.** -/
theorem Algorithm.function_digest (a : Algorithm) (content : List UInt8) :
    a.function.digest content = Standard.digest a content := by
  cases a with
  | md5 => exact Md5.md5_conforms.digest_eq content
  | sha1 => exact Sha1.sha1_conforms.digest_eq content
  | sha256 => exact sha256Parts_realizes.conforms.digest_eq content
  | sha512 => exact sha512Parts_realizes.conforms.digest_eq content

/-- The number of hexadecimal digits of a digest. -/
def Algorithm.digits : Algorithm → Nat
  | .md5 => 32
  | .sha1 => 40
  | .sha256 => 64
  | .sha512 => 128

theorem Algorithm.length_hex_digest (a : Algorithm) (content : List UInt8) :
    (hex (a.function.digest content)).length = a.digits := by
  rw [length_hex]
  cases a with
  | md5 =>
    have hwords : (Digest.md5.digest content).length = 4 * 4 := by
      show (List.flatMap _ _).length = _
      simp
    exact congrArg (2 * ·) hwords
  | sha1 =>
    have hwords : (Digest.sha1.digest content).length = 5 * 4 := by
      show (List.flatMap _ _).length = _
      simp
    exact congrArg (2 * ·) hwords
  | sha256 => exact congrArg (2 * ·) (sha256Parts.length_digest content)
  | sha512 => exact congrArg (2 * ·) (sha512Parts.length_digest content)

/-- **The digest of a content is its standard digest, however it is read.** This
holds for reads into a buffer up to the one that gives nothing, whatever the
buffer held before; for pieces, of which some may be empty; and for a file with
this content. The digest is written in the digits from `0` to `9` and the
letters from `a` to `f`, and has 32, 40, 64 or 128 of them. -/
theorem Algorithm.digest_standard (a : Algorithm) (content : List UInt8) :
    (∀ (buffer : List UInt8) (reads more : List (List UInt8)), (∀ piece ∈ reads, piece ≠ []) →
      reads.flatten = content →
        a.digestReads buffer (reads ++ [] :: more) = hex (Standard.digest a content)) ∧
      (∀ pieces : List (List UInt8), pieces.flatten = content →
        a.digest pieces = hex (Standard.digest a content)) ∧
      (∀ (m : Machine) (path : Path), m.disk.read path = .ok content →
        (fileDigest a path).Runs m (hex (Standard.digest a content)) m) ∧
      (hex (Standard.digest a content)).length = a.digits ∧
      ∀ c ∈ (hex (Standard.digest a content)).toList, c ∈ hexDigits := by
  rw [← a.function_digest]
  refine ⟨?reads, ?pieces, ?file, a.length_hex_digest content,
    fun c hc => mem_hexDigits_of_mem_hex hc⟩
  case reads =>
    rintro buffer reads more hreads rfl
    exact a.digestReads_eq buffer hreads more
  case pieces =>
    rintro pieces rfl
    exact a.digest_eq pieces
  case file =>
    intro m path hread
    exact fileDigest_runs hread a

/-- The standard digests of a message whose padding takes a second block: from a
read of all but its last byte and one of that byte, into a buffer that holds
other bytes; from pieces of which one is empty; and from a file. -/
theorem Algorithm.digest_standard_two_blocks :
    let content := "abcdbcdecdefdefgefghfghighijhijkijkljklmklmnlmnomnopnopq".toUTF8.toList
    let m : Machine := ⟨⟨[(["a.tar.gz"], .file content 0o644)]⟩, [], []⟩
    content.length = 56 ∧ m.disk.read ⟨"a.tar.gz"⟩ = .ok content ∧
      hex (Standard.digest .md5 content) = "8215ef0796a20bcaaae116d3876c664a" ∧
      hex (Standard.digest .sha1 content) = "84983e441c3bd26ebaae4aa1f95129e5e54670f1" ∧
      (fileDigest .sha256 ⟨"a.tar.gz"⟩).Runs m (hex (Standard.digest .sha256 content)) m ∧
      (hex (Standard.digest .sha512 content)).length = 128 := by
  intro content m
  have hfile : m.disk.read ⟨"a.tar.gz"⟩ = .ok content := by decide +kernel
  obtain ⟨hreads, -⟩ := Algorithm.digest_standard .md5 content
  have hmd5 :=
    hreads (List.replicate 64 0x7a) [content.take 55, content.drop 55] [] (by decide +kernel)
      (by decide +kernel)
  obtain ⟨-, hpieces, -⟩ := Algorithm.digest_standard .sha1 content
  have hsha1 := hpieces [content.take 20, [], content.drop 20] (by decide +kernel)
  obtain ⟨-, -, hruns, -⟩ := Algorithm.digest_standard .sha256 content
  obtain ⟨-, -, -, hlength, -⟩ := Algorithm.digest_standard .sha512 content
  exact ⟨by decide +kernel, hfile, hmd5.symm.trans (by decide +kernel),
    hsha1.symm.trans (by decide +kernel), hruns m _ hfile, hlength⟩

end ReleaseCatalog
