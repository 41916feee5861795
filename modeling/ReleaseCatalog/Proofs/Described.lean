import ReleaseCatalog.Describe
import ReleaseCatalog.Proofs.Acceptance
import ReleaseCatalog.Proofs.FileName

/-!
# Entries for published tarballs

An entry made from a URL says what the name at its end tells, and what the server
told. Nothing is missing in it, and somebody who asks for it in its own words gets it.

* `Details.askAbout_cases`: every way in which the server is asked about a URL
  whose name tells everything.
* `Details.entry_complete`: no field that an entry needs is left empty.
* `describeUrl_resolvable`: the entry is found by requests, and the server is
  asked no more than needed.
-/

namespace ReleaseCatalog

open Operation FileName

variable {host : Host} {url : String} {server : Server} {d : Details} {size : Int64}
  {digest : String}

/-- The entry for a published tarball, of what its name tells and what a server
told of it. -/
def FileName.Details.entry (d : Details) (host : Host) (url : String) (size : Int64)
    (digest : String) : Tarball where
  name := baseName url
  url := url
  size := size
  checksum := (Checksum.mk .md5 digest).text
  os := d.os.name
  arch := d.arch.name
  flavor := d.flavor
  minimal := d.minimal
  shortVersion := d.shortVersion
  version := d.version
  dateAdded := host.now.stamp

theorem FileName.Details.entry_describes : d.Describes (d.entry host url size digest) :=
  ⟨rfl, rfl, rfl, rfl, rfl, rfl⟩

namespace Server

/-- The server after one more question. -/
def after (server : Server) (q : Query) : Server := { server with asked := server.asked ++ [q] }

theorem askSize_runs (h : server.size url = .ok size) :
    (askSize url).Runs server size (server.after (.size url)) := by
  refine ⟨?_, rfl⟩
  show Except.mapError _ (server.size url) = .ok size
  rw [h]
  rfl

theorem askSize_error {e : FetchError} (h : server.size url = .error e) :
    ((askSize url).run server).1.result = .error (.fetch e) := by
  show Except.mapError Error.fetch (server.size url) = .error (.fetch e)
  rw [h]
  rfl

theorem askDigest_runs {a : Algorithm} (h : server.digest a url = .ok digest) :
    (askDigest a url).Runs server digest (server.after (.digest a url)) := by
  refine ⟨?_, rfl⟩
  show Except.mapError _ (server.digest a url) = .ok digest
  rw [h]
  rfl

theorem askDigest_error {a : Algorithm} {e : FetchError} (h : server.digest a url = .error e) :
    ((askDigest a url).run server).1.result = .error (.fetch e) := by
  show Except.mapError Error.fetch (server.digest a url) = .error (.fetch e)
  rw [h]
  rfl

end Server

/-- What is asked about a URL whose name tells everything. -/
def FileName.Details.askAbout (d : Details) (host : Host) (url : String) :
    Operation Server Tarball := do
  let size ← Server.askSize url
  log (.downloading url)
  let digest ← Server.askDigest .md5 url
  return d.entry host url size digest

/-- A name that does not tell everything ends the description before the server
is asked anything. -/
theorem describeUrl_unidentified {property : Property} (host : Host) (server : Server)
    (h : Details.ofName (baseName url) = .error property) :
    ((describeUrl host url).run server).1.result = .error (.unidentified property (baseName url)) ∧
      ((describeUrl host url).run server).2 = server := by
  unfold describeUrl
  dsimp only
  rw [h]
  exact run_bind_of_error (t := ofExcept (foundIn (baseName url) (.error property))) rfl

theorem describeUrl_identified (h : Details.ofName (baseName url) = .ok d) :
    ((describeUrl host url).run server).1.result = ((d.askAbout host url).run server).1.result ∧
      ((describeUrl host url).run server).2 = ((d.askAbout host url).run server).2 := by
  have hidentified : (ofExcept (foundIn (baseName url) (.ok d))).Runs server d server :=
    runs_ofExcept.2 ⟨rfl, rfl⟩
  have hlogged : (log (.identified (baseName url) d)).Runs server () server := runs_log.2 rfl
  unfold describeUrl
  dsimp only
  rw [h, hidentified.result_bind, hidentified.world_bind, hlogged.result_bind, hlogged.world_bind]
  exact ⟨rfl, rfl⟩

/-- The digest is asked for when the size was told. -/
theorem FileName.Details.askAbout_cases (d : Details) (host : Host) (url : String)
    (server : Server) :
    (∃ e, server.size url = .error e ∧
      ((d.askAbout host url).run server).1.result = .error (.fetch e) ∧
        ((d.askAbout host url).run server).2 = server.after (.size url)) ∨
      ∃ size, server.size url = .ok size ∧
        ((d.askAbout host url).run server).2 = (server.after (.size url)).after (.digest .md5 url) ∧
        ((∃ e, server.digest .md5 url = .error e ∧
          ((d.askAbout host url).run server).1.result = .error (.fetch e)) ∨
          ∃ digest, server.digest .md5 url = .ok digest ∧
            ((d.askAbout host url).run server).1.result = .ok (d.entry host url size digest)) := by
  unfold FileName.Details.askAbout
  cases hsize : server.size url with
  | error e =>
    obtain ⟨hresult, hworld⟩ := run_bind_of_error (Server.askSize_error hsize)
    exact .inl ⟨e, rfl, hresult, hworld⟩
  | ok size =>
    have hasked := Server.askSize_runs hsize
    have hlogged : (log (.downloading url)).Runs (server.after (.size url)) ()
        (server.after (.size url)) :=
      runs_log.2 rfl
    refine .inr ⟨size, rfl, ?_⟩
    rw [hasked.result_bind, hasked.world_bind, hlogged.result_bind, hlogged.world_bind]
    cases hdigest : server.digest .md5 url with
    | error e =>
      have hfails : (server.after (.size url)).digest .md5 url = .error e := hdigest
      obtain ⟨hresult, hworld⟩ := run_bind_of_error (Server.askDigest_error hfails)
      exact ⟨hworld, .inl ⟨e, rfl, hresult⟩⟩
    | ok digest =>
      have hanswers : (server.after (.size url)).digest .md5 url = .ok digest := hdigest
      have hdone := Server.askDigest_runs hanswers
      rw [hdone.result_bind, hdone.world_bind]
      exact ⟨rfl, .inr ⟨digest, rfl, rfl⟩⟩

/-- An entry says what the name of its file tells. -/
theorem describeUrl_ok {t : Tarball} (h : ((describeUrl host url).run server).1.result = .ok t) :
    ∃ d size digest, Details.ofName (baseName url) = .ok d ∧ server.size url = .ok size ∧
      server.digest .md5 url = .ok digest ∧ t = d.entry host url size digest := by
  cases hname : Details.ofName (baseName url) with
  | error property => exact nomatch (describeUrl_unidentified host server hname).1.symm.trans h
  | ok d =>
    rw [(describeUrl_identified hname).1] at h
    rcases d.askAbout_cases host url server with
      ⟨e, -, herror, -⟩ | ⟨size, hsize, -, ⟨e, -, herror⟩ | ⟨digest, hdigest, hok⟩⟩
    · exact nomatch herror.symm.trans h
    · exact nomatch herror.symm.trans h
    · exact ⟨d, size, digest, rfl, hsize, hdigest, (Except.ok.inj (hok.symm.trans h)).symm⟩

/-- A server that answers gets the URL described, if its name tells everything. -/
theorem describeUrl_answered (hname : Details.ofName (baseName url) = .ok d)
    (hsize : server.size url = .ok size) (hdigest : server.digest .md5 url = .ok digest) :
    ((describeUrl host url).run server).1.result = .ok (d.entry host url size digest) := by
  rw [(describeUrl_identified hname).1]
  rcases d.askAbout_cases host url server with
    ⟨e, herror, -⟩ | ⟨size', hsize', -, ⟨e, herror, -⟩ | ⟨digest', hdigest', hok⟩⟩
  · exact nomatch hsize.symm.trans herror
  · exact nomatch hdigest.symm.trans herror
  · obtain rfl := Except.ok.inj (hsize.symm.trans hsize')
    obtain rfl := Except.ok.inj (hdigest.symm.trans hdigest')
    exact hok

/-- **An entry lacks no field that it needs.** A name that tells everything is
not empty, and neither is the URL that it stands in. -/
theorem FileName.Details.entry_complete (h : ofName (baseName url) = .ok d) :
    (d.entry host url size digest).Complete := by
  have hplain := plain_of_ofName h
  obtain ⟨hversion, hshort⟩ := ne_empty_of_isRelease hplain.version
  have hname := ne_empty_of_ofName h
  have hurl : url ≠ "" := by
    rintro rfl
    exact hname (by decide +kernel)
  have hchecksum : (Checksum.mk .md5 digest).text ≠ "" := by
    intro hempty
    have htext := congrArg String.toList hempty
    simp [Checksum.text, Algorithm.label] at htext
  rw [← hplain.shortVersion] at hshort
  exact ⟨hname, hurl, hshort, hversion, hplain.os.2.2, .inl hchecksum⟩

/-- **A server is asked no more than needed**: nothing if the name does not tell
everything, and for the digest only when it has told the size. -/
theorem describeUrl_asked (host : Host) (url : String) (server : Server) :
    ∃ queries, ((describeUrl host url).run server).2.asked = server.asked ++ queries ∧
      (queries = [] ∨ queries = [.size url] ∨
        queries = [.size url, .digest .md5 url] ∧ ∃ size, server.size url = .ok size) := by
  cases hname : Details.ofName (baseName url) with
  | error property =>
    refine ⟨[], ?_, .inl rfl⟩
    rw [(describeUrl_unidentified host server hname).2, List.append_nil]
  | ok d =>
    rw [(describeUrl_identified hname).2]
    rcases d.askAbout_cases host url server with ⟨e, -, -, hafter⟩ | ⟨size, hsize, hafter, -⟩ <;>
      rw [hafter]
    · exact ⟨[.size url], rfl, .inr (.inl rfl)⟩
    · exact ⟨[.size url, .digest .md5 url], List.append_assoc .., .inr (.inr ⟨rfl, size, hsize⟩)⟩

theorem describeUrl_found {t : Tarball} {v : String}
    (h : ((describeUrl host url).run server).1.result = .ok t)
    (hv : v ∈ [t.version, t.shortVersion]) :
    (t.requestFor v).accepts t = true ∧ (t.requestFor v).shortVersion = t.shortVersion ∧
      (t.requestFor v).family.accepts t = true := by
  obtain ⟨d, size, digest, hname, -, -, ht⟩ := describeUrl_ok h
  have hdescribes : d.Describes t := ht ▸ d.entry_describes
  exact hdescribes.accepted (Details.plain_of_ofName hname) hv

/-- **Whatever is described from a URL can be kept in a catalog and found
again**, by its version and by its short version, and the guess for either looks
at it. Where the name does not tell everything the server is not asked, and it
is asked for the digest only when it has told the size. -/
theorem describeUrl_resolvable (host : Host) (url : String) (server : Server) :
    (∀ t, ((describeUrl host url).run server).1.result = .ok t → t.issues = [] ∧
      ∀ v ∈ [t.version, t.shortVersion],
        (t.requestFor v).accepts t = true ∧ (t.requestFor v).shortVersion = t.shortVersion ∧
          ∀ tarballs : List Tarball, t ∈ tarballs → t ∈ (t.requestFor v).family.select tarballs) ∧
    ((flavor? (baseName url) = none ∨ os? (baseName url) = none ∨ version? (baseName url) = none ∨
        arch? (baseName url) = none) →
      (∃ property, ((describeUrl host url).run server).1.result =
        .error (.unidentified property (baseName url))) ∧
        ((describeUrl host url).run server).2 = server) ∧
    ∃ queries, ((describeUrl host url).run server).2.asked = server.asked ++ queries ∧
      (queries = [] ∨ queries = [.size url] ∨
        queries = [.size url, .digest .md5 url] ∧ ∃ size, server.size url = .ok size) := by
  refine ⟨fun t ht => ⟨?_, fun v hv => ?_⟩, fun hnone => ?_, describeUrl_asked host url server⟩
  · obtain ⟨d, size, digest, hname, -, -, rfl⟩ := describeUrl_ok ht
    exact Tarball.issues_nil_iff.2 (Details.entry_complete hname)
  · obtain ⟨haccepts, hshort, hfamily⟩ := describeUrl_found ht hv
    exact ⟨haccepts, hshort, fun tarballs hmem => List.mem_filter.2 ⟨hmem, hfamily⟩⟩
  · obtain ⟨property, hname⟩ := Details.ofName_of_none hnone
    obtain ⟨hresult, hworld⟩ := describeUrl_unidentified host server hname
    exact ⟨⟨property, hresult⟩, hworld⟩

/-- A minimal build of a fork, published below a URL that ends in a slash, is
found by its short version; a name without an architecture costs no question. -/
theorem describeUrl_resolvable_minimal :
    let host : Host :=
      ⟨.darwin, .arm64, 7, ⟨2024, 5, 1, by decide⟩,
        ⟨0, 0, 0, 0, by decide, by decide, by decide, by decide⟩⟩
    let server : Server := ⟨fun _ => .ok 5, fun _ _ => .ok "00", []⟩
    let url := "https://h/Percona-Server-8.0.35-27-Linux.x86_64-minimal.tar.gz/"
    (∃ t, ((describeUrl host url).run server).1.result = .ok t ∧ t.shortVersion = "8.0" ∧
      (t.requestFor "8.0").accepts t = true) ∧
    ((describeUrl host "https://h/mysql-8.0.35-linux.tar.gz").run server).2 = server := by
  intro host server url
  constructor
  · have hok : ((describeUrl host url).run server).1.result.map (·.shortVersion) = .ok "8.0" := by
      decide +kernel
    cases ht : ((describeUrl host url).run server).1.result with
    | error e =>
      rw [ht] at hok
      exact nomatch hok
    | ok t =>
      rw [ht] at hok
      have hshort : t.shortVersion = "8.0" := Except.ok.inj hok
      have hmem : "8.0" ∈ [t.version, t.shortVersion] := by simp [hshort]
      obtain ⟨-, hfound⟩ := (describeUrl_resolvable host _ server).1 t ht
      exact ⟨t, rfl, hshort, (hfound "8.0" hmem).1⟩
  · exact ((describeUrl_resolvable host _ server).2.1 (.inr (.inr (.inr (by decide +kernel))))).2

end ReleaseCatalog
