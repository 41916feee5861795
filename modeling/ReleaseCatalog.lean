import ReleaseCatalog.CatalogFile
import ReleaseCatalog.Checksum
import ReleaseCatalog.Date.Calendar
import ReleaseCatalog.Date.Internet
import ReleaseCatalog.Date.Layout
import ReleaseCatalog.Date.Mail
import ReleaseCatalog.Date.Scan
import ReleaseCatalog.Describe
import ReleaseCatalog.Dict
import ReleaseCatalog.Digest.Block
import ReleaseCatalog.Digest.Md5
import ReleaseCatalog.Digest.Sha1
import ReleaseCatalog.Digest.Sha2
import ReleaseCatalog.Disk.Action
import ReleaseCatalog.Disk.Cause
import ReleaseCatalog.Disk.Machine
import ReleaseCatalog.Disk.Tree
import ReleaseCatalog.Document
import ReleaseCatalog.Edit
import ReleaseCatalog.Error
import ReleaseCatalog.FileName
import ReleaseCatalog.Guess
import ReleaseCatalog.Integrity
import ReleaseCatalog.Json.Fields
import ReleaseCatalog.Json.Printer
import ReleaseCatalog.Json.Reader
import ReleaseCatalog.Json.Token
import ReleaseCatalog.Log
import ReleaseCatalog.LogFile
import ReleaseCatalog.Operation
import ReleaseCatalog.Order
import ReleaseCatalog.Path
import ReleaseCatalog.Platform
import ReleaseCatalog.Proofs.Acceptance
import ReleaseCatalog.Proofs.Addition
import ReleaseCatalog.Proofs.Answer
import ReleaseCatalog.Proofs.Atomicity
import ReleaseCatalog.Proofs.CanonicalForm
import ReleaseCatalog.Proofs.CatalogOrder
import ReleaseCatalog.Proofs.Checksum
import ReleaseCatalog.Proofs.ChecksumField
import ReleaseCatalog.Proofs.ComputedFields
import ReleaseCatalog.Proofs.Date.Scan
import ReleaseCatalog.Proofs.Date.Stamp
import ReleaseCatalog.Proofs.Described
import ReleaseCatalog.Proofs.DescribedFile
import ReleaseCatalog.Proofs.Dict
import ReleaseCatalog.Proofs.Digest.Block
import ReleaseCatalog.Proofs.Digest.Conformance
import ReleaseCatalog.Proofs.Digest.Md5
import ReleaseCatalog.Proofs.Digest.Roots
import ReleaseCatalog.Proofs.Digest.Sha1
import ReleaseCatalog.Proofs.Digest.Sha2
import ReleaseCatalog.Proofs.Digest.Sines
import ReleaseCatalog.Proofs.Digest.Standard
import ReleaseCatalog.Proofs.Digest.Words
import ReleaseCatalog.Proofs.Disk.Action
import ReleaseCatalog.Proofs.Disk.Frame
import ReleaseCatalog.Proofs.Disk.Machine
import ReleaseCatalog.Proofs.Disk.Route
import ReleaseCatalog.Proofs.Disk.Trail
import ReleaseCatalog.Proofs.Disk.Tree
import ReleaseCatalog.Proofs.Document
import ReleaseCatalog.Proofs.DocumentFields
import ReleaseCatalog.Proofs.EditHistory
import ReleaseCatalog.Proofs.EditRuns
import ReleaseCatalog.Proofs.FileDigest
import ReleaseCatalog.Proofs.FileName
import ReleaseCatalog.Proofs.Findings
import ReleaseCatalog.Proofs.Freshness
import ReleaseCatalog.Proofs.Grouping
import ReleaseCatalog.Proofs.GuessRuns
import ReleaseCatalog.Proofs.GuessedName
import ReleaseCatalog.Proofs.GuessedPlatform
import ReleaseCatalog.Proofs.GuessedShortVersion
import ReleaseCatalog.Proofs.Guessing
import ReleaseCatalog.Proofs.Json.CodeUnits
import ReleaseCatalog.Proofs.Json.Grammar
import ReleaseCatalog.Proofs.Json.Lexeme
import ReleaseCatalog.Proofs.Json.Numeral
import ReleaseCatalog.Proofs.Json.Reading
import ReleaseCatalog.Proofs.Json.RoundTrip
import ReleaseCatalog.Proofs.Loading
import ReleaseCatalog.Proofs.Merging
import ReleaseCatalog.Proofs.Newest
import ReleaseCatalog.Proofs.NextRelease
import ReleaseCatalog.Proofs.Normalization
import ReleaseCatalog.Proofs.Outcome
import ReleaseCatalog.Proofs.Path
import ReleaseCatalog.Proofs.Persistence
import ReleaseCatalog.Proofs.ReleaseNumber
import ReleaseCatalog.Proofs.Resolution
import ReleaseCatalog.Proofs.Selectable
import ReleaseCatalog.Proofs.Sequence
import ReleaseCatalog.Proofs.Sorting
import ReleaseCatalog.Proofs.Template
import ReleaseCatalog.Proofs.Text.Digits
import ReleaseCatalog.Proofs.Text.Encoding
import ReleaseCatalog.Proofs.Text.Lower
import ReleaseCatalog.Proofs.Text.LowerTwice
import ReleaseCatalog.Proofs.Text.PaddedDigits
import ReleaseCatalog.Proofs.Text.Search
import ReleaseCatalog.Proofs.Text.Split
import ReleaseCatalog.Proofs.Uniqueness
import ReleaseCatalog.Proofs.Verification
import ReleaseCatalog.Proofs.VersionComparison
import ReleaseCatalog.Proofs.VersionNumbers
import ReleaseCatalog.Proofs.VersionOrder
import ReleaseCatalog.Proofs.VersionReading
import ReleaseCatalog.Proofs.VersionSearch
import ReleaseCatalog.Proofs.VersionText
import ReleaseCatalog.Report
import ReleaseCatalog.Request
import ReleaseCatalog.Resolve
import ReleaseCatalog.Server
import ReleaseCatalog.Settings
import ReleaseCatalog.Tarball
import ReleaseCatalog.Template
import ReleaseCatalog.Text.Blank
import ReleaseCatalog.Text.Decimal
import ReleaseCatalog.Text.Lower
import ReleaseCatalog.Text.LowerTable
import ReleaseCatalog.Text.Quoted
import ReleaseCatalog.Text.Search
import ReleaseCatalog.Text.Split
import ReleaseCatalog.Text.Utf8
import ReleaseCatalog.Text.VisibleTable
import ReleaseCatalog.Verify
import ReleaseCatalog.Version
