import ReleaseCatalog.Checksum
import ReleaseCatalog.Operation

/-!
# Servers

A server that publishes tarballs can be asked for the size of a file and for its
digest, which takes a download. It keeps what it was asked, so that one can tell
what an operation costs.
-/

namespace ReleaseCatalog

/-- A question to a server. -/
inductive Query where
  | size (url : String)
  | digest (algorithm : Algorithm) (url : String)
deriving DecidableEq

/-- A server by its answers. -/
structure Server where
  /-- The size of a file in bytes, zero if the server does not tell it. -/
  size : String → Except FetchError Int64
  /-- The digest of a file in hexadecimal digits. -/
  digest : Algorithm → String → Except FetchError String
  /-- The questions so far, the first one in front. -/
  asked : List Query := []

namespace Server

def unreachable : Server := ⟨fun _ => .error .network, fun _ _ => .error .network, []⟩

def ask (q : Query) (answer : Server → Except FetchError α) : Operation Server α := fun s =>
  (.ofExcept ((answer s).mapError .fetch), { s with asked := s.asked ++ [q] })

def askSize (url : String) : Operation Server Int64 := ask (.size url) (·.size url)

def askDigest (a : Algorithm) (url : String) : Operation Server String :=
  ask (.digest a url) (·.digest a url)

end Server

end ReleaseCatalog
