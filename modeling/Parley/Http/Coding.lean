/-
Codings of bodies: what stands for a body while it is sent.
-/
import Parley.Compression.Brotli
import Parley.Compression.Deflate
import Parley.Http.Headers
import Parley.Text.Blank

namespace Parley.Http

inductive Coding where
  | brotli
  | deflate
  | gzip
  | zstd
deriving DecidableEq, Repr

namespace Coding

/-- The names of codings, in letters of any case. -/
def names : List (String × Coding) :=
  [("br", .brotli), ("deflate", .deflate), ("gzip", .gzip), ("zstd", .zstd)]

/-- The coding that a body is said to have. One that is not known, or
several, are passed over. -/
def ofHeaders? (headers : Headers) : Option Coding :=
  (headers.text? "content-encoding").bind fun value =>
    names.lookup (String.ofList ((Text.trim value.toList).map Char.toLower))

/-- The body that some octets stand for. What the last two codings make of
a body begins with octets that no text has. -/
def decode? : Coding → List UInt8 → Option (List UInt8)
  | .brotli => Compression.Brotli.decode?
  | .deflate => Compression.Deflate.decode?
  | .gzip | .zstd => fun _ => none

end Coding
end Parley.Http
