import BlockingQuery.Compression.Wrapper
import BlockingQuery.Http.Headers

/-!
# Content codings

The field `Content-Encoding` lists how a body was coded, in the order in which that was done.
`ContentCoding.decode` undoes it. Names that are not known do not count.
-/

namespace BlockingQuery

open Text

/-- A way to code a body. -/
inductive ContentCoding
  | identity
  | gzip
  | deflate
  deriving DecidableEq, Repr

namespace ContentCoding

/-- The coding of a name. -/
def ofName? (name : String) : Option ContentCoding :=
  [("identity", .identity), ("gzip", .gzip), ("deflate", .deflate)].lookup name

/-- The codings of a body, in the order in which they were done. -/
def ofHeaders (headers : Headers) : List ContentCoding :=
  let fields := headers.filter fun h => Headers.sameName h.1 "Content-Encoding"
  (fields.flatMap fun h => h.2.toList.splitOn ',').filterMap fun name =>
    ofName? (lower (String.ofList (trim name)))

/-- Undoes a coding. Data of the coding `deflate` may come without a wrapper. -/
def undo : ContentCoding → List UInt8 → Except Inflate.Fault (List UInt8)
  | .identity, bs => .ok bs
  | .gzip, bs => Wrapper.gzip.unwrap bs
  | .deflate, bs =>
    match Wrapper.zlib.unwrap bs with
    | .ok found => .ok found
    | .error _ => Wrapper.bare.unwrap bs

/-- The body before it was coded. -/
def decode (headers : Headers) (body : List UInt8) : Except Inflate.Fault (List UInt8) :=
  (ofHeaders headers).foldr (fun coding found => found.bind coding.undo) (.ok body)

/-- The text of a fault. -/
def message (f : Inflate.Fault) : String :=
  s!"Error -3 while decompressing data: {f.message}"

end ContentCoding

end BlockingQuery
