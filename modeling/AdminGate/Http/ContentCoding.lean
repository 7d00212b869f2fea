import AdminGate.Compression.Envelope
import AdminGate.Http.Response
import AdminGate.Text.Parts

/-!
# Content codings

The body of an answer may be packed, even several times; a header field names the codings in the
order in which they were applied.  `Response.decoded?` undoes them, the last one first.
-/

namespace AdminGate.Http

inductive ContentCoding where
  | plain
  | file
  | stream
deriving DecidableEq, Repr

namespace ContentCoding

def ofName? (name : String) : Option ContentCoding :=
  [("identity", plain), ("gzip", file), ("deflate", stream)].lookup name

/-- Undo a coding.  A stream may come without its envelope; nothing stays nothing. -/
def undo? (coding : ContentCoding) (body : List UInt8) : Option (List UInt8) :=
  if body.isEmpty then some []
  else
    match coding with
    | plain => some body
    | file => Compression.unpackFile? body
    | stream =>
        match Compression.unpackStream? body with
        | some unpacked => some unpacked
        | none => Compression.unpackBare? body

end ContentCoding

namespace Response

/-- The codings of a body in the order in which they were applied, those not understood left
out. -/
def codings (response : Response) : List ContentCoding :=
  ((response.values "content-encoding").flatMap fun value =>
    Text.splitAt ',' value.toList).filterMap fun name =>
      ContentCoding.ofName? (Text.lowercased (String.ofList (Text.trim name)))

/-- The answer with its body as it was before it was packed, unless the body is broken. -/
def decoded? (response : Response) : Option Response :=
  (response.codings.foldrM ContentCoding.undo? response.body).map fun body =>
    { response with body }

end Response

end AdminGate.Http
