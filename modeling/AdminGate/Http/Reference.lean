import AdminGate.Http.Split
import AdminGate.Text.Parts

/-!
# References

An address may be given relative to another one: what it leaves out at its front is taken from
there, and its path starts in the directory of the other path.  Schemes that know no relative
addresses leave a reference as it is.
-/

namespace AdminGate.Http

/-- The schemes with relative addresses. -/
def relativeSchemes : List String := [
  "", "ftp", "http", "gopher", "nntp", "imap", "wais", "file", "https", "shttp", "mms", "prospero",
  "rtsp", "rtspu", "sftp", "svn", "svn+ssh", "ws", "wss"]

/-- The schemes whose addresses name a network location. -/
def locatedSchemes : List String := [
  "", "ftp", "http", "gopher", "nntp", "telnet", "imap", "wais", "file", "mms", "https", "shttp",
  "snews", "prospero", "rtsp", "rtspu", "rsync", "svn", "svn+ssh", "sftp", "nfs", "git", "git+ssh",
  "ws", "wss"]

/-- The schemes whose paths may end with parameters. -/
def parameterSchemes : List String := [
  "", "ftp", "hdl", "prospero", "http", "imap", "https", "shttp", "rtsp", "rtspu", "sip", "sips",
  "mms", "sftp", "tel"]

/-- A path and the parameters of its last segment, if its scheme knows any. -/
def splitParameters (scheme path : List Char) : List Char × List Char :=
  let last := (path.reverse.takeWhile (· != '/')).reverse
  if parameterSchemes.contains (String.ofList scheme) && last.contains ';' then
    let before := last.takeWhile (· != ';')
    (path.take (path.length - last.length) ++ before, last.drop (before.length + 1))
  else (path, [])

/-- The text of the parts of an address. -/
def SplitAddress.text (address : SplitAddress) : List Char :=
  let isLocated := !address.netloc.isEmpty ||
    (!address.scheme.isEmpty && locatedSchemes.contains (String.ofList address.scheme) &&
      !"//".toList.isPrefixOf address.path)
  let path :=
    if isLocated && !address.path.isEmpty && address.path.head? != some '/' then
      '/' :: address.path
    else address.path
  (if address.scheme.isEmpty then [] else address.scheme ++ [':']) ++
    (if isLocated then "//".toList ++ address.netloc else []) ++ path ++
    (if address.query.isEmpty then [] else '?' :: address.query) ++
    (if address.fragment.isEmpty then [] else '#' :: address.fragment)

/-- The segments of a path that starts in the directory of another one. -/
def segmentsFrom (base path : List Char) : List (List Char) :=
  let own := Text.splitAt '/' path
  if path.head? == some '/' then own
  else
    let before := Text.splitAt '/' base
    let directory := if before.getLast? == some [] then before else before.dropLast
    match directory ++ own with
    | [] => []
    | [only] => [only]
    | first :: rest =>
        first :: rest.dropLast.filter (!·.isEmpty) ++ rest.getLast?.toList

/-- Segments without dots, two dots taking the segment before them away. -/
def withoutDotSegments (segments : List (List Char)) : List (List Char) :=
  let walked := segments.foldl (fun walked segment =>
    if segment == ['.', '.'] then walked.dropLast
    else if segment == ['.'] then walked
    else walked ++ [segment]) []
  match segments.getLast? with
  | some ['.'] | some ['.', '.'] => walked ++ [[]]
  | _ => walked

/-- The path that a path means behind a base path. -/
def pathFrom (base path : List Char) : List Char :=
  let joined := Text.joinWith '/' (withoutDotSegments (segmentsFrom base path))
  if joined.isEmpty then ['/'] else joined

/-- The address that a reference means at a base address. -/
def joinAddress (base reference : List Char) : Except SplitError (List Char) := do
  if base.isEmpty then return reference
  if reference.isEmpty then return base
  let outer ← splitAddress base
  let inner ← splitAddress reference
  let scheme := if inner.scheme.isEmpty then outer.scheme else inner.scheme
  let (outerPath, outerParameters) := splitParameters outer.scheme outer.path
  let (innerPath, innerParameters) := splitParameters scheme inner.path
  let withParameters (path parameters : List Char) : List Char :=
    if parameters.isEmpty then path else path ++ ';' :: parameters
  if scheme != outer.scheme || !relativeSchemes.contains (String.ofList scheme) then
    return reference
  let isLocated := locatedSchemes.contains (String.ofList scheme)
  if isLocated && !inner.netloc.isEmpty then
    return { inner with scheme, path := withParameters innerPath innerParameters }.text
  let netloc := if isLocated then outer.netloc else inner.netloc
  if innerPath.isEmpty && innerParameters.isEmpty then
    return {
      scheme, netloc
      path := withParameters outerPath outerParameters
      query := if inner.query.isEmpty then outer.query else inner.query
      fragment := inner.fragment : SplitAddress }.text
  return {
    scheme, netloc
    path := withParameters (pathFrom outerPath innerPath) innerParameters
    query := inner.query
    fragment := inner.fragment : SplitAddress }.text

end AdminGate.Http
