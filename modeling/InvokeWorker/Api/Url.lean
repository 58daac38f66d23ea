import InvokeWorker.Text.Blank
import InvokeWorker.Text.Encoding
import InvokeWorker.Text.Quoted
import InvokeWorker.Value.Basic

/-!
# URLs

The URL of a request is built from an address and an id that may hold anything. Before it is used
it is normalized: scheme and host in lower case, the default port left out, the segments `.` and
`..` of the path resolved, and whatever may not stand in a component written as octets by number.
What is an octet by number already stays. Control characters and malformed hosts and ports are
refused.
-/

namespace InvokeWorker

/-- Why a text is no URL. -/
inductive UrlFault where
  /-- It is too long. -/
  | tooLong
  /-- It holds a control character at a position. -/
  | control (c : CodePoint) (position : Nat)
  /-- The port is no number. -/
  | port (t : Text)
  /-- The host looks like an address of four numbers but is none. -/
  | ipv4 (t : Text)
  /-- The host looks like an address in brackets but is none. -/
  | ipv6 (t : Text)
  /-- The path of a URL without host starts with two slashes. -/
  | relativePath
  /-- A component holds surrogates. -/
  | surrogate (fault : Utf8.Unencodable)
  deriving DecidableEq, Repr

namespace UrlFault

/-- The wording of a fault. -/
def message : UrlFault → Text
  | tooLong => "URL too long"
  | control c position =>
    "Invalid non-printable ASCII character in URL, " ++ Text.quoted [c] ++ " at position "
      ++ Text.ofNat position ++ "."
  | port t => "Invalid port: " ++ t.quoted
  | ipv4 t => "Invalid IPv4 address: " ++ t.quoted
  | ipv6 t => "Invalid IPv6 address: " ++ t.quoted
  | relativePath => "Relative URLs cannot have a path starting with '//'"
  | surrogate fault => fault.message

/-- The error a fault is raised as. -/
def toThrown (fault : UrlFault) : Thrown :=
  match fault with
  | surrogate _ => .builtin "UnicodeEncodeError" fault.message
  | _ => ⟨.transport "InvalidURL", [.text fault.message], .plain⟩

end UrlFault

/-- A URL. -/
structure Url where
  /-- The scheme. -/
  scheme : Text
  /-- The user, if one is named. -/
  user : Text
  /-- The host, without brackets. -/
  host : Text
  /-- The port, unless it is the default one. -/
  port : Option Int
  /-- The path. -/
  path : Text
  /-- The query, if there is one. -/
  query : Option Text
  /-- The fragment, if there is one. -/
  fragment : Option Text
  deriving DecidableEq, Repr

namespace Url

/-- The longest URL. -/
def maxLength : Nat := 65536

/-- A code point that stands for itself in every component. -/
def isUnreserved (c : CodePoint) : Bool :=
  c.isLetter || c.isDigit || c = 45 || c = 46 || c = 95 || c = 126

/-- A visible ASCII character other than a space that is not in a list. -/
def isVisibleExcept (excluded : Text) (c : CodePoint) : Bool :=
  0x20 < c.val && c.val < 0x7F && !excluded.contains c

/-- What may stand in a path. -/
def isPathSafe : CodePoint → Bool :=
  isVisibleExcept "\"#<>?`\x7b\x7d"

/-- What may stand in a query. -/
def isQuerySafe : CodePoint → Bool :=
  isVisibleExcept "\"#<>"

/-- What may stand in a fragment. -/
def isFragmentSafe : CodePoint → Bool :=
  isVisibleExcept "\"<>`"

/-- What may stand in a user. -/
def isUserSafe : CodePoint → Bool :=
  isVisibleExcept "\"#<>?`\x7b\x7d/:;=@[\\]^|"

/-- What may stand in a host. -/
def isHostSafe (c : CodePoint) : Bool :=
  isUnreserved c || ("!$&'()*+,;=\"`\x7b\x7d%|\\" : Text).contains c

/-- An octet by number. -/
def numbered (o : UInt8) : Text :=
  37 :: (Text.hex 2 o.toNat).map fun c =>
    if 97 ≤ c.val ∧ c.val ≤ 102 then CodePoint.ofNat (c.val - 32) else c

/-- A component with what is not safe as octets by number. -/
def quote (safe : CodePoint → Bool) (t : Text) : Text :=
  t.flatMap fun c => if safe c then [c] else (Utf8.units c).flatMap numbered

/-- The last segments of a path once one more is taken into account. -/
def addSegment (segments : List Text) (segment : Text) : List Text :=
  if segment = "." then segments
  else if segment = ".." then
    if segments = [] ∨ segments = [[]] then segments else segments.dropLast
  else segments ++ [segment]

/-- The path with the segments `.` and `..` resolved. -/
def resolve (path : Text) : Text :=
  let segments := Text.splitOn 47 path
  if segments.contains (".") || segments.contains ("..") then
    Text.join "/" (segments.foldl addSegment [])
  else path

/-- The number of a decimal octet of an address. -/
def isDecimalOctet (t : Text) : Bool :=
  !t.isEmpty && t.all CodePoint.isDigit && t.length ≤ 3 && Text.digitsValue t ≤ 255
    && (t.length = 1 || t.head? ≠ some 48)

/-- Four runs of digits separated by any one code point each, which may be a digit itself: a run
    of `n` digits can be taken for one run more for every two digits beyond the first. -/
def looksLikeIpv4 (host : Text) : Bool :=
  let runs := Text.splitOn 46 (host.map fun c => if c.isDigit then c else 46)
  runs.length ≤ 4 && runs.all (!·.isEmpty)
    && 4 ≤ runs.foldl (fun n run => n + 1 + (run.length - 1) / 2) 0

/-- An address of four numbers. -/
def isIpv4 (host : Text) : Bool :=
  let parts := Text.splitOn 46 host
  parts.length = 4 && parts.all isDecimalOctet

/-- A group of an address of eight groups. -/
def isHexGroup (t : Text) : Bool :=
  !t.isEmpty && t.length ≤ 4 && t.all fun c => c.hexDigit?.isSome

/-- How many groups a list of groups makes, where an address of four numbers may stand last and
    counts as two. -/
def groupCount? (groups : List Text) : Option Nat :=
  match groups.reverse with
  | [] => some 0
  | last :: before =>
    if before.all isHexGroup then
      if isHexGroup last then some groups.length
      else if isIpv4 last then some (groups.length + 1)
      else none
    else none

/-- The groups of a part of an address; none of an empty part. -/
def groupsOf (t : Text) : List Text :=
  if t.isEmpty then [] else Text.splitOn 58 t

/-- The parts of a text around the first double colon. -/
def cutDoubleColon? : Text → Option (Text × Text)
  | [] => none
  | 58 :: 58 :: rest => some ([], rest)
  | c :: rest => (cutDoubleColon? rest).map fun (before, after) => (c :: before, after)

/-- An address of eight groups, some of which a double colon may stand for. -/
def isIpv6 (t : Text) : Bool :=
  let address := match Text.cutFirst? 37 t with
    | some (before, zone) => if zone.isEmpty || zone.contains 37 then [] else before
    | none => t
  match cutDoubleColon? address with
  | none => groupCount? (groupsOf address) = some 8
  | some (before, after) =>
    match before.isEmpty || (groupsOf before).all isHexGroup, groupCount? (groupsOf after) with
    | true, some n => (groupsOf before).length + n < 8
    | _, _ => false

/-- The host as it is used. -/
def readHost (host : Text) : Except UrlFault Text :=
  if host.isEmpty then .ok []
  else if looksLikeIpv4 host then if isIpv4 host then .ok host else .error (.ipv4 host)
  else if host.head? = some 91 ∧ host.getLast? = some 93 then
    let inner := (host.drop 1).dropLast
    if isIpv6 inner then .ok inner else .error (.ipv6 host)
  else .ok (quote isHostSafe host.toLower)

/-- The port of a text: digits, between which underscores may stand, with a sign and white space
    around them. -/
def portNumber? (t : Text) : Option Int :=
  let t := t.trim
  let (negative, digits) := match t with
    | 45 :: rest => (true, rest)
    | 43 :: rest => (false, rest)
    | t => (false, t)
  let groups := Text.splitOn 95 digits
  if groups.all fun g => !g.isEmpty && g.all CodePoint.isDigit then
    let n : Int := Text.digitsValue groups.flatten
    some (if negative then -n else n)
  else none

/-- The port as it is used. -/
def readPort (scheme port : Text) : Except UrlFault (Option Int) :=
  if port.isEmpty then .ok none
  else match portNumber? port with
    | none => .error (.port port)
    | some n =>
      let standard := (scheme = "http" ∧ n = 80) ∨ (scheme = "https" ∧ n = 443)
      .ok (if standard then none else some n)

/-- User, host and port of the part of a URL between two slashes and the path. -/
def splitAuthority (authority : Text) : Text × Text × Text :=
  let (user, rest) := (Text.cutLast? 64 authority).getD ([], authority)
  let (host, port) := match rest with
    | 91 :: _ => match Text.cutLast? 93 rest with
      | some (host, port) => (host ++ [93], port)
      | none => (rest.takeWhile (· ≠ 58), rest.dropWhile (· ≠ 58))
    | _ => (rest.takeWhile (· ≠ 58), rest.dropWhile (· ≠ 58))
  (user, host, match port with
    | 58 :: port => port
    | port => port)

/-- The scheme in front of a colon, if there is one. -/
def splitScheme (t : Text) : Text × Text :=
  let isSchemeRest (c : CodePoint) : Bool :=
    c.isLetter || c.isDigit || c = 43 || c = 46 || c = 45
  match Text.cutFirst? 58 t with
  | some (c :: scheme, rest) =>
    if c.isLetter && scheme.all isSchemeRest then (c :: scheme, rest) else ([], t)
  | _ => ([], t)

/-- Reads and normalizes a URL. -/
def parse (t : Text) : Except UrlFault Url := do
  if maxLength < t.length then throw .tooLong
  match t.zipIdx.find? fun (c, _) => c.isAscii && !c.isPrintable with
  | some (c, position) => throw (.control c position)
  | none => pure ()
  let (scheme, rest) := splitScheme t
  let (authority, rest) := match rest with
    | 47 :: 47 :: rest =>
      let inside (c : CodePoint) : Bool := c ≠ 47 && c ≠ 63 && c ≠ 35
      (rest.takeWhile inside, rest.dropWhile inside)
    | rest => ([], rest)
  let path := rest.takeWhile fun c => c ≠ 63 && c ≠ 35
  let rest := rest.dropWhile fun c => c ≠ 63 && c ≠ 35
  let (query, rest) : Option Text × Text := match rest with
    | 63 :: rest => (some (rest.takeWhile (· ≠ 35)), rest.dropWhile (· ≠ 35))
    | rest => (none, rest)
  let fragment := match rest with
    | 35 :: rest => some rest
    | _ => none
  let (user, host, port) := splitAuthority authority
  let scheme := scheme.toLower
  let host ← readHost host
  let port ← readPort scheme port
  let hasAuthority := !user.isEmpty || !host.isEmpty || port.isSome
  if !hasAuthority && Text.startsWith path "//" then throw .relativePath
  match t.find? CodePoint.isSurrogate with
  | some c => throw (.surrogate ⟨0, [c]⟩)
  | none => pure ()
  let path := if hasAuthority || !scheme.isEmpty then resolve path else path
  return ⟨scheme, quote isUserSafe user, host, port, quote isPathSafe path,
    query.map (quote isQuerySafe), fragment.map (quote isFragmentSafe)⟩

/-- The text of a URL. -/
def toText (u : Url) : Text :=
  let user := if u.user.isEmpty then ([] : Text) else u.user ++ [64]
  let host := if u.host.contains 58 then 91 :: u.host ++ [93] else u.host
  let port := match u.port with
    | none => ([] : Text)
    | some n => 58 :: Text.ofInt n
  let authority := user ++ host ++ port
  (if u.scheme.isEmpty then ([] : Text) else u.scheme ++ [58])
    ++ (if authority.isEmpty then ([] : Text) else 47 :: 47 :: authority)
    ++ u.path
    ++ (match u.query with
      | none => ([] : Text)
      | some q => 63 :: q)
    ++ (match u.fragment with
      | none => ([] : Text)
      | some f => 35 :: f)

end Url

end InvokeWorker
