import Remittance.Http.Host

/-!
# URLs

A URL in its parts: the scheme and the host in lower case, the port only where it is not the usual
one of its scheme, the path without steps to itself or upward, and everything percent-encoded that
may not stand where it is. A URL without a scheme or a host is taken as a path of the host that is
not named.
-/

set_option autoImplicit false

namespace Remittance.Http

/-- A URL. -/
structure Url where
  scheme : List Char
  user : List Char
  host : List Char
  port : Option Int
  path : List Char
  query : Option (List Char)
  fragment : Option (List Char)

namespace Url

/-- What is wrong with a URL. -/
inductive Fault where
  | tooLong
  | partTooLong (part : String)
  | control (c : Char) (position : Nat)
  | host (e : Host.Fault)
  | port (text : String)
  | doubleSlash
  | colon
  | noScheme (url : String)
deriving DecidableEq

/-- The wording of a fault. -/
def Fault.message : Fault → String
  | .tooLong => "URL too long"
  | .partTooLong part => "URL component '" ++ part ++ "' too long"
  | .control c position =>
    "Invalid non-printable ASCII character in URL, " ++ Quoted.quote (String.ofList [c]) ++
      " at position " ++ Numeral.ofNat position ++ "."
  | .host e => e.message
  | .port text => "Invalid port: " ++ Quoted.quote text
  | .doubleSlash => "Relative URLs cannot have a path starting with '//'"
  | .colon => "Relative URLs cannot have a path starting with ':'"
  | .noScheme url => "unknown url type: " ++ Quoted.quote url

/-- The most characters of a URL or of one of its parts. -/
def maxLength : Nat := 65536

/-- Whether a character is a control character of ASCII. -/
def isControl (c : Char) : Bool := c.toNat < 0x20 || c.toNat == 0x7F

/-- Whether a character is a visible one of ASCII or the space. -/
def isVisible (c : Char) : Bool := 0x20 ≤ c.toNat && c.toNat < 0x7F

/-- Whether a character may stand in a fragment. -/
def isFragmentChar (c : Char) : Bool :=
  isVisible c && !([' ', '"', '<', '>'].contains c || c.toNat == 0x60)

/-- Whether a character may stand in a query. -/
def isQueryChar (c : Char) : Bool := isVisible c && !([' ', '"', '#', '<', '>'].contains c)

/-- Whether a character may stand in a path. -/
def isPathChar (c : Char) : Bool :=
  isQueryChar c && !(['?', '\x7b', '\x7d'].contains c || c.toNat == 0x60)

/-- Whether a character may stand in front of the host. -/
def isUserChar (c : Char) : Bool :=
  isPathChar c && !(['/', ';', '=', '@', '[', '\\', ']', '^', '|'].contains c)

/-- The parts of a URL as they are written. -/
structure Parts where
  scheme : List Char
  authority : List Char
  path : List Char
  query : Option (List Char)
  fragment : Option (List Char)

/-- Whether a character may stand in a scheme behind its first one. -/
def isSchemeChar (c : Char) : Bool := c.isAlphanum || ['+', '.', '-'].contains c

/-- The scheme in front of the first colon, and the rest; without one, all is the rest. -/
def cutScheme (cs : List Char) : List Char × List Char :=
  let scheme := cs.takeWhile isSchemeChar
  match cs.dropWhile isSchemeChar with
  | ':' :: rest => if scheme.head?.all Char.isAlpha then (scheme, rest) else ([], cs)
  | _ => ([], cs)

/-- The part behind a sign, if the rest begins with it. -/
def cutAfter (sign : Char) (isEnd : Char → Bool) : List Char → Option (List Char) × List Char
  | c :: rest =>
    if c = sign then
      (some (rest.takeWhile fun d => !isEnd d), rest.dropWhile fun d => !isEnd d)
    else (none, c :: rest)
  | [] => (none, [])

/-- The parts that a text spells. -/
def Parts.ofChars (cs : List Char) : Parts :=
  let (scheme, cs) := cutScheme cs
  let isEnd := fun c => c == '/' || c == '?' || c == '#'
  let (authority, cs) := match cs with
    | '/' :: '/' :: rest =>
      (rest.takeWhile fun c => !isEnd c, rest.dropWhile fun c => !isEnd c)
    | _ => ([], cs)
  let isPathEnd := fun c => c == '?' || c == '#'
  let path := cs.takeWhile fun c => !isPathEnd c
  let (query, cs) := cutAfter '?' (· == '#') (cs.dropWhile fun c => !isPathEnd c)
  let (fragment, _) := cutAfter '#' (fun _ => false) cs
  { scheme, authority, path, query, fragment }

/-- What stands in front of the last at sign, and what stands behind it. -/
def cutUser (cs : List Char) : List Char × List Char :=
  if cs.contains '@' then
    (((cs.reverse.dropWhile (· ≠ '@')).drop 1).reverse, (cs.reverse.takeWhile (· ≠ '@')).reverse)
  else ([], cs)

/-- The host and the port. A host in brackets reaches to the last closing one. -/
def cutPort (cs : List Char) : List Char × List Char :=
  let bracketed := (cs.reverse.dropWhile (· ≠ ']')).reverse
  let (host, rest) :=
    if cs.head? = some '[' ∧ !bracketed.isEmpty then (bracketed, cs.drop bracketed.length)
    else (cs.takeWhile (· ≠ ':'), cs.dropWhile (· ≠ ':'))
  (host, if rest.head? = some ':' then rest.drop 1 else rest)

/-- The number that the characters of a port spell. -/
def portNumber? (cs : List Char) : Option Int :=
  let (negative, ds) := Lenient.splitSign ((Blank.trim Blank.isBlank cs).map Digit.toAscii)
  (Lenient.withoutUnderscores? ds).bind fun ds =>
    if Numeral.isNumeral ds then
      (Numeral.read ds).toOption.map fun n => if negative then -(n : Int) else n
    else none

/-- The usual port of a scheme. -/
def usualPort? (scheme : String) : Option Int :=
  ([("ftp", 21), ("http", 80), ("https", 443), ("ws", 80), ("wss", 443)].find? fun p =>
    p.1 == scheme).map Prod.snd

/-- The port of a URL whose scheme is written so; the usual port is left out. -/
def readPort (scheme : List Char) (cs : List Char) : Except Fault (Option Int) :=
  if cs.isEmpty then .ok none
  else
    match portNumber? cs with
    | none => .error (.port (String.ofList cs))
    | some n => .ok (if usualPort? (String.ofList scheme) = some n then none else some n)

/-- The segments without those that lead to themselves, and without those that are left upward. -/
def walk : (walked : List (List Char)) → List (List Char) → List (List Char)
  | walked, [] => walked.reverse
  | walked, segment :: rest =>
    if segment = ['.'] then walk walked rest
    else if segment = ['.', '.'] then walk (if walked = [[]] then walked else walked.drop 1) rest
    else walk (segment :: walked) rest

/-- A path without segments of one point or two. -/
def straight (path : List Char) : List Char :=
  ['/'].intercalate (walk [] (Form.splitAt '/' path))

/-- The URL of parts. -/
def ofParts (p : Parts) : Except Fault Url := do
  let (user, address) := cutUser p.authority
  let (host, port) := cutPort address
  let user := Percent.quote isUserChar user
  let host ← (Host.normalize host).mapError .host
  let port ← readPort p.scheme port
  let isNamed := !user.isEmpty || !host.isEmpty || port.isSome
  if p.scheme.isEmpty && !isNamed then
    if ['/', '/'].isPrefixOf p.path then throw .doubleSlash
    if p.path.head? = some ':' then throw .colon
  let path := if p.scheme.isEmpty && !isNamed then p.path else straight p.path
  pure
    { scheme := p.scheme.map Char.toLower
      user
      host
      port
      path := Percent.quote isPathChar path
      query := p.query.map (Percent.quote isQueryChar)
      fragment := p.fragment.map (Percent.quote isFragmentChar) }

/-- The host, in brackets if it is groups between colons. -/
def hostText (u : Url) : List Char :=
  if u.host.contains ':' then '[' :: u.host ++ [']'] else u.host

/-- What stands between the two slashes and the path. -/
def authority (u : Url) : List Char :=
  (if u.user.isEmpty then [] else u.user ++ ['@']) ++ u.hostText ++
    (match u.port with
      | some n => ':' :: Numeral.signed n
      | none => [])

/-- The parts of a URL as they are written. -/
def parts (u : Url) : Parts where
  scheme := u.scheme
  authority := u.authority
  path := u.path
  query := u.query
  fragment := u.fragment

/-- The text of a URL. -/
def text (u : Url) : String :=
  let mark := fun (sign : Char) (part : Option (List Char)) =>
    match part with
    | some cs => sign :: cs
    | none => []
  String.ofList ((if u.scheme.isEmpty then [] else u.scheme ++ [':']) ++
    (if u.authority.isEmpty then [] else ['/', '/'] ++ u.authority) ++ u.path ++
    mark '?' u.query ++ mark '#' u.fragment)

/-- The parts, none of which may be too long. -/
def Parts.checked (p : Parts) : Except Fault Parts :=
  let named := [("scheme", p.scheme), ("authority", p.authority), ("path", p.path),
    ("query", p.query.getD []), ("fragment", p.fragment.getD [])]
  match named.find? fun part => maxLength < part.2.length with
  | some part => .error (.partTooLong part.1)
  | none => .ok p

/-- The URL, or the path of the host that is not named if its own one or its scheme is missing. -/
def resolved (u : Url) : Except Fault Url :=
  if !u.scheme.isEmpty && !u.host.isEmpty then .ok u
  else
    (Parts.checked ⟨[], [], '/' :: u.path.dropWhile (· == '/'), u.query, none⟩).bind ofParts

/-- The URL with another query. -/
def withQuery (u : Url) (query : String) : Except Fault Url :=
  (Parts.checked { u.parts with query := some query.toList }).bind ofParts

/-- The place of the first control character. -/
def controlIn? (cs : List Char) : Option (Char × Nat) :=
  match cs.dropWhile fun c => !isControl c with
  | c :: _ => some (c, (cs.takeWhile fun c => !isControl c).length)
  | [] => none

/-- The URL that a text spells. -/
def ofText (s : String) : Except Fault Url :=
  let cs := s.toList
  if maxLength < cs.length then .error .tooLong
  else
    match controlIn? cs with
    | some (c, position) => .error (.control c position)
    | none => (ofParts (Parts.ofChars cs)).bind resolved

end Url

end Remittance.Http
