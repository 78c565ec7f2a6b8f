import RouletteStrategy.Error
import RouletteStrategy.HostName.Basic
import RouletteStrategy.HostName.Numeric
import RouletteStrategy.Numeric.Literal
import RouletteStrategy.Service.Path
import RouletteStrategy.Text.Lower

/-!
# Addresses of requests

An address is cut down to the path that is asked for. Some addresses cannot be asked for at all, and
some lead elsewhere.
-/

namespace RouletteStrategy.Service

def isSchemeChar (c : Char) : Bool := c.isAlphanum || c == '+' || c == '.' || c == '-'

/-- The scheme of an address, and what follows it. -/
def schemeAndRest (cs : List Char) : List Char × List Char :=
  match cs.dropWhile isSchemeChar with
  | ':' :: rest =>
    if cs.head?.any fun c => c.isAlpha || c == ':' then (cs.takeWhile isSchemeChar, rest)
    else ([], cs)
  | _ => ([], cs)

/-- What an address names after two slashes, and what follows it. -/
def siteAndRest (cs : List Char) : List Char × List Char :=
  let inSite := fun c => c != '/' && c != '?' && c != '#'
  match cs with
  | '/' :: '/' :: cs => (cs.takeWhile inSite, cs.dropWhile inSite)
  | cs => ([], cs)

/-- The host, and what stands where its network port does. A host in brackets may have colons. -/
def hostAndPort (cs : List Char) : List Char × List Char :=
  let (host, rest) :=
    if cs.head? == some '[' && cs.contains ']' then
      ((cs.reverse.dropWhile (· != ']')).reverse, (cs.reverse.takeWhile (· != ']')).reverse)
    else (cs.takeWhile (· != ':'), cs.dropWhile (· != ':'))
  match rest with
  | ':' :: portText => (host, portText)
  | portText => (host, portText)

/-- An address taken apart. A part that is missing is empty. -/
structure Address where
  scheme : String
  user : String
  host : String
  portText : String
  path : String
  query : String
  fragment : String

namespace Address

def ofString (s : String) : Address :=
  let (scheme, rest) := schemeAndRest s.toList
  let (site, rest) := siteAndRest rest
  let (host, portText) := hostAndPort (site.reverse.takeWhile (· != '@')).reverse
  let user := (site.reverse.dropWhile (· != '@')).reverse.dropLast
  let (beforeFragment, fragment) := (rest.takeWhile (· != '#'), rest.dropWhile (· != '#'))
  let (path, query) := (beforeFragment.takeWhile (· != '?'), beforeFragment.dropWhile (· != '?'))
  ⟨(String.ofList scheme).map Char.toLower, String.ofList user, String.ofList host,
    String.ofList portText, String.ofList path, String.ofList (query.drop 1),
    String.ofList (fragment.drop 1)⟩

/-- Whether there is nothing in front of the path. -/
def isBare (a : Address) : Bool :=
  a.scheme == "" && a.user == "" && a.host == "" && a.portText == ""

/-- Whether it is said where the path is, and in which way to get there. -/
def isFull (a : Address) : Bool := a.scheme != "" && a.host != ""

/-- The path that is asked for. Unless the address is full, the service is meant, and the path has
one slash in front. -/
def requested (a : Address) : String :=
  let path := if a.isBare then a.path else withoutDots a.path
  if a.isFull then path else String.ofList ('/' :: path.toList.dropWhile (· == '/'))

/-- What stands between brackets. -/
def bracketed? (host : String) : Option String :=
  match host.toList, host.toList.getLast? with
  | '[' :: rest, some ']' => some (String.ofList rest.dropLast)
  | _, _ => none

def isPlain (s : String) : Bool := s.toList.all (·.toNat < 128)

/-- Whether a host cannot be: four numbers that are not bytes, brackets without groups between them,
or a name that cannot be encoded. -/
def hasBadHost (a : Address) : Bool :=
  if HostName.isDotted a.host then !HostName.isFourBytes a.host
  else match bracketed? a.host with
    | some name => !HostName.isEightGroups name
    | none =>
      !isPlain a.host && (HostName.encodingFault? (Text.points (Text.lower a.host))).isSome

/-- Whether a bare path begins like a host or like a scheme. -/
def hasBadStart (a : Address) : Bool :=
  a.isBare && (['/', '/'].isPrefixOf a.path.toList || a.path.toList.head? == some ':')

def hasBadPort (a : Address) : Bool := a.portText != "" && (Literal.int? a.portText).isNone

/-- An address and its parts have at most this many characters. -/
def maxLength : Nat := 65536

/-- Whether a part is too long, with escapes in place of what cannot stand in it. -/
def isTooLong (a : Address) : Bool :=
  maxLength < escapedSize isInPath (Text.points a.requested) ||
    maxLength < escapedSize isInQuery (Text.points a.query)

def isControl (c : Char) : Bool := c.toNat < 0x20 || c.toNat == 0x7f

/-- The first halves of pairs in a path, a query or a fragment. -/
def halfRun? (a : Address) : Option Text.HalfRun :=
  (Text.halfRun? a.path).or ((Text.halfRun? a.query).or (Text.halfRun? a.fragment))

/-- Why an address cannot be asked for. A user with halves of pairs is looked at before the host and
its network port, and the path after them. -/
def obstacle? (s : String) : Option Error :=
  let a := ofString s
  if maxLength < Text.size s || s.toList.any isControl then some .badAddress
  else ((Text.halfRun? a.user).map .notEncodable).or <|
    if a.hasBadHost || a.hasBadPort || a.hasBadStart then some .badAddress
    else (a.halfRun?.map .notEncodable).or (if a.isTooLong then some .badAddress else none)

/-- The schemes by which the service is reached. -/
def schemes : List String := ["http", "https"]

/-- The schemes of a connection that stays open. -/
def openSchemes : List String := ["ws", "wss"]

/-- The characters in place of one of a host. -/
def hostEscape (c : Char) : List Char :=
  match c with
  | ' ' => ['%', '2', '0']
  | '<' => ['%', '3', 'C']
  | '>' => ['%', '3', 'E']
  | '[' => ['%', '5', 'B']
  | ']' => ['%', '5', 'D']
  | '^' => ['%', '5', 'E']
  | c => [c.toLower]

/-- Why a host is not written into a request: a zone of other than ASCII characters, or a name with
an encoded label in front that cannot be read back. -/
def hostObstacle? (a : Address) : Option Error :=
  match bracketed? a.host with
  | some name => if isPlain name then none else some .hostNotPlain
  | none =>
    let name := a.host.toList.flatMap hostEscape
    if isPlain a.host && HostName.isEncoded name then
      (HostName.readingFault? name).map .hostName
    else none

/-- Why a full address does not reach the service. -/
def sendingObstacle? (a : Address) : Option Error :=
  if !a.isFull then none
  else a.hostObstacle?.or <|
    if schemes.contains a.scheme then none
    else if openSchemes.contains a.scheme then some .otherProtocol
    else some .unknownScheme

/-- The service, where an address is not full. -/
def defaultSite : String := "http://testserver"

/-- The number of characters in front of the path when a client is sent on to the same site, and of
the query behind it. -/
def surroundingSize (a : Address) : Nat :=
  let site :=
    if a.isFull then
      Text.size a.scheme + Text.size a.host + Text.size a.portText + "://".length +
        (if a.portText == "" then 0 else 1)
    else defaultSite.length
  site + (if a.query == "" then 0 else 1 + escapedSize isInLocation (Text.points a.query))

end Address

end RouletteStrategy.Service
