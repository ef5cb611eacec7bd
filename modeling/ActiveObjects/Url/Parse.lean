import ActiveObjects.Url.Basic
import ActiveObjects.Url.Percent
import ActiveObjects.Url.Domain

/-!
# Reading canonical URLs

A text is first taken apart by the rules that all URLs share: white space around it, scheme, user
info, host, port, path with its dot segments, query and fragment. What a canonical URL has no room
for is then refused, and the parts go through `Url.new`.
-/

namespace ActiveObjects

namespace Url

open Text

/-! ## Schemes -/

/-- How the rest of a URL is read. -/
inductive SchemeKind where
  | plain
  | web
  | file
deriving DecidableEq

/-- The web schemes and their default ports. -/
def webPorts : List (String × UInt16) :=
  [("http", 80), ("https", 443), ("ws", 80), ("wss", 443), ("ftp", 21)]

def defaultPort? (tag : String) : Option UInt16 := webPorts.lookup tag

def SchemeKind.of (tag : String) : SchemeKind :=
  if tag = "file" then .file else if (defaultPort? tag).isSome then .web else .plain

/-- Web and file URLs take a backslash for a slash. -/
def SchemeKind.isSpecial : SchemeKind → Bool
  | .plain => false
  | .web | .file => true

/-- Drops control characters and spaces around a text, and tabs and line ends within it. -/
def tidy (cs : List Char) : List Char :=
  (trimBoth (fun c => c.toNat ≤ 0x20) cs).filter fun c => c ≠ '\t' ∧ c ≠ '\n' ∧ c ≠ '\r'

/-- The scheme before the first colon, in lower case, and what follows it. -/
def scheme? (cs : List Char) : Option (String × List Char) :=
  match cs with
  | [] => none
  | c :: _ =>
    let tag := cs.takeWhile isTagChar
    match cs.dropWhile isTagChar with
    | ':' :: rest => if c.isAlpha then some (lowerCase (String.ofList tag), rest) else none
    | _ => none

/-! ## Hosts -/

/-- Characters that end user info, host and port. -/
def isAuthorityEnd (special : Bool) (c : Char) : Bool :=
  c == '/' || c == '?' || c == '#' || (special && c == '\\')

/-- User info before the last at-sign, and what follows that sign. -/
def cutUserInfo? (cs : List Char) : Option (List Char × List Char) :=
  if cs.contains '@' then
    some (((cs.reverse.dropWhile (· ≠ '@')).drop 1).reverse,
      (cs.reverse.takeWhile (· ≠ '@')).reverse)
  else none

/-- A host ends at a colon outside square brackets, or where the authority ends. -/
def cutHost (special inBrackets : Bool) : List Char → List Char × List Char
  | [] => ([], [])
  | c :: rest =>
    if isAuthorityEnd special c || (c == ':' && !inBrackets) then ([], c :: rest)
    else
      let inBrackets := if c = '[' then true else if c = ']' then false else inBrackets
      let (host, after) := cutHost special inBrackets rest
      (c :: host, after)

/-- The text of a host in square brackets. -/
def bracketedHost (cs : List Char) : Except Fault String :=
  match (bracketed? cs).bind Ipv6.parse? with
  | some address => .ok s!"[{address.renderGroups}]"
  | none => .error .ipv6Host

/-- Characters that no host holds. -/
def isHostExcluded (c : Char) : Bool :=
  [(Char.ofNat 0), '\t', '\n', '\r', ' ', '#', '/', ':', '<', '>', '?', '@', '[', '\\', ']', '^',
    '|'].contains c

/-- The host of a plain URL: an IPv6 address, or any text with its odd characters escaped. -/
def plainHost (cs : List Char) : Except Fault String :=
  if cs.head? = some '[' then bracketedHost cs
  else if cs.any isHostExcluded then .error .domainCharacter
  else .ok (String.ofList (percentEncodeControls cs))

/-- The host of a web URL: an address of either family, or a domain. -/
def webHost (cs : List Char) : Except Fault String :=
  if cs.head? = some '[' then bracketedHost cs
  else match (percentDecodeText? cs).bind domainToAscii? with
    | none => .error .internationalDomain
    | some [] => .error .emptyHost
    | some domain =>
      if Ipv4.endsInNumber domain then
        match Ipv4.parseLoose? domain with
        | some address => .ok address.render
        | none => .error .ipv4Host
      else .ok (String.ofList domain)

/-- A port after a colon; without digits there is none. -/
def readPort (cs : List Char) : Except Fault (Option UInt16 × List Char) :=
  let digits := cs.takeWhile Char.isDigit
  let rest := cs.dropWhile Char.isDigit
  match readDecimal? digits with
  | none => .error .port
  | some n =>
    if 65535 < n then .error .port
    else if (rest.head?.any fun c => !isAuthorityEnd true c) then .error .port
    else .ok (if digits = [] then none else some (UInt16.ofNat n), rest)

/-- Host, port and the text after them. -/
structure Authority where
  host : Option String
  port : Option UInt16
  rest : List Char

/-- Reads user info, host and port after the two slashes. -/
def readAuthority (special : Bool) (cs : List Char) : Except Fault Authority := do
  let tail := cs.dropWhile (!isAuthorityEnd special ·)
  let (user, cs) := match cutUserInfo? (cs.takeWhile (!isAuthorityEnd special ·)) with
    | none => (none, cs)
    | some (user, after) => (some user, after ++ tail)
  if user = some [] ∧ (cs.head?.any (isAuthorityEnd special)) then throw .emptyHost
  let (hostText, after) := cutHost special false cs
  if special ∧ hostText = [] then throw .emptyHost
  let host ← if special then webHost hostText else plainHost hostText
  if host = "" ∧ after.head? = some ':' then throw .emptyHost
  let (port, rest) ← match after with
    | ':' :: digits => readPort digits
    | _ => pure (none, after)
  if host = "" ∧ user ≠ none ∧ user ≠ some [] ∧ user ≠ some [':'] then throw .emptyHost
  return ⟨if host = "" then none else some host, port, rest⟩

/-! ## Paths -/

/-- Replaces every escaped full stop. -/
def unescapeDots : List Char → List Char
  | '%' :: '2' :: e :: rest =>
    if e = 'e' ∨ e = 'E' then '.' :: unescapeDots rest
    else '%' :: '2' :: unescapeDots (e :: rest)
  | c :: rest => c :: unescapeDots rest
  | [] => []

/-- A letter and a colon or bar. -/
def isDriveLetter (segment : List Char) : Bool :=
  match segment with
  | [letter, mark] => letter.isAlpha && (mark == ':' || mark == '|')
  | _ => false

/-- The segments before a double dot, newest first, without the one that it takes back. It takes
back neither the first segment nor a drive letter. -/
def takeBack : List (List Char) → List (List Char)
  | segment :: first :: before =>
    if isDriveLetter segment then segment :: first :: before else first :: before
  | before => before

/-- Walks the segments of a path. `done` holds the segments passed so far, newest first. -/
def resolveSegments (done : List (List Char)) : List (List Char) → List (List Char)
  | [] => done.reverse
  | [last] =>
    if unescapeDots last = ['.', '.'] then ([] :: takeBack done).reverse
    else if unescapeDots last = ['.'] then ([] :: done).reverse
    else (last :: done).reverse
  | segment :: more =>
    if unescapeDots segment = ['.', '.'] then resolveSegments (takeBack done) more
    else if unescapeDots segment = ['.'] then resolveSegments done more
    else resolveSegments (segment :: done) more

/-- A path without its leading slashes, its dot segments resolved. -/
def resolvePath (special : Bool) (cs : List Char) : List Char :=
  let segments := pieces (fun c => c == '/' || (special && c == '\\')) cs
  let rooted := match segments with
    | [] :: more => more
    | all => all
  (join ['/'] (resolveSegments [[]] rooted)).dropWhile (· == '/')

/-! ## The whole text -/

/-- A URL taken apart. -/
structure Split where
  tag : String
  host : Option String
  port : Option UInt16
  path : List Char
  hasTail : Bool

/-- Path, and whether a query or fragment follows. -/
def cutPath (cs : List Char) : List Char × Bool :=
  let isTail (c : Char) := c == '?' || c == '#'
  (cs.takeWhile (!isTail ·), cs.any isTail)

/-- A drive letter stands directly below the root, dot segments aside. -/
def startsWithDrive (done : List (List Char)) : List (List Char) → Bool
  | [] => false
  | segment :: more =>
    if unescapeDots segment = ['.', '.'] then startsWithDrive (takeBack done) more
    else if unescapeDots segment = ['.'] then startsWithDrive done more
    else (done.length ≤ 1 && isDriveLetter segment) || startsWithDrive (segment :: done) more

/-- The host of a file URL; a local file has none. -/
def fileHost (cs : List Char) : Except Fault (Option String) :=
  let hostText := cs.takeWhile (!isAuthorityEnd true ·)
  if hostText = [] ∨ isDriveLetter hostText then .ok none
  else do
    let host ← webHost hostText
    let (path, _) := cutPath (cs.dropWhile (!isAuthorityEnd true ·))
    let segments := (pieces (fun c => c == '/' || c == '\\') path).drop 1
    return if host = "localhost" ∨ startsWithDrive [[]] segments then none else some host

/-- Takes a text apart. -/
def split (input : String) : Except Fault Split := do
  let (tag, rest) ← match scheme? (tidy input.toList) with
    | none => throw .relativeReference
    | some found => pure found
  match SchemeKind.of tag, rest with
  | .plain, '/' :: '/' :: rest =>
    let authority ← readAuthority false rest
    let (path, hasTail) := cutPath authority.rest
    return ⟨tag, authority.host, authority.port, resolvePath false path, hasTail⟩
  | .plain, _ => return ⟨tag, none, none, [], false⟩
  | .web, rest =>
    let authority ← readAuthority true (rest.dropWhile fun c => c == '/' || c == '\\')
    let (path, hasTail) := cutPath authority.rest
    return ⟨tag, authority.host, authority.port.or (defaultPort? tag), resolvePath true path,
      hasTail⟩
  | .file, a :: b :: rest =>
    if (a = '/' ∨ a = '\\') ∧ (b = '/' ∨ b = '\\') then
      return ⟨tag, ← fileHost rest, none, [], false⟩
    else return ⟨tag, none, none, [], false⟩
  | .file, _ => return ⟨tag, none, none, [], false⟩

/-- Host, port and name of a text that has them. -/
def nameParts (input : String) : Except Fault (String × String × UInt16 × String) := do
  let parts ← split input
  let host ← match parts.host with
    | none => throw .missingHost
    | some host => pure host
  let port ← match parts.port with
    | none => throw .missingPort
    | some port => pure port
  if parts.hasTail then throw .queryOrFragment
  match percentDecodeText? parts.path with
  | none => throw .nameEncoding
  | some name => return (parts.tag, host, port, String.ofList name)

/-- Reads a canonical URL. A fault in the text as a whole is reported with the text, a fault of a
part with the URL put together again. -/
def parse (input : String) : Except Invalid Url :=
  match nameParts input with
  | .error fault => .error ⟨input, fault⟩
  | .ok (tag, host, port, name) => new tag host port name

end Url

end ActiveObjects
