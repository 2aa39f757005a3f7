import TradingEngine.Control.HostName
import TradingEngine.Json.Arithmetic

/-! # Addresses

Where a request goes: a scheme, a host with a socket number and credentials, and the target there.
An address is relative if it lacks a scheme or a host; it is then taken for a target at the home of
whoever sends it. Two addresses are of one origin if scheme, host and socket number agree.
-/

namespace TradingEngine

/-- An address, taken apart. -/
structure Address where
  /-- The scheme in lower case. -/
  scheme : String := ""
  /-- What stands before the host to say who asks. -/
  credentials : List Char := []
  /-- The host in lower case. -/
  host : String := ""
  /-- The socket number, unless it is the one of the scheme. -/
  socket : Option Int := none
  /-- The path and the query, as they were written. -/
  target : List Char := []
  deriving DecidableEq, Repr

namespace Address

def standardSocket? (scheme : String) : Option Int :=
  match scheme with
  | "http" | "ws" => some 80
  | "https" | "wss" => some 443
  | "ftp" => some 21
  | _ => none

/-- Whether a text is the name of a scheme; it may be empty. -/
def isScheme (cs : List Char) : Bool :=
  match cs with
  | [] => true
  | c :: rest => c.isAlpha && rest.all fun c => c.isAlphanum || c == '+' || c == '.' || c == '-'

/-- The scheme before the first colon of a text, if one stands there, and what follows it. -/
def splitScheme (cs : List Char) : String × List Char :=
  let head := cs.takeWhile (· != ':')
  match cs.drop head.length with
  | ':' :: rest => if isScheme head then (String.ofList (head.map Char.toLower), rest) else ("", cs)
  | _ => ("", cs)

/-- The authority behind the first two slashes of a text, and what follows it. -/
def splitAuthority (cs : List Char) : List Char × List Char :=
  match cs with
  | '/' :: '/' :: rest =>
    let inAuthority (c : Char) : Bool := c != '/' && c != '?' && c != '#'
    (rest.takeWhile inAuthority, rest.dropWhile inAuthority)
  | _ => ([], cs)

/-- What stands before and behind the last of these characters; without one nothing stands before
    it. -/
def splitLast (separator : Char) (cs : List Char) : List Char × List Char :=
  let behind := cs.reverse.takeWhile (· != separator)
  (cs.take (cs.length - behind.length - 1), behind.reverse)

/-- The host at the head of a text, and what follows it: up to a colon, or in square brackets. -/
def splitHost (cs : List Char) : List Char × List Char :=
  if cs.head? == some '[' && cs.contains ']' then
    let behind := (splitLast ']' cs).2
    (cs.take (cs.length - behind.length), behind)
  else (cs.takeWhile (· != ':'), cs.dropWhile (· != ':'))

/-- Whether a text consists of four rows of digits with one character between each two. -/
def isQuad (cs : List Char) : Bool :=
  let isDigit (c : Char) : Bool := c.isDigit
  let rows := Target.parts '.' (cs.map fun c => if isDigit c then c else '.')
  rows.all (!·.isEmpty) && rows.length ≤ 4 &&
    4 - rows.length ≤ (rows.map fun row => (row.length - 1) / 2).foldr (· + ·) 0

/-- Whether a text is one of the four numbers of an address of version 4. -/
def isByte (cs : List Char) : Bool :=
  !cs.isEmpty && cs.all Char.isDigit && cs.length ≤ 3 && (cs.length = 1 || cs.head? != some '0') &&
    Numeral.value cs < 256

def isVersion4 (cs : List Char) : Bool :=
  let bytes := Target.parts '.' cs
  bytes.length = 4 && bytes.all isByte

/-- Whether a text is one of the numbers of an address of version 6. -/
def isGroup (cs : List Char) : Bool :=
  !cs.isEmpty && cs.length ≤ 4 && cs.all fun c => (Target.hexValue? c).isSome

/-- Whether these are the groups of an address of version 6. One gap may stand for missing ones. -/
def areGroups (groups : List (List Char)) : Bool :=
  let gaps := (groups.drop 1).dropLast.countP (·.isEmpty)
  let first := groups.head? == some []
  let last := groups.getLast? == some []
  let full := groups.filter (!·.isEmpty)
  if gaps = 0 then groups.length = 8 && groups.all isGroup
  else
    gaps = 1 && full.all isGroup && full.length < 8 && groups.length ≤ 9 &&
      (!first || groups[1]? == some []) && (!last || groups.reverse[1]? == some [])

/-- Whether a text is an address of version 6. Its last two groups may be written as an address of
    version 4, and it may name a zone. -/
def isVersion6 (cs : List Char) : Bool :=
  let body := cs.takeWhile (· != '%')
  let zone := cs.drop (body.length + 1)
  let hasZone := body.length < cs.length
  let groups := Target.parts ':' body
  let tail := groups.getLast?.getD []
  let zero : List Char := ['0']
  !cs.contains '/' && (!hasZone || (!zone.isEmpty && !zone.contains '%')) && groups.length ≥ 3 &&
    if tail.contains '.' then isVersion4 tail && areGroups (groups.dropLast ++ [zero, zero])
    else areGroups groups

/-- Whether a character may stand for itself in a host. -/
def isHostChar (c : Char) : Bool :=
  Target.isUnreserved c || "!$&'()*+,;=\"`\x7b\x7d%|\\".toList.contains c

/-- The host that a text names, if it can name one. -/
def host? (cs : List Char) : Option String :=
  if isQuad cs then (if isVersion4 cs then some (String.ofList cs) else none)
  else if cs.head? == some '[' && cs.getLast? == some ']' then
    let inner := (cs.drop 1).dropLast
    if isVersion6 inner then some (String.ofList inner) else none
  else if cs.all (·.toNat < 128) then
    some (String.ofList (Target.escape isHostChar (cs.map Char.toLower)))
  else (HostName.encode? cs).map String.ofList

/-- The socket number that a text behind a host names. The one of the scheme goes without saying. -/
def socket? (scheme : String) (cs : List Char) : Option (Option Int) :=
  match if cs.head? == some ':' then cs.drop 1 else cs with
  | [] => some none
  | digits => match Numeral.numeral? (.ofChars digits) with
    | .ok n => some (if standardSocket? scheme = some n then none else some n)
    | .error _ => none

/-- Whether an address says where its target is. -/
def hasAuthority (a : Address) : Bool := !a.credentials.isEmpty || a.host != "" || a.socket.isSome

/-- Whether an address stands on its own. -/
def isAbsolute (a : Address) : Bool := a.scheme != "" && a.host != ""

/-- Whether the path of an address can follow what stands before it. -/
def isFit (a : Address) : Bool :=
  a.scheme != "" || a.hasAuthority ||
    !(['/', '/'].isPrefixOf a.target || a.target.head? == some ':')

/-- What stands for a half of a surrogate pair where a text is taken apart. It cannot be sent
    itself. -/
def hole : Char := '\x00'

/-- The characters of a text, with holes where it has halves of surrogate pairs. -/
def punched (t : Text) : List Char := t.letters.map fun l => l.char?.getD hole

/-- Breaks down where a part of an address is to be escaped that has a hole. -/
def checkWhole (cs : List Char) : Except Breakdown Unit :=
  if cs.contains hole then .error .notEncodable else .ok ()

/-- A part of an address that has to be there. -/
def expect {α : Type} : Option α → Except Breakdown α
  | some a => .ok a
  | none => .error .badTarget

/-- Takes an address apart. What follows a hash sign is no part of it. Steps back in a path are
    taken where it is known what comes before them. -/
def parse (cs : List Char) : Except Breakdown Address := do
  let (scheme, rest) := splitScheme cs
  let (authority, rest) := splitAuthority rest
  let (credentials, site) := splitLast '@' authority
  let (host, behind) := splitHost site
  checkWhole credentials
  let host ← if host.contains hole then .error .badTarget else expect (host? host)
  let socket ← expect (socket? scheme behind)
  let target := rest.takeWhile (· != '#')
  let a : Address := { scheme, credentials, host, socket, target }
  if !a.isFit then .error .badTarget
  checkWhole rest
  return if a.scheme != "" || a.hasAuthority then { a with target := Target.normal target } else a

/-- The most letters of an address, and of a path or a query once they are escaped. -/
def lengthLimit : Nat := 65536

/-- Whether an address may hold a letter: a control character of ASCII may not stand in it. -/
def isSendable (l : Letter) : Bool := 32 ≤ l.code && l.code ≠ 127

/-- The address that a text spells. Halves of surrogate pairs cannot be sent. -/
def ofText (t : Text) : Except Breakdown Address :=
  if t.letters.length > lengthLimit || !t.letters.all isSendable then .error .badTarget
  else parse (punched t)

/-- A path that begins at the root. -/
def rooted (cs : List Char) : List Char := '/' :: cs.dropWhile (· == '/')

/-- The address to which a request for this one goes, from the home of its sender. -/
def merged (home a : Address) : Except Breakdown Address :=
  let target := rooted a.target
  if a.isAbsolute then .ok a
  else if (Target.escapedParts target).all (·.length ≤ lengthLimit) then .ok { home with target }
  else .error .badTarget

/-- The target of an address, which is at least the root. -/
def requestTarget (a : Address) : List Char :=
  match a.target with
  | [] | '?' :: _ => '/' :: a.target
  | target => target

/-- The host and the socket number of an address as they are sent. -/
def site (a : Address) : String :=
  let host := if a.host.toList.contains ':' then "[" ++ a.host ++ "]" else a.host
  match a.socket with
  | some n => host ++ ":" ++ toString n
  | none => host

/-- The socket number of an address. -/
def socketInUse (a : Address) : Option Int := a.socket <|> standardSocket? a.scheme

def sameOrigin (a b : Address) : Bool :=
  a.scheme == b.scheme && a.host == b.host && a.socketInUse == b.socketInUse

/-- Whether an address says who asks. -/
def hasCredentials (a : Address) : Bool := !a.credentials.isEmpty && a.credentials != [':']

/-- Breaks down at an address to which no request can be sent. The socket number has to be readable
    behind the first colon of the site. -/
def checkSent (a : Address) : Except Breakdown Unit :=
  if (standardSocket? a.scheme).isNone || a.scheme = "ftp" then .error .absentKey
  else if a.host.toList.contains ':' then
    let number := (a.site.toList.dropWhile (· != ':')).drop 1
    .error (.notNumeral ((Quoted.quoted (.ofChars number)).take Json.quoteLimit).toString)
  else if a.scheme = "ws" || a.scheme = "wss" then .error .notARequest
  else .ok ()

end Address

end TradingEngine
