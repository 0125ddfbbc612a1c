import DeliveryGate.Http.Host

/-!
# Addresses

`Url.parse` takes the text of an absolute address apart as far as a call needs it: the scheme, and
for schemes with hosts the target, which is the path and the query as a request line has them. Dots
in the path are resolved and characters that may not stand in a target are escaped. The part behind
a hash mark stays with the caller.
-/

namespace DeliveryGate

namespace Http

/-- An absolute address. -/
structure Url where
  scheme : String
  /-- The path and the query. -/
  target : String
  deriving DecidableEq

namespace Url

/-! ### Characters -/

/-- Control characters and spaces, which do not count at the ends of an address. -/
def isMargin (c : Char) : Bool := c.toNat ≤ 0x20

/-- Tabs and line breaks, which do not count anywhere in an address. -/
def isIgnored (c : Char) : Bool := c == '\t' || c == '\n' || c == '\r'

/-- The characters of an address that count. -/
def relevant (text : String) : List Char :=
  let body := (((text.toList.dropWhile isMargin).reverse).dropWhile isMargin).reverse
  body.filter fun c => !isIgnored c

def isSlash (c : Char) : Bool := c == '/' || c == '\\'

/-- Whether a byte stands in a path as it is. -/
def isPathByte (b : UInt8) : Bool :=
  0x20 < b.toNat && b.toNat < 0x7F && !("\"<>\x60#?\x7b\x7d".toList.contains (Char.ofNat b.toNat))

/-- Whether a byte stands in a query as it is. -/
def isQueryByte (b : UInt8) : Bool :=
  0x20 < b.toNat && b.toNat < 0x7F && !("\"#<>'".toList.contains (Char.ofNat b.toNat))

/-- A byte as an escape. -/
def escapeByte (b : UInt8) : List Char :=
  ['%', (Nat.digitChar (b.toNat / 16)).toUpper, (Nat.digitChar (b.toNat % 16)).toUpper]

/-- A text with escapes for the bytes without a property. -/
def escape (keeps : UInt8 → Bool) (cs : List Char) : List Char :=
  (Text.bytes cs).flatMap fun b => if keeps b then [Char.ofNat b.toNat] else escapeByte b

/-! ### Schemes -/

def isSchemeChar (c : Char) : Bool := c.isAlphanum || c == '+' || c == '-' || c == '.'

/-- The scheme in front of the first colon, in lower case, and what follows the colon. -/
def scheme? (cs : List Char) : Option (String × List Char) :=
  let name := cs.takeWhile isSchemeChar
  match cs.drop name.length with
  | ':' :: rest =>
    if name.head?.any Char.isAlpha then some (String.ofList (name.map Char.toLower), rest)
    else none
  | _ => none

/-- Whether a scheme has hosts with names. -/
def isNamed (scheme : String) : Bool :=
  ["http", "https", "ws", "wss", "ftp"].contains scheme

/-! ### Hosts and services -/

/-- The characters up to the first colon outside of brackets, and the others. -/
def splitService (inside : Bool) : List Char → List Char × List Char
  | [] => ([], [])
  | c :: rest =>
    if c == ':' && !inside then ([], c :: rest)
    else
      let (host, service) := splitService (c == '[' || (inside && c ≠ ']')) rest
      (c :: host, service)

/-- The part behind the last at sign, and the part before it if there is one. -/
def splitUser (cs : List Char) : Option (List Char) × List Char :=
  let host := ((cs.reverse).takeWhile (· ≠ '@')).reverse
  if host.length = cs.length then (none, cs)
  else (some (cs.take (cs.length - host.length - 1)), host)

/-- Check the number of a service behind its colon, which may be empty. -/
def checkService (cs : List Char) : Except UrlFault Unit :=
  if cs.all Number.isDigit && Number.ofDigits cs < 65536 then .ok () else .error .badService

/-- Check the part of an address that names a user, a host and a service; `more` says whether
anything follows it. -/
def checkAuthority (named more : Bool) (cs : List Char) : Except UrlFault Unit := do
  let (user, rest) := splitUser cs
  if user = some [] && rest.isEmpty && more then .error .emptyHost
  let (host, service) := splitService false rest
  if host.isEmpty && (named || !service.isEmpty) then .error .emptyHost
  if named then Host.check host else Host.checkAnywhere host
  checkService ((service.drop 1).takeWhile (· ≠ '\\'))
  if host.isEmpty && !(user = none || user = some [] || user = some [':']) then .error .emptyHost

/-! ### Targets -/

/-- Whether a segment of a path is one dot, which may be escaped. -/
def isDot (segment : List Char) : Bool :=
  [".", "%2e"].contains (String.ofList (segment.map Char.toLower))

/-- Whether a segment of a path is two dots. -/
def isDoubleDot (segment : List Char) : Bool :=
  ["..", ".%2e", "%2e.", "%2e%2e"].contains (String.ofList (segment.map Char.toLower))

/-- The segments of a path with dots resolved, given those before them in reverse. A dot at the end
leaves an empty segment. -/
def resolveDots : List (List Char) → List (List Char) → List (List Char)
  | before, [] => before.reverse
  | before, segment :: rest =>
    if isDoubleDot segment then
      resolveDots (if rest.isEmpty then [] :: before.drop 1 else before.drop 1) rest
    else if isDot segment then resolveDots (if rest.isEmpty then [] :: before else before) rest
    else resolveDots (segment :: before) rest

/-- The path as it stands in a target. -/
def path (cs : List Char) : List Char :=
  let slashes := cs.map fun c => if c == '\\' then '/' else c
  let segments := Text.splitOn '/' (if slashes.head? == some '/' then slashes.drop 1 else slashes)
  (resolveDots [] segments).flatMap fun segment => '/' :: escape isPathByte segment

/-- The target in what follows the host of an address. -/
def targetOf (cs : List Char) : List Char :=
  let isEnd (c : Char) : Bool := c == '?' || c == '#'
  let front := path (cs.takeWhile fun c => !isEnd c)
  match cs.dropWhile fun c => !isEnd c with
  | '?' :: rest => front ++ '?' :: escape isQueryByte (rest.takeWhile (· ≠ '#'))
  | _ => front

/-! ### Addresses -/

/-- The address of a scheme in front of a host. -/
def withHost (scheme : String) (named : Bool) (cs : List Char) : Except UrlFault Url := do
  let isEnd (c : Char) : Bool := c == '/' || c == '?' || c == '#' || (named && c == '\\')
  let rest := cs.dropWhile fun c => !isEnd c
  checkAuthority named (!rest.isEmpty) (cs.takeWhile fun c => !isEnd c)
  return ⟨scheme, String.ofList (targetOf rest)⟩

/-- Whether a text is the letter of a drive. -/
def isDrive : List Char → Bool
  | [letter, mark] => letter.isAlpha && (mark == ':' || mark == '|')
  | _ => false

/-- The address of a file, which may have a host. -/
def ofFile (cs : List Char) : Except UrlFault Url := do
  match cs with
  | a :: b :: rest =>
    if isSlash a && isSlash b then
      let host := rest.takeWhile fun c => !(isSlash c || c == '?' || c == '#')
      if !(host.isEmpty || isDrive host) then Host.check host
  | _ => pure ()
  return ⟨"file", ""⟩

/-- The absolute address that a text gives. -/
def parse (text : String) : Except UrlFault Url :=
  match scheme? (relevant text) with
  | none => .error .relative
  | some (scheme, rest) =>
    if scheme == "file" then ofFile rest
    else if isNamed scheme then withHost scheme true (rest.dropWhile isSlash)
    else
      match rest with
      | '/' :: '/' :: rest => withHost scheme false rest
      | _ => .ok ⟨scheme, ""⟩

end Url

end Http

end DeliveryGate
