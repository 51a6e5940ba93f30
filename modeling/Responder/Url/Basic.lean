/-
# Responder.Url.Basic -- URLs of the web, read and written

A URL is read in the tolerant way of browsers: blanks around it and line breaks
inside are dropped, backslashes count as slashes, dots in the path are resolved,
and what is left is written in one form.  Only `http` and `https` URLs are kept
in parts; of any other URL the scheme is all that is asked for, but it must
still be a URL.
-/
import Responder.Url.Host

namespace Responder

set_option autoImplicit false

/-- A URL of the web, its texts already encoded. -/
structure Url where
  /-- `https` rather than `http`. -/
  secure : Bool
  /-- A user name, and a password after a colon; empty if there is neither. -/
  userInfo : List Char
  host : Url.Host
  /-- A port other than the scheme's own. -/
  port : Option Nat
  /-- The parts of the path, each after a slash. -/
  path : List (List Char)
  query : Option (List Char)
  fragment : Option (List Char)
  deriving DecidableEq

namespace Url

/-! ## Schemes -/

/-- Whether a character may stand in a scheme. -/
def isSchemeChar (c : Char) : Bool := c.isAlphanum || c == '+' || c == '-' || c == '.'

/-- A scheme in lower case and what follows its colon. -/
def splitScheme? (cs : List Char) : Option (List Char × List Char) :=
  let scheme := cs.takeWhile isSchemeChar
  match scheme, cs.dropWhile isSchemeChar with
  | first :: _, ':' :: rest => if first.isAlpha then some (scheme.map Char.toLower, rest) else none
  | _, _ => none

/-- How URLs of a scheme are read. -/
inductive Family where
  | web (secure : Bool)
  /-- Hosts and slashes as in URLs of the web. -/
  | special
  | file
  | plain
  deriving DecidableEq

/-- The family of a scheme. -/
def Family.ofScheme (scheme : List Char) : Family :=
  match String.ofList scheme with
  | "http" => .web false
  | "https" => .web true
  | "ws" | "wss" | "ftp" => .special
  | "file" => .file
  | _ => .plain

/-! ## Authority: user, host and port -/

/-- Whether a character is a slash, with the backslash for one in all but plain URLs. -/
def isSlash (special : Bool) (c : Char) : Bool := c == '/' || (special && c == '\\')

/-- Whether a character ends the authority. -/
def endsAuthority (special : Bool) (c : Char) : Bool := isSlash special c || c == '?' || c == '#'

/-- The text before the last at sign, if there is one, and the text after it. -/
def splitUserInfo (cs : List Char) : Option (List Char) × List Char :=
  if cs.contains '@' then
    let parts := cs.splitOn '@'
    (some (List.intercalate ['@'] parts.dropLast), parts.getLastD [])
  else (none, cs)

/-- User name and password, encoded; the colon of an empty password is dropped. -/
def encodeUserInfo (cs : List Char) : List Char :=
  let user := encode plainInUserInfo (cs.takeWhile (· != ':'))
  match cs.dropWhile (· != ':') with
  | _ :: c :: password => user ++ ':' :: encode plainInUserInfo (c :: password)
  | _ => user

/-- The text before the first colon that is not in brackets, and the text after
the colon if there is one. -/
def splitPort : Bool → List Char → List Char × Option (List Char)
  | _, [] => ([], none)
  | inside, c :: rest =>
    if c == ':' && !inside then ([], some rest)
    else
      let (host, port) := splitPort (if c == '[' then true else if c == ']' then false else inside) rest
      (c :: host, port)

/-- The port of decimal digits: none for no digits. -/
def parsePort (cs : List Char) : Except Error (Option Nat) :=
  match cs.mapM Numeral.Digit.ofChar? with
  | none => .error .badPort
  | some [] => .ok none
  | some ds => if Numeral.ofDigits ds < 65536 then .ok (some (Numeral.ofDigits ds)) else .error .badPort

/-- The parts of an authority. -/
structure Authority where
  userInfo : List Char
  host : Host
  port : Option Nat

/-- Reads an authority in which the host may not be missing. -/
def parseAuthority (cs : List Char) : Except Error Authority := do
  let (userInfo, rest) := splitUserInfo cs
  let (hostText, portText) := splitPort false rest
  if hostText = [] then throw .emptyHost
  let host ← Host.parse hostText
  let port ← parsePort (portText.getD [])
  return ⟨encodeUserInfo (userInfo.getD []), host, port⟩

/-- Checks the authority of a plain URL, after which `more` says whether the URL
goes on. -/
def checkPlainAuthority (cs : List Char) (more : Bool) : Except Error Unit := do
  let (userInfo, rest) := splitUserInfo cs
  if userInfo = some [] ∧ rest = [] ∧ more then throw .emptyHost
  let (hostText, portText) := splitPort false rest
  discard <| Host.parseOpaque hostText
  if hostText = [] ∧ portText.isSome then throw .emptyHost
  discard <| parsePort ((portText.getD []).takeWhile (· != '\\'))
  if hostText = [] ∧ encodeUserInfo (userInfo.getD []) ≠ [] then throw .emptyHost

/-! ## Path -/

/-- Whether a part of a path stands for the part before it. -/
def isCurrent (part : List Char) : Bool :=
  [".", "%2e"].contains (String.ofList (part.map Char.toLower))

/-- Whether a part of a path takes the part before it away. -/
def isParent (part : List Char) : Bool :=
  ["..", ".%2e", "%2e.", "%2e%2e"].contains (String.ofList (part.map Char.toLower))

/-- Whether a part of a path names a drive; such a part is never taken away. -/
def isDrive : List Char → Bool
  | [letter, mark] => letter.isAlpha && (mark == ':' || mark == '|')
  | _ => false

/-- The parts, last first, without the last. -/
def dropLastPart : List (List Char) → List (List Char)
  | [] => []
  | part :: rest => if isDrive part then part :: rest else rest

/-- Resolves the dots of a path after parts that are done, last first.  Dots at
the end leave an empty part. -/
def resolveDots : List (List Char) → List (List Char) → List (List Char)
  | done, [] => done.reverse
  | done, part :: rest =>
    let kept :=
      if isParent part then dropLastPart done
      else if isCurrent part then done
      else part :: done
    let last := rest = [] ∧ (isParent part ∨ isCurrent part)
    resolveDots (if last then [] :: kept else kept) rest

/-- Splits a text at every slash or backslash. -/
def splitSlashes (cs : List Char) : List (List Char) :=
  (cs.map fun c => if c == '\\' then '/' else c).splitOn '/'

/-- The parts of a path that may lack its first slash. -/
def parsePath (cs : List Char) : List (List Char) :=
  let parts :=
    match cs with
    | c :: rest => splitSlashes (if isSlash true c then rest else cs)
    | [] => [[]]
  resolveDots [] (parts.map (encode plainInPath))

/-! ## Whole URLs -/

/-- What is known of a URL: all of it for the web, else its scheme. -/
inductive Parsed where
  | web (url : Url)
  | other (scheme : String)
  deriving DecidableEq

/-- The text of a URL that counts: no control characters and spaces around it,
no tabs and line breaks inside. -/
def significant (cs : List Char) : List Char :=
  let blank (c : Char) : Bool := c.toNat ≤ 0x20
  let front := cs.dropWhile blank
  let trimmed := (front.reverse.dropWhile blank).reverse
  trimmed.filter fun c => !(c == '\t' || c == '\n' || c == '\r')

/-- The port of a web scheme. -/
def ownPort (secure : Bool) : Nat := if secure then 443 else 80

/-- Reads what follows the scheme of a URL of the web. -/
def parseWeb (secure : Bool) (cs : List Char) : Except Error Url := do
  let rest := cs.dropWhile (isSlash true)
  let authority ← parseAuthority (rest.takeWhile fun c => !endsAuthority true c)
  let rest := rest.dropWhile fun c => !endsAuthority true c
  let path := rest.takeWhile fun c => c != '?' && c != '#'
  let rest := rest.dropWhile fun c => c != '?' && c != '#'
  let beforeFragment := rest.takeWhile (· != '#')
  let query :=
    match beforeFragment with
    | _ :: query => some (encode plainInQuery query)
    | [] => none
  let fragment :=
    match rest.dropWhile (· != '#') with
    | _ :: fragment => some (encode plainInFragment fragment)
    | [] => none
  return {
    secure, userInfo := authority.userInfo, host := authority.host
    port := if authority.port = some (ownPort secure) then none else authority.port
    path := parsePath path, query, fragment }

/-- Checks what follows the scheme of a file's URL: only its host can be wrong. -/
def checkFile (cs : List Char) : Except Error Unit :=
  match cs with
  | a :: b :: rest =>
    let host := rest.takeWhile fun c => !endsAuthority true c
    if isSlash true a ∧ isSlash true b ∧ host ≠ [] ∧ !isDrive host then discard (Host.parse host)
    else .ok ()
  | _ => .ok ()

/-- Checks what follows the scheme of a plain URL: its authority, if it has one. -/
def checkPlain (cs : List Char) : Except Error Unit :=
  match cs with
  | '/' :: '/' :: rest =>
    checkPlainAuthority (rest.takeWhile fun c => !endsAuthority false c)
      (rest.any (endsAuthority false))
  | _ => .ok ()

/-- Reads a URL. -/
def parse (text : String) : Except Error Parsed := do
  match splitScheme? (significant text.toList) with
  | none => throw .noScheme
  | some (scheme, rest) =>
    match Family.ofScheme scheme with
    | .web secure => return .web (← parseWeb secure rest)
    | .special =>
      let rest := rest.dropWhile (isSlash true)
      discard <| parseAuthority (rest.takeWhile fun c => !endsAuthority true c)
    | .file => checkFile rest
    | .plain => checkPlain rest
    return .other (String.ofList scheme)

/-- A URL as text. -/
def text (u : Url) : String :=
  String.ofList <|
    (if u.secure then "https://" else "http://").toList ++
    (if u.userInfo = [] then [] else u.userInfo ++ ['@']) ++
    u.host.text ++
    (match u.port with
      | some n => ':' :: Numeral.natText n
      | none => []) ++
    u.path.flatMap (fun part => '/' :: part) ++
    (match u.query with
      | some query => '?' :: query
      | none => []) ++
    (match u.fragment with
      | some fragment => '#' :: fragment
      | none => [])

/-- A URL without the user's name and password, which are not sent in the address. -/
def withoutUser (u : Url) : Url := { u with userInfo := [] }

end Url

end Responder
