import Beacon.Text.Numeral
import Beacon.Url.Host

/-!
# URLs

The absolute HTTP and HTTPS addresses of the WHATWG URL standard: `Url.parse` reads them and
`Url.write` gives their normal form, with a lowercase scheme and host, no default port, dot segments
resolved, and percent encoding where a part needs it.
-/

namespace Beacon

namespace Url

/-- A scheme of HTTP. -/
inductive Scheme where
  | http
  | https
deriving DecidableEq, Repr

/-- The name of a scheme. -/
def Scheme.name : Scheme → String
  | .http => "http"
  | .https => "https"

/-- The port that need not be written. -/
def Scheme.defaultPort : Scheme → Nat
  | .http => 80
  | .https => 443

end Url

/-- An absolute HTTP or HTTPS address. -/
structure Url where
  scheme : Url.Scheme
  /-- The user name; empty if there is none. -/
  username : String
  /-- The password; empty if there is none. -/
  password : String
  host : Url.Host
  /-- The port, unless it is the default one. -/
  port : Option Nat
  /-- The segments of the path; there is at least one. -/
  path : List String
  query : Option String
  fragment : Option String
deriving DecidableEq, Repr

namespace Url

/-- The text of the user name and the password. -/
def credentials (url : Url) : String :=
  if url.username = "" ∧ url.password = "" then ""
  else
    url.username ++ (if url.password = "" then "" else ":" ++ url.password) ++ "@"

/-- The host and the port. -/
def authority (url : Url) : String :=
  url.host.write ++ (match url.port with
    | some port => ":" ++ toString port
    | none => "")

/-- The text of the path. -/
def pathText (url : Url) : String := String.join (url.path.map fun segment => "/" ++ segment)

/-- The normal form without the fragment. -/
def target (url : Url) : String :=
  url.scheme.name ++ "://" ++ url.credentials ++ url.authority ++ url.pathText ++
    (match url.query with
    | some query => "?" ++ query
    | none => "")

/-- The normal form. -/
def write (url : Url) : String :=
  url.target ++ (match url.fragment with
    | some fragment => "#" ++ fragment
    | none => "")

/-- Text without control characters and spaces at its ends, and without tabs and line ends. -/
def clean (text : List Char) : List Char :=
  let isEdge (c : Char) : Bool := c.toNat ≤ 0x20
  let trimmed := ((text.dropWhile isEdge).reverse.dropWhile isEdge).reverse
  trimmed.filter fun c => c ≠ '\t' ∧ c ≠ '\n' ∧ c ≠ '\r'

/-- A character of a scheme. -/
def isSchemeChar (c : Char) : Bool := c.isAlphanum || c = '+' || c = '-' || c = '.'

/-- The scheme of a text, in small letters, and what follows its colon. -/
def splitScheme? (text : List Char) : Option (String × List Char) :=
  match text with
  | c :: _ =>
    if c.isAlpha then
      match text.dropWhile isSchemeChar with
      | ':' :: rest => some (String.ofList ((text.takeWhile isSchemeChar).map Char.toLower), rest)
      | _ => none
    else none
  | [] => none

/-- A slash of a special scheme. -/
def isSlash (c : Char) : Bool := c = '/' || c = '\\'

/-- Whether a character ends the authority. -/
def endsAuthority (special : Bool) (c : Char) : Bool :=
  c = '/' || c = '?' || c = '#' || (special && c = '\\')

/-- The part of an authority before its last at sign, and the part after it. -/
def splitUser (authority : List Char) : Option (List Char) × List Char :=
  let after := (authority.reverse.takeWhile (· ≠ '@')).reverse
  if after.length = authority.length then (none, authority)
  else (some (authority.take (authority.length - after.length - 1)), after)

/-- The length of the host in a text: it ends at a colon outside brackets. -/
def hostLength : (inside : Bool) → List Char → Nat
  | _, [] => 0
  | inside, c :: rest =>
    if c = ':' ∧ !inside then 0
    else hostLength (if c = '[' then true else if c = ']' then false else inside) rest + 1

/-- The port in the text after a host. -/
def parsePort : List Char → Except Error (Option Nat)
  | ':' :: text =>
    let digits := text.takeWhile (· ≠ '\\')
    if digits = [] then .ok none
    else
      match digits.foldlM (fun n c => do
        let d ← Numeral.digit? c
        if n * 10 + d < 65536 then some (n * 10 + d) else none) 0 with
      | some port => .ok (some port)
      | none => .error .badPort
  | _ => .ok none

/-- The user name and the password of a text. -/
def parseUser (text : List Char) : String × String :=
  let name := text.takeWhile (· ≠ ':')
  (String.ofList (percentEncode userSet name),
    String.ofList (percentEncode userSet (text.drop (name.length + 1))))

/-- Cut a path at slashes. -/
def segments (text : List Char) : List (List Char) :=
  let (last, done) := text.foldl
    (fun (segment, done) c =>
      if isSlash c then ([], segment.reverse :: done) else (c :: segment, done))
    (([], []) : List Char × List (List Char))
  (last.reverse :: done).reverse

/-- A segment with encoded dots written as dots. -/
def plainDots : List Char → List Char
  | '%' :: '2' :: 'e' :: rest => '.' :: plainDots rest
  | '%' :: '2' :: 'E' :: rest => '.' :: plainDots rest
  | c :: rest => c :: plainDots rest
  | [] => []

/-- Whether a text is a drive letter and its mark. -/
def isDrive : List Char → Bool
  | [letter, mark] => letter.isAlpha && (mark = ':' || mark = '|')
  | _ => false

/-- The segments that two dots leave of those before them, last one first: a drive letter stays. -/
def parent : List String → List String
  | [] => []
  | segment :: rest => if isDrive segment.toList then segment :: rest else rest

/-- Resolve dot segments and encode the others, after the segments in `done`, last one first. -/
def resolve (done : List String) : List (List Char) → List String
  | [] => done.reverse
  | segment :: rest =>
    if plainDots segment = ['.', '.'] then
      resolve (if rest.isEmpty then "" :: parent done else parent done) rest
    else if plainDots segment = ['.'] then
      resolve (if rest.isEmpty then "" :: done else done) rest
    else resolve (String.ofList (percentEncode pathSet segment) :: done) rest

/-- The segments of the path in the text after an authority. -/
def parsePath (text : List Char) : List String :=
  match text with
  | c :: rest => resolve [] (segments (if isSlash c then rest else text))
  | [] => [""]

/-- The text after an authority, cut into path, query and fragment. -/
def splitTail (text : List Char) : List Char × Option (List Char) × Option (List Char) :=
  let path := text.takeWhile fun c => c ≠ '?' ∧ c ≠ '#'
  match text.drop path.length with
  | '?' :: rest =>
    let query := rest.takeWhile (· ≠ '#')
    match rest.drop query.length with
    | '#' :: fragment => (path, some query, some fragment)
    | _ => (path, some query, none)
  | '#' :: fragment => (path, none, some fragment)
  | _ => (path, none, none)

/-- The address in a text after its scheme and slashes. -/
def parseHttp (scheme : Scheme) (text : List Char) : Except Error Url :=
  let authority := text.takeWhile fun c => !endsAuthority true c
  let (path, query, fragment) := splitTail (text.drop authority.length)
  let (user, place) := splitUser authority
  let (username, password) := parseUser (user.getD [])
  let length := hostLength false place
  if length = 0 then .error .emptyHost
  else do
    let host ← Host.parse (place.take length)
    let port ← parsePort (place.drop length)
    return {
      scheme, username, password, host
      port := if port = some scheme.defaultPort then none else port
      path := parsePath path
      query := query.map fun q => String.ofList (percentEncode querySet q)
      fragment := fragment.map fun f => String.ofList (percentEncode fragmentSet f) }

/-- What is wrong with the text after a scheme whose hosts are domains, apart from the scheme. -/
def checkSpecial (text : List Char) : Except Error Unit :=
  (parseHttp .http (text.dropWhile isSlash)).map fun _ => ()

/-- What is wrong with the text after the scheme of files, apart from the scheme. -/
def checkFile (text : List Char) : Except Error Unit :=
  match text with
  | a :: b :: rest =>
    if isSlash a && isSlash b then
      let host := rest.takeWhile fun c => !endsAuthority true c
      if host.isEmpty || isDrive host then .ok () else (Host.parse host).map fun _ => ()
    else .ok ()
  | _ => .ok ()

/-- Whether an authority without a host is refused, for the user name and password of the authority
and what follows it: there must be nothing in them. -/
def needsHost (user : Option (List Char)) (after : List Char) : Bool :=
  match user with
  | none => false
  | some [] => !after.isEmpty
  | some text => text ≠ [':']

/-- What is wrong with the text after any other scheme, apart from the scheme. -/
def checkOther (text : List Char) : Except Error Unit :=
  match text with
  | '/' :: '/' :: rest =>
    let authority := rest.takeWhile fun c => !endsAuthority false c
    let (user, place) := splitUser authority
    let length := hostLength false place
    if length = 0 ∧ (place ≠ [] ∨ needsHost user (rest.drop authority.length)) then
      .error .emptyHost
    else do
      Host.checkOpaque (place.take length)
      discard (parsePort (place.drop length))
  | _ => .ok ()

/-- The error for an address of another scheme: what is wrong with it, or the scheme itself. -/
def refuse (scheme : String) (text : List Char) : Error :=
  let checked :=
    if scheme = "ftp" ∨ scheme = "ws" ∨ scheme = "wss" then checkSpecial text
    else if scheme = "file" then checkFile text
    else checkOther text
  match checked with
  | .error e => e
  | .ok () => .unsupportedScheme scheme

/-- The address written by a text. -/
def parse (text : String) : Except Error Url :=
  match splitScheme? (clean text.toList) with
  | none => .error .noScheme
  | some ("http", rest) => parseHttp .http (rest.dropWhile isSlash)
  | some ("https", rest) => parseHttp .https (rest.dropWhile isSlash)
  | some (scheme, rest) => .error (refuse scheme rest)

end Url

end Beacon
