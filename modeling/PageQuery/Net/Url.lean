import PageQuery.Net.Domain
/-!
URLs.

`Url.parse?` reads an absolute URL and puts it into its one normal spelling: scheme and host in lower
case, dot segments resolved, the default port left out, and what may not stand bare percent-encoded.

This is the URL library behind the program's requests (specification §6).
-/

namespace PageQuery.Net

open Text Number

structure Url where
  scheme : String
  /-- User name and password. -/
  credentials : Option (String × String)
  host : Option String
  port : Option Nat
  /-- The path, with its leading slash if it has one. -/
  path : String
  query : Option String
  fragment : Option String
  deriving DecidableEq, Repr

/-! ## 1. What is encoded -/

def fragmentSet : List Char := [' ', '"', '<', '>', '\x60']

/-- On the web a single quote is encoded too. -/
def querySet (web : Bool) : List Char :=
  [' ', '"', '#', '<', '>'] ++ (if web then ['\''] else [])

def pathSet : List Char := [' ', '"', '#', '<', '>', '?', '\x60', '\x7b', '\x7d']

def userSet : List Char := pathSet ++ ['/', ':', ';', '=', '@', '[', '\\', ']', '^', '|']

/-! ## 2. Paths -/

def isSingleDot (segment : List Char) : Bool :=
  segment == ['.'] || segment.map Char.toLower == "%2e".toList

def isDoubleDot (segment : List Char) : Bool :=
  ["..", ".%2e", "%2e.", "%2e%2e"].contains (String.ofList (segment.map Char.toLower))

/-- Resolve dot segments. The segments so far are in reverse. -/
def resolve : List (List Char) → List (List Char) → List (List Char)
  | done, [] => done.reverse
  | done, [segment] =>
    if isDoubleDot segment then ([] :: done.tail).reverse
    else if isSingleDot segment then ([] :: done).reverse
    else (segment :: done).reverse
  | done, segment :: next :: rest =>
    if isDoubleDot segment then resolve done.tail (next :: rest)
    else if isSingleDot segment then resolve done (next :: rest)
    else resolve (segment :: done) (next :: rest)

/-- A path in its normal spelling. -/
def normalPath (cs : List Char) : String :=
  let cs := match cs with
    | '/' :: rest => rest
    | other => other
  String.ofList ((resolve [] (pieces '/' cs)).flatMap fun s => '/' :: encode pathSet s)

/-! ## 3. Parsing -/

def isAlpha (c : Char) : Bool := ('a' ≤ c && c ≤ 'z') || ('A' ≤ c && c ≤ 'Z')

def isSchemeChar (c : Char) : Bool :=
  isAlpha c || ('0' ≤ c && c ≤ '9') || c == '+' || c == '-' || c == '.'

/-- The scheme and what follows its colon. -/
def scheme? (cs : List Char) : Option (String × List Char) :=
  match cs with
  | c :: _ =>
    if isAlpha c then
      match cs.dropWhile isSchemeChar with
      | ':' :: rest => some (String.ofList ((cs.takeWhile isSchemeChar).map Char.toLower), rest)
      | _ => none
    else none
  | [] => none

/-- The schemes whose URLs have a host and a path of segments, with their default ports. -/
def webSchemes : List (String × Nat) := [("http", 80), ("https", 443), ("ws", 80), ("wss", 443),
  ("ftp", 21)]

def defaultPort? (scheme : String) : Option Nat :=
  (webSchemes.find? (·.1 == scheme)).map (·.2)

/-- URLs of the web have a host and take a backslash for a slash. -/
def isWeb (scheme : String) : Bool := (defaultPort? scheme).isSome

/-- User name and password before the last `@`, and the rest. -/
def splitCredentials (cs : List Char) : Option (List Char) × List Char :=
  match pieces '@' cs with
  | [] => (none, [])
  | [only] => (none, only)
  | parts => (some (joinWith ['@'] parts.dropLast), parts.getLast?.getD [])

def credentialsOf (cs : List Char) : Option (String × String) :=
  let user := String.ofList (encode userSet (cs.takeWhile (· != ':')))
  let password := String.ofList (encode userSet (cs.dropWhile (· != ':')).tail)
  if user == "" && password == "" then none else some (user, password)

/-- A port: digits alone, at most 65535. An empty one is as good as none. -/
def port? (cs : List Char) : Option (Option Nat) :=
  if cs.isEmpty then some none
  else if cs.all Char.isDigit && naturalOf cs < 65536 then some (some (naturalOf cs))
  else none

/-- The host up to its port. A host in brackets may hold colons. -/
def hostPart : Bool → List Char → List Char
  | _, [] => []
  | within, c :: rest =>
    if c == ':' && !within then []
    else c :: hostPart (if c == '[' then true else if c == ']' then false else within) rest

/-- What stands between the slashes and the path: credentials, host and port. -/
structure Authority where
  credentials : Option (String × String)
  host : String
  port : Option Nat

/-- Read an authority. A host of the web may not be empty, and its usual port is left out. -/
def authority? (scheme : String) (cs : List Char) : Option Authority := do
  let (user, rest) := splitCredentials cs
  let name := hostPart false rest
  let port ← port? (rest.drop (name.length + 1))
  let usual := defaultPort? scheme
  if name.isEmpty && (user.isSome || rest.length > name.length) then none
  return {
    credentials := user.bind credentialsOf
    host := ← if usual.isSome then host? name else opaqueHost? name
    port := if port == usual then none else port }

/-- A text up to a character, and what follows the character if it is there. -/
def splitAtChar (c : Char) (cs : List Char) : List Char × Option (List Char) :=
  match cs.dropWhile (· != c) with
  | [] => (cs, none)
  | _ :: rest => (cs.takeWhile (· != c), some rest)

/-- Characters at the ends that say nothing. -/
def isOuter (c : Char) : Bool := c.toNat ≤ 0x20

/-- What says that an authority follows: two slashes, or for the web any number of them. -/
def authorityStart (scheme : String) (cs : List Char) : Option (List Char) :=
  match cs with
  | '/' :: '/' :: rest => if isWeb scheme then some (rest.dropWhile (· == '/')) else some rest
  | other => if isWeb scheme then some (other.dropWhile (· == '/')) else none

/-- A path behind an authority. Outside the web it may be missing. -/
def pathBehind (scheme : String) (cs : List Char) : String :=
  if cs.isEmpty && !isWeb scheme then "" else normalPath cs

/-- A path without an authority. It is resolved only if it starts with a slash. -/
def pathAlone (cs : List Char) : String :=
  if cs.head? == some '/' then normalPath cs else String.ofList (encode [] cs)

/-- The parts of a URL from the scheme to the path. -/
def hierarchy? (scheme : String) (cs : List Char) :
    Option (Option Authority × String) :=
  match authorityStart scheme cs with
  | some rest => do
    let a ← authority? scheme (rest.takeWhile (· != '/'))
    return (some a, pathBehind scheme (rest.dropWhile (· != '/')))
  | none => some (none, pathAlone cs)

/-- Read an absolute URL. -/
def Url.parse? (s : String) : Option Url := do
  let cs := ((s.toList.dropWhile isOuter).reverse.dropWhile isOuter).reverse
  let cs := cs.filter fun c => c != '\t' && c != '\n' && c != '\r'
  let (scheme, rest) ← scheme? cs
  let (rest, fragment) := splitAtChar '#' rest
  let (rest, query) := splitAtChar '?' rest
  let rest := if isWeb scheme then rest.map fun c => if c == '\\' then '/' else c else rest
  let (a, path) ← hierarchy? scheme rest
  return {
    scheme := scheme
    credentials := a.bind (·.credentials)
    host := a.map (·.host)
    port := a.bind (·.port)
    path := path
    query := query.map fun q => String.ofList (encode (querySet (isWeb scheme)) q)
    fragment := fragment.map fun f => String.ofList (encode fragmentSet f) }

/-! ## 4. Writing -/

namespace Url

/-- The path and the query, as a request names them. -/
def target (u : Url) : String :=
  u.path ++ match u.query with
    | some q => "?" ++ q
    | none => ""

/-- The URL in full, but for user name and password. -/
def text (u : Url) : String :=
  u.scheme ++ ":" ++
    (match u.host with
      | some h => "//" ++ h ++ (match u.port with
        | some p => ":" ++ String.ofList (naturalDigits p)
        | none => "")
      | none => "") ++ u.target ++
    match u.fragment with
    | some f => "#" ++ f
    | none => ""

/-- The port that a connection goes to. -/
def connectionPort (u : Url) : Option Nat :=
  match u.port with
  | some p => some p
  | none => defaultPort? u.scheme

end Url

end PageQuery.Net
