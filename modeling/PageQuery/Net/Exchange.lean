import PageQuery.Net.Url
/-!
Requests over the network and their responses.

A `Network` is what answers requests, with a record of those that reached something. `fetch` builds
a request and sends it; a request that cannot be built is never sent. What can go wrong before a
response is a `SendFault`.

This is the exchange that the program leaves to its HTTP library (specification §6).
-/

namespace PageQuery.Net

open Text Number

/-! ## 1. Messages -/

structure Request where
  method : String
  url : Url
  /-- The names are in lower case. -/
  headers : List (String × String)
  body : String

structure Response where
  status : Nat
  body : String
  /-- The body arrived as long as it was announced. -/
  complete : Bool

def Response.isSuccess (r : Response) : Bool := 200 ≤ r.status && r.status < 300

/-- Statuses whose response has no body. -/
def isBodiless (status : Nat) : Bool := status == 204 || status == 304

/-- The text of a response, without a byte order mark. There is none if the body broke off. -/
def Response.text? (r : Response) : Option String :=
  if isBodiless r.status then some ""
  else if r.complete then
    some (match r.body.toList with
      | '\ufeff' :: rest => String.ofList rest
      | _ => r.body)
  else none

/-- The standard reasons of statuses that are no success. -/
def reasons : List (Nat × String) :=
  [(100, "Continue"), (101, "Switching Protocols"), (102, "Processing"),
   (300, "Multiple Choices"), (301, "Moved Permanently"), (302, "Found"), (303, "See Other"),
   (304, "Not Modified"), (305, "Use Proxy"), (307, "Temporary Redirect"),
   (308, "Permanent Redirect"), (400, "Bad Request"), (401, "Unauthorized"),
   (402, "Payment Required"), (403, "Forbidden"), (404, "Not Found"),
   (405, "Method Not Allowed"), (406, "Not Acceptable"), (407, "Proxy Authentication Required"),
   (408, "Request Timeout"), (409, "Conflict"), (410, "Gone"), (411, "Length Required"),
   (412, "Precondition Failed"), (413, "Payload Too Large"), (414, "URI Too Long"),
   (415, "Unsupported Media Type"), (416, "Range Not Satisfiable"), (417, "Expectation Failed"),
   (418, "I'm a teapot"), (421, "Misdirected Request"), (422, "Unprocessable Entity"),
   (423, "Locked"), (424, "Failed Dependency"), (425, "Too Early"), (426, "Upgrade Required"),
   (428, "Precondition Required"), (429, "Too Many Requests"),
   (431, "Request Header Fields Too Large"), (451, "Unavailable For Legal Reasons"),
   (500, "Internal Server Error"), (501, "Not Implemented"), (502, "Bad Gateway"),
   (503, "Service Unavailable"), (504, "Gateway Timeout"), (505, "HTTP Version Not Supported"),
   (506, "Variant Also Negotiates"), (507, "Insufficient Storage"), (508, "Loop Detected"),
   (510, "Not Extended"), (511, "Network Authentication Required")]

/-- A status in words: its number and its reason. -/
def statusText (status : Nat) : String :=
  String.ofList (naturalDigits status) ++ " " ++
    ((reasons.find? (·.1 == status)).map (·.2)).getD "<unknown status code>"

/-! ## 2. Sending -/

/-- What keeps a request from being answered. -/
inductive SendFault where
  /-- The request cannot be built. The URL is given if it could be read. -/
  | unbuildable (url : Option Url)
  /-- Nothing answers there. -/
  | unanswered (url : Url)

def SendFault.message : SendFault → String
  | unbuildable none => "builder error"
  | unbuildable (some url) => "builder error for url (" ++ url.text ++ ")"
  | unanswered url => "error sending request for url (" ++ url.text ++ ")"

/-- The wording for a body that broke off. -/
def brokenBody : String := "error decoding response body"

/-- What answers requests. -/
structure Network where
  answer : Request → Option Response
  /-- The requests that were answered, the latest first. -/
  seen : List Request

/-- A network on which nothing answers. -/
def Network.silent : Network := ⟨fun _ => none, []⟩

/-- A character of a header's name. -/
def isNameChar (c : Char) : Bool :=
  c.isAlphanum || "!#$%&'*+-.^_\x60|~".toList.contains c

def isHeaderName (s : String) : Bool := s != "" && s.toList.all isNameChar

/-- A header's value holds no control characters but tabs. -/
def isHeaderValue (s : String) : Bool :=
  s.toList.all fun c => (0x20 ≤ c.toNat && c.toNat != 0x7F) || c == '\t'

/-- Blanks at the ends of a header's value are not part of it. -/
def headerValue (s : String) : String :=
  let isGap (c : Char) : Bool := c == ' ' || c == '\t'
  String.ofList (((s.toList.dropWhile isGap).reverse.dropWhile isGap).reverse)

def lowerName (s : String) : String := String.ofList (s.toList.map Char.toLower)

/-! ## 3. Credentials -/

def base64Digits : List Char :=
  "ABCDEFGHIJKLMNOPQRSTUVWXYZabcdefghijklmnopqrstuvwxyz0123456789+/".toList

def base64Digit (n : Nat) : Char := base64Digits.getD n 'A'

/-- Bytes in base 64. -/
def base64 : List UInt8 → List Char
  | [] => []
  | [a] =>
    [base64Digit (a.toNat / 4), base64Digit (a.toNat % 4 * 16), '=', '=']
  | [a, b] =>
    [base64Digit (a.toNat / 4), base64Digit (a.toNat % 4 * 16 + b.toNat / 16),
     base64Digit (b.toNat % 16 * 4), '=']
  | a :: b :: c :: rest =>
    base64Digit (a.toNat / 4) :: base64Digit (a.toNat % 4 * 16 + b.toNat / 16) ::
      base64Digit (b.toNat % 16 * 4 + c.toNat / 64) :: base64Digit (c.toNat % 64) :: base64 rest

/-- The header that a URL's user name and password make. -/
def authorization (u : Url) : List (String × String) :=
  match u.credentials with
  | none => []
  | some (user, password) =>
    [("authorization", "Basic " ++ String.ofList (base64
      (decodedBytes user.toList ++ (':'.toNat.toUInt8 :: decodedBytes password.toList))))]

/-! ## 4. Exchanges -/

/-- Build a request. Headers given by name and value must be fit to send. -/
def buildRequest (method url : String) (headers : List (String × String)) (body : String) :
    Except SendFault Request :=
  match Url.parse? url with
  | none => .error (.unbuildable none)
  | some u =>
    if u.host.isNone then .error (.unbuildable (some u))
    else if headers.any fun h => !isHeaderName h.1 || !isHeaderValue h.2 then
      .error (.unbuildable none)
    else if u.scheme != "http" && u.scheme != "https" then .error (.unbuildable (some u))
    else .ok
      { method := method
        url := { u with credentials := none }
        headers := authorization u ++ headers.map fun h => (lowerName h.1, headerValue h.2)
        body := body }

/-- Send a request that was built. -/
def Network.send (n : Network) (r : Request) : Except SendFault Response × Network :=
  match n.answer r with
  | some response => (.ok response, { n with seen := r :: n.seen })
  | none => (.error (.unanswered r.url), n)

/-- Build a request and send it. -/
def Network.fetch (n : Network) (method url : String) (headers : List (String × String))
    (body : String) : Except SendFault Response × Network :=
  match buildRequest method url headers body with
  | .ok r => n.send r
  | .error e => (.error e, n)

/-! ## 5. Fixed answers -/

/-- What a path is answered with. -/
structure Canned where
  status : Nat
  body : String
  complete : Bool

/-- The answer for a path that has none. -/
def Canned.missing : Canned := ⟨404, "", true⟩

/-- This machine, by its names. -/
def loopbackHosts : List String := ["127.0.0.1", "localhost"]

/-- A network on which this machine answers on the given ports, by path, and nothing else does. -/
def Network.ofRoutes (ports : List Nat) (routes : List (String × Canned)) : Network where
  answer r :=
    let isHere := r.url.scheme == "http" && (r.url.host.any loopbackHosts.contains) &&
      r.url.connectionPort.any ports.contains
    if isHere then
      let canned : Canned := ((routes.find? (·.1 == r.url.target)).map (·.2)).getD .missing
      if 200 ≤ canned.status ∧ canned.status < 1000 then
        some ⟨canned.status, canned.body, canned.complete⟩
      else none
    else none
  seen := []

end PageQuery.Net
