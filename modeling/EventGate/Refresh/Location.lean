import EventGate.Fault
import EventGate.Text.Blank
import EventGate.Text.Split

/-! # Manifests on a server

Where the manifest of a host lies, what is asked of the server, and what its reply means.
-/

namespace EventGate

open Text

/-- The address of the manifest of a host, for one version of the document format. -/
def manifestAddress (base host : String) (schema : Nat) : String :=
  let isSlash (c : Char) : Bool := c == '/'
  let base := (base.toList.reverse.dropWhile isSlash).reverse
  String.ofList base ++ "/" ++ String.ofList (stripEnds isSlash host.toList) ++
    "/v" ++ schema.repr ++ ".json"

/-- The directive that caches on the way are sent, if a fresh copy is wanted. -/
def cacheDirective (bypass : Bool) : Option String :=
  if bypass then some "no-cache" else none

structure Reply where
  status : Nat
  body : String
deriving DecidableEq, Repr

namespace Reply

def reasons : List (Nat × String) := [
  (100, "Continue"), (101, "Switching Protocols"), (102, "Processing"),
  (200, "OK"), (201, "Created"), (202, "Accepted"), (203, "Non Authoritative Information"),
  (204, "No Content"), (205, "Reset Content"), (206, "Partial Content"), (207, "Multi-Status"),
  (208, "Already Reported"), (226, "IM Used"),
  (300, "Multiple Choices"), (301, "Moved Permanently"), (302, "Found"), (303, "See Other"),
  (304, "Not Modified"), (305, "Use Proxy"), (307, "Temporary Redirect"),
  (308, "Permanent Redirect"),
  (400, "Bad Request"), (401, "Unauthorized"), (402, "Payment Required"), (403, "Forbidden"),
  (404, "Not Found"), (405, "Method Not Allowed"), (406, "Not Acceptable"),
  (407, "Proxy Authentication Required"), (408, "Request Timeout"), (409, "Conflict"),
  (410, "Gone"), (411, "Length Required"), (412, "Precondition Failed"),
  (413, "Payload Too Large"), (414, "URI Too Long"), (415, "Unsupported Media Type"),
  (416, "Range Not Satisfiable"), (417, "Expectation Failed"), (418, "I'm a teapot"),
  (421, "Misdirected Request"), (422, "Unprocessable Entity"), (423, "Locked"),
  (424, "Failed Dependency"), (426, "Upgrade Required"),
  (428, "Precondition Required"), (429, "Too Many Requests"),
  (431, "Request Header Fields Too Large"), (451, "Unavailable For Legal Reasons"),
  (500, "Internal Server Error"), (501, "Not Implemented"), (502, "Bad Gateway"),
  (503, "Service Unavailable"), (504, "Gateway Timeout"), (505, "HTTP Version Not Supported"),
  (506, "Variant Also Negotiates"), (507, "Insufficient Storage"), (508, "Loop Detected"),
  (510, "Not Extended"), (511, "Network Authentication Required")]

def statusText (reply : Reply) : String :=
  reply.status.repr ++ " " ++ (reasons.lookup reply.status).getD "<unknown status code>"

def isSuccess (reply : Reply) : Bool :=
  200 ≤ reply.status && reply.status < 300

/-- Whether a reply of this status has no body, whatever follows it. -/
def isBodiless (reply : Reply) : Bool :=
  reply.status = 204

/-- The text of the body. A byte order mark at its start belongs to its encoding. -/
def text (reply : Reply) : String :=
  if reply.isBodiless then ""
  else
    match reply.body.toList with
    | '\uFEFF' :: rest => String.ofList rest
    | _ => reply.body

/-- The document that a reply from an address brings. -/
def document (reply : Reply) (address : String) : Except Fault String :=
  if reply.isSuccess then .ok reply.text
  else .error (.fetch (address ++ " returned HTTP " ++ reply.statusText))

theorem document_eq_ok_iff {reply : Reply} {address text : String} :
    reply.document address = .ok text ↔ reply.isSuccess = true ∧ reply.text = text := by
  unfold document
  split <;> simp_all

end Reply

/-! ## Request targets -/

namespace Target

/-- What stands as it is in the path of a request. -/
def isPlainInPath (c : Char) : Bool :=
  0x20 < c.toNat && c.toNat < 0x7F &&
    ['"', '#', '<', '>', '?', '^', '\x60', '\x7b', '\x7d'].all (· != c)

/-- What stands as it is behind the question mark of a request. -/
def isPlainInQuery (c : Char) : Bool :=
  0x20 < c.toNat && c.toNat < 0x7F && ['"', '#', '<', '>', '\''].all (· != c)

def escapes (c : Char) : List Char :=
  let digit (n : Nat) : Char := (Nat.digitChar n).toUpper
  (String.singleton c).toUTF8.toList.flatMap fun byte =>
    ['%', digit (byte.toNat / 16), digit (byte.toNat % 16)]

def escapeUnless (isPlain : Char → Bool) (chars : List Char) : List Char :=
  chars.flatMap fun c => if isPlain c then [c] else escapes c

def isHere (segment : List Char) : Bool :=
  [".", "%2e"].contains (String.ofList (segment.map Char.toLower))

def isAbove (segment : List Char) : Bool :=
  ["..", ".%2e", "%2e.", "%2e%2e"].contains (String.ofList (segment.map Char.toLower))

/-- Adds the segments of a path to those before, the last of which comes first. A path that ends in
a folder ends in an empty segment. -/
def walk (before : List (List Char)) : List (List Char) → List (List Char)
  | [] => before.reverse
  | segment :: rest =>
    let before :=
      if isAbove segment then before.drop 1
      else if isHere segment then before
      else segment :: before
    if rest.isEmpty && (isAbove segment || isHere segment) then ([] :: before).reverse
    else walk before rest

def path (chars : List Char) : List Char :=
  let slashes := chars.map fun c => if c = '\\' then '/' else c
  let segments := match splitChars '/' slashes with
    | [[]] => [[]]
    | [] :: rest => rest
    | all => all
  (walk [] segments).flatMap fun segment => '/' :: escapeUnless isPlainInPath segment

/-- The part of an address behind the server, as it stands in a request: without the fragment, and
without tabs and line breaks. -/
def ofTail (tail : String) : String :=
  let plain := tail.toList.filter fun c => c != '\t' && c != '\n' && c != '\r'
  let chars := plain.takeWhile (· != '#')
  let query := match chars.dropWhile (· != '?') with
    | [] => []
    | mark :: rest => mark :: escapeUnless isPlainInQuery rest
  String.ofList (path (chars.takeWhile (· != '?')) ++ query)

end Target

def requestLine (tail : String) : String :=
  "GET " ++ Target.ofTail tail ++ " HTTP/1.1"

end EventGate
