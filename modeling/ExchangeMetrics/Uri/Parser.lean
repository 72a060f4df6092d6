import ExchangeMetrics.Text.Bytes
import ExchangeMetrics.Uri.Basic

/-!
# Reading URIs

`Uri.parse` reads a text as a URI. A text that begins with `/` is a path with an optional
query. Any other text begins with a scheme and an authority, or is an authority throughout;
what follows the authority of an absolute URI is again a path with an optional query. A
fragment is dropped unread.

The reader checks which characters stand where, not what they mean: a host is not resolved, what
stands behind its colon need not be a number, and percent signs are not decoded.

## Main definitions

* `Authority.check`: the rules for brackets, colons, `@` and `%` in an authority.
* `Uri.pathAndQuery`: the part of a URI behind its authority.
* `Uri.parse`: the reader.
-/

namespace ExchangeMetrics

/-- Whether the code point of a character lies between those of two others, ends included. -/
def isBetween (first last c : Char) : Bool :=
  first ≤ c && c ≤ last

/-- Whether a character lies outside ASCII. -/
def isBeyondAscii (c : Char) : Bool :=
  0x80 ≤ c.toNat

/-! ### Authorities -/

namespace Authority

/-- The characters that end an authority. -/
def isEnd (c : Char) : Bool :=
  c = '/' || c = '?' || c = '#'

/-- The characters of which an authority is made, `%` apart. -/
def isPlain (c : Char) : Bool :=
  c.isAlphanum || "!$&'()*+,-.:;=@[]_~".toList.contains c

/-- The greatest number of colons within one part of an authority, as in an address of eight
groups with a number behind it. -/
def maxColons : Nat := 8

/-- What the reader of an authority remembers. -/
structure Scan where
  /-- The colons since the beginning, the last `]` or the last `@`. -/
  colons : Nat := 0
  /-- Whether a `[` was read. -/
  opened : Bool := false
  /-- Whether a `]` was read. -/
  closed : Bool := false
  /-- Whether a `%` was read since the beginning, the last `]` or the last `@`. -/
  percent : Bool := false
  /-- Whether the last character was `@`. -/
  atSign : Bool := false
deriving DecidableEq

/-- Read one character of an authority. -/
def Scan.step (s : Scan) (c : Char) : Except UriError Scan :=
  let s := { s with atSign := false }
  if c = ':' then
    if maxColons ≤ s.colons then .error .invalidAuthority
    else .ok { s with colons := s.colons + 1 }
  else if c = '[' then
    if s.percent || s.opened then .error .invalidAuthority else .ok { s with opened := true }
  else if c = ']' then
    if !s.opened || s.closed then .error .invalidAuthority
    else .ok { s with closed := true, colons := 0, percent := false }
  else if c = '@' then .ok { s with colons := 0, percent := false, atSign := true }
  else if c = '%' then .ok { s with percent := true }
  else if isPlain c then .ok s
  else .error .invalidCharacter

/-- The conditions on an authority that are known only at its end: the brackets match, at most
one colon is left, that behind the host, something follows an `@`, and no `%` stands in the
host. -/
def Scan.isComplete (s : Scan) : Bool :=
  s.opened = s.closed && s.colons ≤ 1 && !s.atSign && !s.percent

/-- Check the characters of an authority. -/
def check (cs : List Char) : Except UriError Unit := do
  let s ← cs.foldlM Scan.step {}
  if s.isComplete then .ok () else .error .invalidAuthority

/-- Cut the characters at the end of the authority they begin with, and check it. -/
def split (cs : List Char) : Except UriError (List Char × List Char) := do
  if cs.isEmpty then
    .error .empty
  else
    let authority := cs.takeWhile (!isEnd ·)
    check authority
    .ok (authority, cs.dropWhile (!isEnd ·))

end Authority

namespace Uri

/-! ### Path and query -/

/-- The characters of a path. -/
def isPathChar (c : Char) : Bool :=
  c = '!' || isBetween '$' ';' c || c = '=' || isBetween '@' '_' c || isBetween 'a' 'z' c ||
    c = '|' || c = '~' || c = '"' || c = '\x7b' || c = '\x7d' || isBeyondAscii c

/-- The characters of a query. -/
def isQueryChar (c : Char) : Bool :=
  c = '!' || isBetween '$' ';' c || c = '=' || isBetween '?' '~' c || isBeyondAscii c

/-- Read a path with an optional query: the path up to `?` or `#`, where an empty one stands
for `/`, and the query up to `#`. -/
def pathAndQuery (cs : List Char) : Except UriError (String × Option String) :=
  let isPathEnd (c : Char) : Bool := c = '?' || c = '#'
  let path := cs.takeWhile (!isPathEnd ·)
  if !path.all isPathChar then .error .invalidCharacter
  else
    let pathText := if path.isEmpty then "/" else String.ofList path
    match cs.dropWhile (!isPathEnd ·) with
    | '?' :: rest =>
        let query := rest.takeWhile (· ≠ '#')
        if query.all isQueryChar then .ok (pathText, some (String.ofList query))
        else .error .invalidCharacter
    | _ => .ok (pathText, none)

/-! ### Schemes -/

/-- The characters of a scheme. -/
def isSchemeChar (c : Char) : Bool :=
  c.isAlphanum || c = '+' || c = '-' || c = '.' || c = '~'

/-- The greatest number of bytes in a scheme. -/
def maxSchemeLength : Nat := 64

/-- The greatest number of bytes in a URI. -/
def maxLength : Nat := 65534

/-- Take a beginning off the characters, letter case aside. -/
def stripIgnoringCase : List Char → List Char → Option (List Char)
  | [], cs => some cs
  | p :: ps, c :: cs => if c.toLower = p then stripIgnoringCase ps cs else none
  | _ :: _, [] => none

/-- The scheme in front of `://`, and what follows, for a text of more than three bytes. There
is none when a character outside schemes comes before the colon, or when the colon is not
followed by two slashes. -/
def otherScheme (cs : List Char) : Except UriError (Option (String × List Char)) :=
  let name := cs.takeWhile isSchemeChar
  match cs.dropWhile isSchemeChar with
  | ':' :: '/' :: '/' :: rest =>
      if maxSchemeLength < name.length then .error .schemeTooLong
      else .ok (some (String.ofList name, rest))
  | _ => .ok none

/-- Split a text into its scheme, if it has one, and the rest. The schemes `http` and `https`
are recognised in any letter case. -/
def splitScheme (s : String) : Except UriError (Option String × List Char) :=
  let cs := s.toList
  match stripIgnoringCase "http://".toList cs with
  | some rest => .ok (some "http", rest)
  | none =>
    match stripIgnoringCase "https://".toList cs with
    | some rest => .ok (some "https", rest)
    | none =>
      if Text.byteLength s ≤ 3 then .ok (none, cs)
      else do
        match ← otherScheme cs with
        | some (name, rest) => .ok (some name, rest)
        | none => .ok (none, cs)

/-! ### The reader -/

/-- Read a text that does not begin with a slash: an absolute URI, or a bare authority. -/
def parseAuthorityForm (s : String) : Except UriError Uri := do
  let (scheme, rest) ← splitScheme s
  let (authority, tail) ← Authority.split rest
  let authorityText := String.ofList authority
  match scheme with
  | none =>
      if tail.isEmpty then .ok ⟨none, some authorityText, "", none⟩ else .error .invalidFormat
  | some _ =>
      if authority.isEmpty then .error .invalidFormat
      else
        let (path, query) ← pathAndQuery tail
        .ok ⟨scheme, some authorityText, path, query⟩

/-- Read a text of one byte that is no slash and no asterisk: an authority. -/
def parseSingle (s : String) : Except UriError Uri := do
  let (_, tail) ← Authority.split s.toList
  if tail.isEmpty then .ok ⟨none, some s, "", none⟩ else .error .invalidCharacter

/-- Read a text as a URI. -/
def parse (s : String) : Except UriError Uri :=
  if maxLength < Text.byteLength s then .error .tooLong
  else if s = "" then .error .empty
  else if s = "*" then .ok ⟨none, none, "*", none⟩
  else if s.toList.head? = some '/' then do
    let (path, query) ← pathAndQuery s.toList
    .ok ⟨none, none, path, query⟩
  else if Text.byteLength s = 1 then parseSingle s
  else parseAuthorityForm s

end Uri

end ExchangeMetrics
