import AuditLabels.Text.Lowercase
import AuditLabels.Text.Utf8

/-!
# Request targets

What a request asks for: a path with an optional query, which an origin may precede.  A fragment is
dropped.  A target without a path is an origin alone, and the path of an origin with a scheme is the
root where none is written.
-/

namespace AuditLabels.Http

/-- What a request asks for. -/
structure Target where
  /-- Scheme and authority as they are shown, or nothing. -/
  origin : List Char
  path : List Char
  query : Option (List Char)
  deriving DecidableEq, Repr

namespace Target

/-! ## Characters -/

/-- A character that may stand in a path. -/
def isPathChar (c : Char) : Bool :=
  c = '!' || ('$' ≤ c && c ≤ ';') || c = '=' || ('@' ≤ c && c ≤ '_') || ('a' ≤ c && c ≤ 'z') ||
    c = '|' || c = '~' || c = '"' || c = '\x7b' || c = '\x7d' || 0x7F ≤ c.toNat

/-- A character that may stand in a query. -/
def isQueryChar (c : Char) : Bool :=
  c = '!' || ('$' ≤ c && c ≤ ';') || c = '=' || '?' ≤ c

/-- A character that may stand in a scheme. -/
def isSchemeChar (c : Char) : Bool := c.isAlphanum || c = '+' || c = '-' || c = '.' || c = '~'

/-- A character that ends an authority. -/
def endsAuthority (c : Char) : Bool := c = '/' || c = '?' || c = '#'

/-- A character that may stand in an authority. -/
def isAuthorityChar (c : Char) : Bool :=
  c = '!' || c = '$' || ('&' ≤ c && c ≤ '.') || ('0' ≤ c && c ≤ ';') || c = '=' ||
    ('@' ≤ c && c ≤ '[') || c = ']' || c = '_' || ('a' ≤ c && c ≤ 'z') || c = '~' || c = '%'

/-! ## Reading -/

/-- A path with an optional query behind an origin. -/
def parsePath? (origin : List Char) (cs : List Char) : Option Target :=
  let cs := cs.takeWhile (· != '#')
  let path := cs.takeWhile (· != '?')
  let query := match cs.dropWhile (· != '?') with
    | [] => none
    | _ :: q => some q
  if path.all isPathChar && query.all (·.all isQueryChar) then
    some ⟨origin, if path.isEmpty then ['/'] else path, query⟩
  else none

/-- The number of characters that a scheme may have. -/
def maxScheme : Nat := 64

/-- A scheme, which may be empty, and what follows the sign behind it. -/
def takeScheme (cs : List Char) : Option (List Char × List Char) :=
  match cs.takeWhile isSchemeChar, cs.dropWhile isSchemeChar with
  | scheme, ':' :: '/' :: '/' :: rest =>
    if maxScheme < scheme.length then none else some (scheme, rest)
  | _, _ => none

/-- The schemes of the web are shown in small letters. -/
def schemeText (scheme : List Char) : List Char :=
  let small := scheme.map Text.asciiLower
  if small = ['h', 't', 't', 'p'] ∨ small = ['h', 't', 't', 'p', 's'] then small else scheme

/-- What the characters of an authority so far mean for the next ones. -/
structure AuthorityScan where
  /-- The colons behind the last at sign or closing bracket. -/
  colons : Nat
  /-- There is a percent sign behind the last at sign or closing bracket. -/
  percent : Bool
  /-- There is an opening bracket. -/
  opened : Bool
  /-- There is a closing bracket. -/
  closed : Bool
  /-- The last character is an at sign. -/
  atSign : Bool
  deriving DecidableEq, Repr

namespace AuthorityScan

/-- No character has been read. -/
def start : AuthorityScan := ⟨0, false, false, false, false⟩

/-- The number of colons that may stand inside brackets or in front of an at sign. -/
def maxColons : Nat := 8

/-- Take one more character, if it may stand there. -/
def step (s : AuthorityScan) (c : Char) : Option AuthorityScan :=
  let next := { s with atSign := false }
  if !isAuthorityChar c then none
  else if c = ':' then
    if s.colons = maxColons then none else some { next with colons := s.colons + 1 }
  else if c = '[' then
    if s.percent || s.opened then none else some { next with opened := true }
  else if c = ']' then
    if s.opened && !s.closed then some { next with colons := 0, percent := false, closed := true }
    else none
  else if c = '@' then some { s with colons := 0, percent := false, atSign := true }
  else if c = '%' then some { next with percent := true }
  else some next

/-- An authority may end here: its brackets are closed, at most a port follows its host, and only
what stands in front of the host is percent-encoded. -/
def atEnd (s : AuthorityScan) : Bool :=
  s.opened == s.closed && s.colons ≤ 1 && !s.percent && !s.atSign

end AuthorityScan

/-- The characters are an authority. -/
def isAuthority (cs : List Char) : Bool :=
  !cs.isEmpty && (cs.foldlM AuthorityScan.step .start).any AuthorityScan.atEnd

/-- An authority, and the rest. -/
def takeAuthority (cs : List Char) : Option (List Char × List Char) :=
  let authority := cs.takeWhile fun c => !endsAuthority c
  if isAuthority authority then some (authority, cs.dropWhile fun c => !endsAuthority c) else none

/-- A target that does not begin with a slash. -/
def parseOrigin? (cs : List Char) : Option Target :=
  match takeScheme cs with
  | some (scheme, rest) => do
    let (authority, rest) ← takeAuthority rest
    parsePath? (schemeText scheme ++ [':', '/', '/'] ++ authority) rest
  | none => do
    let (authority, rest) ← takeAuthority cs
    if rest.isEmpty then some ⟨authority, [], none⟩ else none

/-- The number of bytes that a target may have. -/
def maxSize : Nat := 65534

/-- The target that a text says. -/
def parse? (s : String) : Option Target :=
  let cs := s.toList
  if maxSize < Text.Utf8.size cs then none
  else match cs with
    | [] => none
    | ['*'] => some ⟨[], ['*'], none⟩
    | '/' :: _ => parsePath? [] cs
    | _ => parseOrigin? cs

/-! ## Writing -/

/-- The text of a target, without a fragment. -/
def text (t : Target) : String :=
  String.ofList (t.origin ++ t.path ++ (t.query.map ('?' :: ·)).getD [])

end Target

end AuditLabels.Http
