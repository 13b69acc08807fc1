import BidAdapter.Endpoint.Host
import BidAdapter.Endpoint.Path

/-!
# URLs

`Url.parse` : an absolute URL in its normal form; `Url.text` : its text. The scheme and the host are in lower case, a
port that the scheme implies is left out, dots in the path are resolved, and what a part may not hold is
percent-encoded.
-/

namespace BidAdapter.Endpoint

set_option autoImplicit false

/-- A URL, each part in its normal form. -/
structure Url where
  scheme : List Char
  /-- The user name and the password, with the colon between them. -/
  userinfo : List Char
  /-- Whether there is an authority, even one without a host. -/
  hasAuthority : Bool
  host : Option Host
  port : Option Nat
  /-- The path, with its slashes. -/
  path : List Char
  query : Option (List Char)
  fragment : Option (List Char)

namespace Url

/-! ## Text -/

/-- The user, the host and the port. -/
def authorityChars (u : Url) : List Char :=
  (if u.userinfo.isEmpty then [] else u.userinfo ++ ['@']) ++ (u.host.map Host.chars).getD [] ++
    match u.port with
    | some n => ':' :: Nat.toDigits 10 n
    | none => []

/-- What stands between the scheme and the query. A path without an authority that starts with an empty segment has a
dot in front, so that it is not read as an authority. -/
def hierarchyChars (u : Url) : List Char :=
  if u.hasAuthority then ['/', '/'] ++ u.authorityChars ++ u.path
  else match u.path with
    | '/' :: '/' :: _ => ['/', '.'] ++ u.path
    | path => path

def chars (u : Url) : List Char :=
  u.scheme ++ ':' :: u.hierarchyChars ++ (u.query.map ('?' :: ·)).getD [] ++ (u.fragment.map ('#' :: ·)).getD []

def text (u : Url) : String := String.ofList u.chars

/-! ## Scheme -/

def classOf (scheme : List Char) : SchemeClass :=
  let s := String.ofList scheme
  if s = "file" then .file else if ["http", "https", "ws", "wss", "ftp"].contains s then .special else .other

def impliedPort (scheme : List Char) : Option Nat :=
  let s := String.ofList scheme
  if s = "http" ∨ s = "ws" then some 80
  else if s = "https" ∨ s = "wss" then some 443
  else if s = "ftp" then some 21
  else none

/-- The scheme in lower case and what follows its colon. -/
def splitScheme (cs : List Char) : Option (List Char × List Char) :=
  let isSchemeChar (c : Char) : Bool := c.isAlphanum || c == '+' || c == '-' || c == '.'
  let scheme := cs.takeWhile isSchemeChar
  match scheme, cs.dropWhile isSchemeChar with
  | c :: _, ':' :: rest => if c.isAlpha then some (scheme.map Char.toLower, rest) else none
  | _, _ => none

/-! ## Query and fragment -/

/-- What stands before the first query or fragment, the query and the fragment. -/
def splitSuffix (cs : List Char) : List Char × Option (List Char) × Option (List Char) :=
  let front := cs.takeWhile fun c => c != '?' && c != '#'
  match cs.dropWhile fun c => c != '?' && c != '#' with
  | '?' :: rest =>
    let query := rest.takeWhile (· != '#')
    match rest.dropWhile (· != '#') with
    | _ :: fragment => (front, some query, some fragment)
    | [] => (front, some query, none)
  | _ :: fragment => (front, none, some fragment)
  | [] => (front, none, none)

/-! ## Authority -/

/-- The user and the password of an authority, encoded. The first colon stands between them, and is left out in front of
an empty password. -/
def userinfoChars (cs : List Char) : List Char :=
  let user := percentEncode inUserinfo (cs.takeWhile (· != ':'))
  match cs.dropWhile (· != ':') with
  | _ :: c :: rest => user ++ ':' :: percentEncode inUserinfo (c :: rest)
  | _ => user

/-- The text in front of the last at sign, if there is one, and the text behind it. -/
def splitUser (cs : List Char) : Option (List Char) × List Char :=
  match (cs.reverse.dropWhile (· != '@')) with
  | _ :: user => (some user.reverse, (cs.reverse.takeWhile (· != '@')).reverse)
  | [] => (none, cs)

/-- The host of an authority and what stands behind it: a colon ends it, except between brackets. -/
def splitHost (bracketed : Bool) : List Char → List Char × List Char
  | [] => ([], [])
  | c :: cs =>
    if c == ':' && !bracketed then ([], c :: cs)
    else
      let (host, rest) := splitHost (if c == '[' then true else if c == ']' then false else bracketed) cs
      (c :: host, rest)

/-- The digits of a port and the number that they write; a slash of either kind ends a port. -/
def portOf (cs : List Char) : Except UrlError (Option Nat × List Char) :=
  let digits := cs.takeWhile Char.isDigit
  let rest := cs.dropWhile Char.isDigit
  match rest with
  | [] | '/' :: _ | '\\' :: _ =>
    if digits.isEmpty then .ok (none, rest)
    else match ofBase 10 digits with
      | some n => if n < 2 ^ 16 then .ok (some n, rest) else .error .port
      | none => .error .port
  | _ => .error .port

/-- The host that a class of schemes takes; only one of no class may be empty. -/
def hostOf (k : SchemeClass) (cs : List Char) : Except UrlError (Option Host) :=
  if k.isSpecial then
    if cs.isEmpty then .error .emptyHost else (Host.ofDomain cs).map some
  else if cs.isEmpty then .ok none
  else (Host.ofOther cs).map some

/-- A URL with an authority, whose text stands behind the slashes, up to the query; `suffixed` says whether there is a
query or a fragment. -/
def ofAuthority (scheme : List Char) (k : SchemeClass) (suffixed : Bool) (cs : List Char) : Except UrlError Url := do
  let (user, hostPort) := splitUser (cs.takeWhile fun c => !k.isSlash c)
  let tail := cs.dropWhile fun c => !k.isSlash c
  if user = some [] ∧ hostPort.isEmpty ∧ (suffixed || !tail.isEmpty) then throw .emptyHost
  let (hostText, afterHost) := splitHost false hostPort
  let userinfo := (user.map userinfoChars).getD []
  let host ← hostOf k hostText
  if host.isNone ∧ (afterHost.head? = some ':' ∨ !userinfo.isEmpty) then throw .emptyHost
  let (port, rest) ← match afterHost with
    | _ :: portText => portOf (portText ++ tail)
    | [] => pure (none, tail)
  let path := match rest with
    | [] => if k.isSpecial then ['/'] else []
    | c :: cs => if k.isSlash c then pathChars k cs else pathChars k (c :: cs)
  return {
    scheme
    userinfo
    hasAuthority := true
    host
    port := if port = impliedPort scheme then none else port
    path
    query := none
    fragment := none }

/-! ## Files -/

/-- A file with a path behind its first slash. -/
def fileOf (host : Option Host) (cs : List Char) : Url where
  scheme := ['f', 'i', 'l', 'e']
  userinfo := []
  hasAuthority := true
  host := host
  port := none
  path := pathChars .file cs
  query := none
  fragment := none

/-- A file. The local host is no host, and a drive letter in its place starts the path. -/
def ofFile (cs : List Char) : Except UrlError Url :=
  let isSlash := SchemeClass.file.isSlash
  match cs with
  | a :: b :: rest =>
    if isSlash a && isSlash b then do
      let hostText := rest.takeWhile fun c => !isSlash c
      if isDriveLetter hostText then return fileOf none rest
      let path := (rest.dropWhile fun c => !isSlash c).drop 1
      if hostText.isEmpty then return fileOf none path
      let host ← Host.ofDomain hostText
      if host = .name "localhost".toList then return fileOf none path
      return fileOf (some host) path
    else .ok (fileOf none (if isSlash a then b :: rest else cs))
  | [a] => .ok (fileOf none (if isSlash a then [] else [a]))
  | [] => .ok (fileOf none [])

/-! ## The whole URL -/

/-- A URL without an authority. A path that does not start with a slash is no list of segments. -/
def ofPath (scheme : List Char) (cs : List Char) : Url where
  scheme := scheme
  userinfo := []
  hasAuthority := false
  host := none
  port := none
  path := match cs with
    | '/' :: rest => pathChars .other rest
    | cs => percentEncode isControl cs
  query := none
  fragment := none

/-- What stands between the scheme and the query. -/
def ofHierarchy (scheme : List Char) (suffixed : Bool) (cs : List Char) : Except UrlError Url :=
  match classOf scheme, cs with
  | .file, cs => ofFile cs
  | .special, cs => ofAuthority scheme .special suffixed (cs.dropWhile SchemeClass.special.isSlash)
  | .other, '/' :: '/' :: cs => ofAuthority scheme .other suffixed cs
  | .other, cs => .ok (ofPath scheme cs)

/-- A text without the blanks and controls at both ends and without line breaks and tabs. -/
def cleaned (cs : List Char) : List Char :=
  let isOuter (c : Char) : Bool := c.toNat ≤ 0x20
  let trimmed := ((cs.dropWhile isOuter).reverse.dropWhile isOuter).reverse
  trimmed.filter fun c => c != '\t' && c != '\n' && c != '\r'

/-- Read an absolute URL. -/
def parse (s : String) : Except UrlError Url :=
  match splitScheme (cleaned s.toList) with
  | none => .error .relative
  | some (scheme, rest) => do
    let (front, query, fragment) := splitSuffix rest
    let u ← ofHierarchy scheme (query.isSome || fragment.isSome) front
    let querySet := if (classOf scheme).isSpecial then inSpecialQuery else inQuery
    return { u with query := query.map (percentEncode querySet), fragment := fragment.map (percentEncode inFragment) }

end Url

end BidAdapter.Endpoint
