import BidAdapter.Endpoint.Percent
import BidAdapter.Text.Split

/-!
# Paths

`pathChars` : the path of a URL in its normal form. Single dots are left out and double dots take the segment before
them away, whether written as dots or percent-encoded; every other segment is encoded. A drive letter is never taken
away.
-/

namespace BidAdapter.Endpoint

set_option autoImplicit false

/-- How a scheme treats its path. -/
inductive SchemeClass where
  /-- A file. -/
  | file
  /-- A scheme with a host rule, other than the file scheme. -/
  | special
  | other
deriving DecidableEq, Repr

/-- Whether the host and the query follow the rules of the web. -/
def SchemeClass.isSpecial (k : SchemeClass) : Bool := k != .other

/-- Whether a character separates segments. -/
def SchemeClass.isSlash (k : SchemeClass) (c : Char) : Bool := c == '/' || (c == '\\' && k.isSpecial)

/-! ## Segments -/

/-- A segment that stands for the one it is in. -/
def isDot (cs : List Char) : Bool := ["." , "%2e"].contains (String.ofList (cs.map Char.toLower))

/-- A segment that stands for the one before. -/
def isDoubleDot (cs : List Char) : Bool :=
  ["..", "%2e.", ".%2e", "%2e%2e"].contains (String.ofList (cs.map Char.toLower))

/-- Whether a segment is a drive letter: a letter, and a colon or a bar. -/
def isDriveLetter : List Char → Bool
  | [c, m] => c.isAlpha && (m == ':' || m == '|')
  | _ => false

/-- Take the last segment away, unless it is a drive letter. -/
def popSegment : List (List Char) → List (List Char)
  | [] => []
  | s :: path => if isDriveLetter s then s :: path else path

/-- The normal form of segments, in reverse order, behind those that are done. A dot at the end leaves an empty segment.
-/
def normalSegments (done : List (List Char)) : List (List Char) → List (List Char)
  | [] => done
  | s :: ss =>
    let closed (path : List (List Char)) := if ss.isEmpty then [] :: path else path
    if isDoubleDot s then normalSegments (closed (popSegment done)) ss
    else if isDot s then normalSegments (closed done) ss
    else normalSegments (percentEncode inPath s :: done) ss

/-- A path from its segments in reverse order. The empty segments at the start of a file path are left out. -/
def joinSegments (k : SchemeClass) (done : List (List Char)) : List Char :=
  let joined := ['/'].intercalate done.reverse
  '/' :: if k = .file then joined.dropWhile (· = '/') else joined

/-- The segments of a path as they are written. -/
def rawSegments (k : SchemeClass) (cs : List Char) : List (List Char) :=
  Text.splitOn '/' (cs.map fun c => if k.isSlash c then '/' else c)

/-- The normal form of a path, whose text stands behind its first slash. -/
def pathChars (k : SchemeClass) (cs : List Char) : List Char := joinSegments k (normalSegments [] (rawSegments k cs))

end BidAdapter.Endpoint
