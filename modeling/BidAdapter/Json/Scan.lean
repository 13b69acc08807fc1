import BidAdapter.Json.Dialect
import BidAdapter.Text.Hex

/-!
# Scanning JSON texts

`Document.scan` : the tree of a text in a dialect, and whether anything but blanks stands behind it.
-/

namespace BidAdapter.Json

set_option autoImplicit false

open Text (hexValue?)

/-! ## Spelling -/

/-- A piece of a string literal: a character, or a UTF-16 unit written in hexadecimal. -/
inductive Piece where
  | char (c : Char)
  | unit (u : Nat)

/-- What the pieces of a string come to. -/
inductive Spelling where
  | text (cs : List Char)
  /-- The last piece is a leading surrogate: the text so far cannot tell whether it is paired. -/
  | pending (cs : List Char)
  | unpaired

/-- Put a character in front of a spelling. -/
def Spelling.cons (c : Char) : Spelling → Spelling
  | .text cs => .text (c :: cs)
  | .pending cs => .pending (c :: cs)
  | .unpaired => .unpaired

/-- Join surrogates. -/
def Dialect.spell (d : Dialect) : List Piece → Spelling
  | [] => .text []
  | .char c :: ps => (d.spell ps).cons c
  | .unit u :: ps =>
    if isTrailing u then .unpaired
    else if isLeading u then
      match ps with
      | [] => .pending []
      | .unit v :: qs =>
        match d.pair? u v with
        | some c => (d.spell qs).cons c
        | none => .unpaired
      | .char c :: qs =>
        match d.loneSurrogate with
        | some l => ((d.spell qs).cons c).cons l
        | none => .unpaired
    else (d.spell ps).cons (Char.ofNat u)

/-! ## Characters -/

/-- The UTF-16 unit of four hexadecimal digits. -/
def unitOf? (a b c d : Char) : Option Nat := do
  let a ← hexValue? a
  let b ← hexValue? b
  let c ← hexValue? c
  let d ← hexValue? d
  return ((a * 16 + b) * 16 + c) * 16 + d

/-- The character of an escape of one letter. -/
def escaped? (c : Char) : Option Char :=
  if c = '"' ∨ c = '\\' ∨ c = '/' then some c
  else if c = 'b' then some '\x08'
  else if c = 'f' then some '\x0c'
  else if c = 'n' then some '\n'
  else if c = 'r' then some '\r'
  else if c = 't' then some '\t'
  else none

/-! ## Strings -/

/-- A scanned string body: its pieces, the flaw that ended it, if any, and what follows. -/
structure Body where
  pieces : List Piece
  stop : Option Flaw
  rest : List Char

/-- Put a piece in front of a body. -/
def Body.cons (p : Piece) (b : Body) : Body := ⟨p :: b.pieces, b.stop, b.rest⟩

/-- A hexadecimal escape needs four more bytes of text, whatever they are; fewer are an early end. -/
def shortEscape (rest : List Char) : Flaw :=
  if byteSize rest < 4 then .truncated else .malformed

/-- The body of a string behind its opening quotation mark. -/
def scanBody : List Char → Body
  | [] => ⟨[], some .truncated, []⟩
  | '"' :: rest => ⟨[], none, rest⟩
  | ['\\'] => ⟨[], some .truncated, []⟩
  | '\\' :: 'u' :: a :: b :: c :: d :: rest =>
    match unitOf? a b c d with
    | some u => (scanBody rest).cons (.unit u)
    | none => ⟨[], some .malformed, rest⟩
  | '\\' :: e :: rest =>
    if e = 'u' then ⟨[], some (shortEscape rest), rest⟩
    else match escaped? e with
      | some c => (scanBody rest).cons (.char c)
      | none => ⟨[], some .malformed, rest⟩
  | c :: rest => if c.toNat < 0x20 then ⟨[], some .malformed, rest⟩ else (scanBody rest).cons (.char c)

/-- The text of a string body, or its flaws where it is kept and where it is passed over. -/
def Dialect.textOf (d : Dialect) (b : Body) : Except (Flaw × Option Flaw) String :=
  match d.spell b.pieces, b.stop with
  | .text cs, none => .ok (String.ofList cs)
  | .pending cs, none =>
    match d.loneSurrogate with
    | some l => .ok (String.ofList (cs ++ [l]))
    | none => .error (.malformed, none)
  | .unpaired, stop => .error (.malformed, stop)
  | _, some f => .error (f, some f)

/-! ## Leaves -/

def Dialect.stringLeaf (d : Dialect) (b : Body) : Document :=
  match d.textOf b with
  | .ok s => .string s
  | .error (kept, skipped) => .flawed kept skipped

/-- A keyword: each letter has to follow. -/
def Dialect.scanKeyword (d : Dialect) (leaf : Document) : List Char → List Char → Document × List Char
  | [], s =>
    match d.afterKeyword s with
    | some rest => (leaf, rest)
    | none => (.stopped .malformed, s)
  | _ :: _, [] => (.stopped .truncated, [])
  | k :: ks, c :: s => if c = k then d.scanKeyword leaf ks s else (.stopped .malformed, s)

/-! ## Documents -/

mutual

/-- The value at the start of a text. The first argument bounds the number of steps; of any two steps in a row one takes
in a character, so a text never needs more than two steps for each of its characters. -/
def Dialect.scanValue (d : Dialect) : Nat → List Char → Document × List Char
  | 0, s => (.stopped .malformed, s)
  | steps + 1, s =>
    match skipBlanks s with
    | [] => (.stopped .truncated, [])
    | c :: rest =>
      if c = 'n' then d.scanKeyword .null ['u', 'l', 'l'] rest
      else if c = 't' then d.scanKeyword (.bool true) ['r', 'u', 'e'] rest
      else if c = 'f' then d.scanKeyword (.bool false) ['a', 'l', 's', 'e'] rest
      else if c = '"' then
        let b := scanBody rest
        (d.stringLeaf b, b.rest)
      else if c = '[' then
        match skipBlanks rest with
        | ']' :: rest => (.array [] none, rest)
        | rest =>
          let (items, stop, rest) := d.scanItems steps rest
          (.array items stop, rest)
      else if c = '\x7b' then
        match skipBlanks rest with
        | '\x7d' :: rest => (.object [] none, rest)
        | rest =>
          let (members, stop, rest) := d.scanMembers steps rest
          (.object members stop, rest)
      else if c = '-' ∨ c.isDigit then d.number (c :: rest)
      else (.stopped .malformed, rest)

/-- The items of an array from one item on, to the closing bracket. -/
def Dialect.scanItems (d : Dialect) : Nat → List Char → List Document × Option Flaw × List Char
  | 0, s => ([], some .malformed, s)
  | steps + 1, s =>
    let (item, rest) := d.scanValue steps s
    match item.stop with
    | some f => ([item], some f, rest)
    | none =>
      match skipBlanks rest with
      | ']' :: rest => ([item], none, rest)
      | ',' :: rest =>
        let (items, stop, rest) := d.scanItems steps rest
        (item :: items, stop, rest)
      | [] => ([item], some .truncated, [])
      | rest => ([item], some .malformed, rest)

/-- The members of an object from one name on, to the closing brace. -/
def Dialect.scanMembers (d : Dialect) :
    Nat → List Char → List (Name × Document) × Option Flaw × List Char
  | 0, s => ([], some .malformed, s)
  | steps + 1, s =>
    match skipBlanks s with
    | [] => ([], some .truncated, [])
    | '"' :: rest =>
      let b := scanBody rest
      let name : Name := (d.textOf b).mapError fun flaws => flaws.1
      match b.stop with
      | some f => ([(name, .stopped f)], some f, b.rest)
      | none =>
        match skipBlanks b.rest with
        | ':' :: rest =>
          let (v, rest) := d.scanValue steps rest
          match v.stop with
          | some f => ([(name, v)], some f, rest)
          | none =>
            match skipBlanks rest with
            | '\x7d' :: rest => ([(name, v)], none, rest)
            | ',' :: rest =>
              let (ms, stop, rest) := d.scanMembers steps rest
              ((name, v) :: ms, stop, rest)
            | [] => ([(name, v)], some .truncated, [])
            | rest => ([(name, v)], some .malformed, rest)
        | [] => ([(name, .stopped .truncated)], some .truncated, [])
        | rest => ([(name, .stopped .malformed)], some .malformed, rest)
    | rest => ([], some .malformed, rest)

end

/-- The tree of a text, and whether anything but blanks follows it. -/
def Document.scan (d : Dialect) (s : String) : Document × Bool :=
  let cs := s.toList
  let (doc, rest) := d.scanValue (2 * cs.length + 2) cs
  (doc, !(skipBlanks rest).isEmpty)

end BidAdapter.Json
