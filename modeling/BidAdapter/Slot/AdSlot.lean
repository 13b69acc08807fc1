import BidAdapter.Problem
import BidAdapter.Text.Blank
import BidAdapter.Text.Split
import BidAdapter.Text.Integer

/-!
# Ad slots

`AdSlot.parse` : an ad slot is blank, or a tag, or `tag@widthxheight` with anything behind a colon. The size counts only
for a banner; without one it is not even looked at, so the tag never depends on the medium.
-/

namespace BidAdapter

set_option autoImplicit false

/-- The size in an ad slot; zero is written for what is not set. -/
structure SlotSize where
  w : Option Int32
  h : Option Int32
deriving DecidableEq, Repr

/-- A tag and the size in front of which it stands. -/
structure AdSlot where
  tag : String
  size : Option SlotSize
deriving DecidableEq, Repr

namespace AdSlot

/-- A side that is set. -/
def nonZero (n : Int32) : Option Int32 := if n = 0 then none else some n

/-- The size of an ad slot: two literals around the letter `x` of either case. It is enough to lower the ASCII letters: no
other letter has an `x`, a colon, a sign, a digit or a blank in its lower case. The whole slot is given for the messages,
trimmed and as it was written. -/
def parseSize (size : List Char) (trimmed raw : String) : Except Problem SlotSize :=
  match Text.split 'x' (size.map Char.toLower) with
  | [width, height] =>
    match Text.int32? (Text.trimChars width) with
    | none => .error (.adSlotWidth raw)
    | some w =>
      match Text.int32? (Text.trimChars (height.takeWhile (· ≠ ':'))) with
      | none => .error (.adSlotHeight raw)
      | some h => .ok ⟨nonZero w, nonZero h⟩
  | _ => .error (.adSlotSize trimmed)

/-- Read an ad slot. A blank one is none. -/
def parse (slot : Option String) (hasBanner : Bool) : Except Problem (Option AdSlot) :=
  let raw := slot.getD ""
  let cs := Text.trimChars raw.toList
  let trimmed := String.ofList cs
  if cs.isEmpty then .ok none
  else if !cs.contains '@' then .ok (some ⟨trimmed, none⟩)
  else match Text.split '@' cs with
    | [tag, size] =>
      let tag := Text.trimChars tag
      let size := Text.trimChars size
      if tag.isEmpty || size.isEmpty then .error (.adSlot trimmed)
      else if hasBanner then do
        let size ← parseSize size trimmed raw
        return some ⟨String.ofList tag, some size⟩
      else .ok (some ⟨String.ofList tag, none⟩)
    | _ => .error (.adSlot trimmed)

end AdSlot

end BidAdapter
