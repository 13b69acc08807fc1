import BidAdapter.Endpoint.Domain.Direction
import BidAdapter.Endpoint.Domain.Label
import BidAdapter.Text.Split

/-!
# Names

`Domain.ascii?` : a name of any script in ASCII, if it is one: its characters are folded and composed, its labels are
put into ASCII one by one, and all of them are shown one way.
-/

namespace BidAdapter.Endpoint.Domain

set_option autoImplicit false

def spelling? (cs : List Char) : Option (List Char) := do
  let folded ← cs.mapM fold?
  let name := Text.compose folded.flatten
  guard (!name.any forbiddenInName)
  return name

def ascii? (cs : List Char) : Option (List Char) := do
  let name ← spelling? cs
  let labels ← (Text.splitOn '.' name).mapM Label.ofChars?
  guard (keepsDirection (labels.map (·.shown)))
  return ['.'].intercalate (labels.map (·.written))

end BidAdapter.Endpoint.Domain
