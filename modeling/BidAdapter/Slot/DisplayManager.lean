import BidAdapter.OpenRtb.Request
import BidAdapter.Slot.Keywords
import BidAdapter.Text.Blank

/-!
# Display managers

`DisplayManager.ofApp` : the source and version that an app declares in its ext, both from one place: from `prebid` as
strings, else from the ext itself as any scalars. `firstNonBlank` : the choice between an impression's own value and the
app's.
-/

namespace BidAdapter

set_option autoImplicit false

open Json (Members Value)
open OpenRtb (App)

/-- The library that renders the ads of an app. -/
structure DisplayManager where
  source : String
  version : String
deriving DecidableEq, Repr

namespace DisplayManager

/-- Both parts have to be there, and neither is blank. -/
def ofParts? (source version : Option String) : Option DisplayManager :=
  match source, version with
  | some source, some version =>
    if Text.blank source || Text.blank version then none else some ⟨source, version⟩
  | _, _ => none

/-- The text of a member that is no container. -/
def scalarText? (ext : Members) (name : String) : Option String :=
  match ext.get? name with
  | some v => if v.isContainer then none else some v.asText
  | none => none

/-- From the member `prebid`, where the parts have to be strings. -/
def ofPrebid? (ext : Members) : Option DisplayManager := do
  let prebid ← (ext.get? "prebid").bind Value.members?
  ofParts? ((prebid.get? "source").bind Value.string?) ((prebid.get? "version").bind Value.string?)

/-- The display manager of an app. -/
def ofApp (app : Option App) : Option DisplayManager := do
  let app ← app
  let ext ← app.ext
  (ofPrebid? ext).or (ofParts? (scalarText? ext "source") (scalarText? ext "version"))

end DisplayManager

/-- The first of two values that is there and not blank. -/
def firstNonBlank (a b : Option String) : Option String :=
  (a.filter fun s => !Text.blank s).or (b.filter fun s => !Text.blank s)

end BidAdapter
