import BidAdapter.Outgoing.Settings

/-!
# Outgoing request ext

`Settings.ext` : the ext that goes to the exchange. The wrapper and the categories stand in it twice, as members of
their own and among the parameters for bidders; the seats that may bid stand under `marketplace`; all else is kept,
except what the bidder parameters replace.
-/

namespace BidAdapter

set_option autoImplicit false

open Json (Members Value)
open OpenRtb (AlternateCodes Prebid RequestExt)

/-- Members of the ext that are written anew. -/
def rebuiltMembers : List String := ["prebid", "wrapper", "acat"]

/-- Put a value under a name, if there is one. -/
def Json.Members.putSome (ms : Members) (name : String) : Option Value → Members
  | some v => ms.insert name v
  | none => ms

def OpenRtb.AlternateCodes.hasBidders (c : AlternateCodes) : Bool := !(c.bidders.getD []).isEmpty

namespace Settings

/-- The categories without blanks around them; blank ones are left out. -/
def sentCategories (s : Settings) : List String := (s.categories.map Text.trim).filter (· ≠ "")

def wrapperValue (s : Settings) : Option Value := s.wrapper.map Wrapper.toJson

/-- The categories as a value, if there are any. -/
def categoriesValue (s : Settings) : Option Value :=
  if s.sentCategories.isEmpty then none else some (.ofStrings s.sentCategories)

/-- The seats that may bid as a value. -/
def marketplaceValue (s : Settings) : Option Value :=
  s.allowedBidders.map fun bs => .object [("allowedbidders", .ofStrings bs)]

def bidderParams (s : Settings) : Members :=
  Members.optional "wrapper" s.wrapperValue ++ Members.optional "acat" s.categoriesValue

/-- The part for bidders: the parameters and the alternate codes alone, where there are any, else what was there. Codes
that name no bidder are left out. -/
def prebid (s : Settings) (incoming : Option Prebid) : Option Prebid :=
  let codes := incoming.bind fun p => p.alternatebiddercodes
  if s.bidderParams.isEmpty && codes.isNone then incoming
  else some {
    bidderparams := if s.bidderParams.isEmpty then none else some s.bidderParams
    alternatebiddercodes := codes.filter AlternateCodes.hasBidders
    others := [] }

/-- The members of the ext beside the part for bidders. -/
def extMembers (s : Settings) (incoming : Option RequestExt) : Members :=
  let kept : Members := ((incoming.map fun e => e.others).getD []).filter fun m => !rebuiltMembers.contains m.1
  ((kept.putSome "wrapper" s.wrapperValue).putSome "acat" s.categoriesValue).putSome "marketplace" s.marketplaceValue

/-- The ext of the outgoing request; one without members is not made where there was none. -/
def ext (s : Settings) (incoming : Option RequestExt) : Option RequestExt :=
  let rebuilt : RequestExt := ⟨s.prebid (incoming.bind fun e => e.prebid), s.extMembers incoming⟩
  if incoming.isNone && rebuilt.isEmpty then none else some rebuilt

end Settings

end BidAdapter
