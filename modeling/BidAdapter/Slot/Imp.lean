import BidAdapter.Slot.AdSlot
import BidAdapter.Slot.DisplayManager
import BidAdapter.Slot.Floor

/-!
# Outgoing impressions

`checkMedia` : an impression needs a medium that the exchange takes; `Banner.sized` : the banner with a whole size;
`outgoingImp` : the impression as it goes to the exchange.
-/

namespace BidAdapter

set_option autoImplicit false

open OpenRtb (Banner Imp)

/-- Refuse an impression without a medium that the exchange takes. -/
def checkMedia (i : Imp) : Except Problem Unit :=
  if i.hasSupportedMedia then .ok () else .error (.unsupportedMedia i.id)

/-- Whether a banner has anything to say about its size. -/
def OpenRtb.Banner.hasSize (b : Banner) : Bool := b.w.isSome || b.h.isSome || !b.formats.isEmpty

/-- The banner with a whole size: its own, or that of its first format. -/
def OpenRtb.Banner.sized (b : Banner) : Except Problem Banner :=
  if b.w.isSome && b.h.isSome then .ok b
  else match b.formats with
    | f :: _ => .ok { b with w := f.w, h := f.h }
    | [] => .error .bannerSize

/-- The banner that goes to the exchange where the ad slot has no size: none when it says nothing about its size. -/
def outgoingBanner : Option Banner → Except Problem (Option Banner)
  | some b => if b.hasSize then b.sized.map some else .ok none
  | none => .ok none

/-- The impression with the tag and the size of its ad slot; a size is put on the banner as it came in. -/
def withAdSlot (incoming outgoing : Imp) : Option AdSlot → Imp
  | none => outgoing
  | some slot =>
    let tagged := { outgoing with tagid := some slot.tag }
    match slot.size, incoming.banner with
    | some size, some b => { tagged with banner := some { b with w := size.w, h := size.h } }
    | _, _ => tagged

/-- The impression as it goes to the exchange: its banner sized, no audio, its floor resolved, its display manager
filled in, its ext the keyword map if that has members, and its tag from the ad slot. -/
def outgoingImp (i : Imp) (ext : ImpExt) (app : Option DisplayManager) : Except Problem Imp := do
  let keywords := ext.keywordMap
  let banner ← outgoingBanner i.banner
  let outgoing := { i with
    banner
    audio := none
    bidfloor := resolveFloor ext.slot.floor i.bidfloor
    displaymanager := firstNonBlank i.displaymanager (app.map DisplayManager.source)
    displaymanagerver := firstNonBlank i.displaymanagerver (app.map DisplayManager.version)
    ext := if keywords.isEmpty then none else some keywords }
  let slot ← AdSlot.parse ext.slot.adSlot i.banner.isSome
  return withAdSlot i outgoing slot

end BidAdapter
