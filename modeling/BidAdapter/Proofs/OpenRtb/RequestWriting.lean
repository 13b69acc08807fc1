import BidAdapter.OpenRtb.Request
import BidAdapter.Proofs.Json.Members

/-!
# What a bid request is written as

For every record of a bid request, `typed` : its members under the names that it knows, each there when it has a value,
and `toJson_eq` : the record is written as these members and the others behind them.
-/

namespace BidAdapter.OpenRtb

set_option autoImplicit false

open Json (Members Value)

/-! ## Media -/

def Format.typed (f : Format) : List (String × Option Value) :=
  [("w", f.w.map .ofInt32), ("h", f.h.map .ofInt32)]

theorem Format.toJson_eq (f : Format) : f.toJson = .object (Members.typed f.typed ++ f.others) := by
  simp [toJson, Members.typed, typed]

def Banner.typed (b : Banner) : List (String × Option Value) :=
  [("w", b.w.map .ofInt32), ("h", b.h.map .ofInt32),
    ("format", b.format.map fun fs => .array (fs.map Format.toJson))]

theorem Banner.toJson_eq (b : Banner) : b.toJson = .object (Members.typed b.typed ++ b.others) := by
  simp [toJson, Members.typed, typed]

def Video.typed (v : Video) : List (String × Option Value) :=
  [("mimes", v.mimes.map .ofStrings), ("w", v.w.map .ofInt32), ("h", v.h.map .ofInt32)]

theorem Video.toJson_eq (v : Video) : v.toJson = .object (Members.typed v.typed ++ v.others) := by
  simp [toJson, Members.typed, typed]

def Native.typed (n : Native) : List (String × Option Value) :=
  [("request", n.request.map .string), ("ver", n.ver.map .string)]

theorem Native.toJson_eq (n : Native) : n.toJson = .object (Members.typed n.typed ++ n.others) := by
  simp [toJson, Members.typed, typed]

/-! ## The impression -/

def Imp.typed (i : Imp) : List (String × Option Value) :=
  [("id", some (.string i.id)), ("banner", i.banner.map Banner.toJson), ("video", i.video.map Video.toJson),
    ("audio", i.audio.map Audio.toJson), ("native", i.native.map Native.toJson), ("tagid", i.tagid.map .string),
    ("bidfloor", i.bidfloor.map fun d => .ofFloat d.toDouble), ("displaymanager", i.displaymanager.map .string),
    ("displaymanagerver", i.displaymanagerver.map .string), ("ext", i.ext.map .object)]

theorem Imp.toJson_eq (i : Imp) : i.toJson = .object (Members.typed i.typed ++ i.others) := by
  simp [toJson, Members.typed, typed, Members.optional]

/-! ## Where the ad is shown -/

def Publisher.typed (p : Publisher) : List (String × Option Value) := [("id", p.id.map .string)]

theorem Publisher.toJson_eq (p : Publisher) : p.toJson = .object (Members.typed p.typed ++ p.others) := by
  simp [toJson, Members.typed, typed]

def Site.typed (s : Site) : List (String × Option Value) :=
  [("id", s.id.map .string), ("domain", s.domain.map .string), ("publisher", s.publisher.map Publisher.toJson)]

theorem Site.toJson_eq (s : Site) : s.toJson = .object (Members.typed s.typed ++ s.others) := by
  simp [toJson, Members.typed, typed]

def App.typed (a : App) : List (String × Option Value) :=
  [("id", a.id.map .string), ("bundle", a.bundle.map .string), ("publisher", a.publisher.map Publisher.toJson),
    ("ext", a.ext.map .object)]

theorem App.toJson_eq (a : App) : a.toJson = .object (Members.typed a.typed ++ a.others) := by
  simp [toJson, Members.typed, typed]

/-! ## The request ext -/

def BidderCodes.typed (c : BidderCodes) : List (String × Option Value) :=
  [("enabled", c.enabled.map .bool), ("allowedbiddercodes", c.allowedbiddercodes.map .ofStrings)]

theorem BidderCodes.toJson_eq (c : BidderCodes) : c.toJson = .object (Members.typed c.typed) := by
  simp [toJson, Members.typed, typed]

def AlternateCodes.typed (c : AlternateCodes) : List (String × Option Value) :=
  [("enabled", c.enabled.map .bool),
    ("bidders", c.bidders.map fun t => .object (t.map fun e => (e.1, e.2.toJson)))]

theorem AlternateCodes.toJson_eq (c : AlternateCodes) : c.toJson = .object (Members.typed c.typed) := by
  simp [toJson, Members.typed, typed]

def Prebid.typed (p : Prebid) : List (String × Option Value) :=
  [("bidderparams", p.bidderparams.map .object),
    ("alternatebiddercodes", p.alternatebiddercodes.map AlternateCodes.toJson)]

theorem Prebid.toJson_eq (p : Prebid) : p.toJson = .object (Members.typed p.typed ++ p.others) := by
  simp [toJson, Members.typed, typed]

def RequestExt.typed (e : RequestExt) : List (String × Option Value) := [("prebid", e.prebid.map Prebid.toJson)]

theorem RequestExt.toJson_eq (e : RequestExt) : e.toJson = .object (Members.typed e.typed ++ e.others) := by
  simp [toJson, Members.typed, typed]

/-! ## The request -/

def BidRequest.typed (r : BidRequest) : List (String × Option Value) :=
  [("id", some (.string r.id)), ("imp", some (.array (r.imp.map Imp.toJson))), ("site", r.site.map Site.toJson),
    ("app", r.app.map App.toJson), ("ext", r.ext.map RequestExt.toJson)]

theorem BidRequest.toJson_eq (r : BidRequest) : r.toJson = .object (Members.typed r.typed ++ r.others) := by
  simp [toJson, Members.typed, typed, Members.optional]

end BidAdapter.OpenRtb
