import BidAdapter.OpenRtb.Imp

/-!
# Bid requests

`BidRequest` : a request with its impressions, the `Site` or `App` that shows them (each with a `Publisher`), and its
`RequestExt`. Under `prebid` the ext has parameters per bidder and the `AlternateCodes`, which say under which other
codes a bidder may bid.
-/

namespace BidAdapter.OpenRtb

set_option autoImplicit false

open Json (Decoder Field Members Table Value)
open Json.Decoder (optional string bool list members table openRecord closedRecord)

/-! ## Where the ad is shown -/

/-- The publisher of a site or an app. -/
structure Publisher where
  id : Option String
  others : Members

def Publisher.absent : Publisher := ⟨none, []⟩

def Publisher.decoder : Decoder Publisher :=
  openRecord "Publisher"
    [.of "id" (optional string) fun p id => { p with id }]
    (fun p name v => { p with others := p.others.insert name v }) .absent

def Publisher.toJson (p : Publisher) : Value := .object <| Members.optional "id" (p.id.map .string) ++ p.others

/-- A web site. -/
structure Site where
  id : Option String
  domain : Option String
  publisher : Option Publisher
  others : Members

def Site.absent : Site := ⟨none, none, none, []⟩

def Site.decoder : Decoder Site :=
  openRecord "Site"
    [.of "id" (optional string) fun s id => { s with id },
      .of "domain" (optional string) fun s domain => { s with domain },
      .of "publisher" (optional Publisher.decoder) fun s publisher => { s with publisher }]
    (fun s name v => { s with others := s.others.insert name v }) .absent

def Site.toJson (s : Site) : Value :=
  .object <| Members.optional "id" (s.id.map .string) ++ Members.optional "domain" (s.domain.map .string) ++
    Members.optional "publisher" (s.publisher.map Publisher.toJson) ++ s.others

/-- An application; its ext stays as it is written. -/
structure App where
  id : Option String
  bundle : Option String
  publisher : Option Publisher
  ext : Option Members
  others : Members

def App.absent : App := ⟨none, none, none, none, []⟩

def App.decoder : Decoder App :=
  openRecord "App"
    [.of "id" (optional string) fun a id => { a with id },
      .of "bundle" (optional string) fun a bundle => { a with bundle },
      .of "publisher" (optional Publisher.decoder) fun a publisher => { a with publisher },
      .of "ext" (optional members) fun a ext => { a with ext }]
    (fun a name v => { a with others := a.others.insert name v }) .absent

def App.toJson (a : App) : Value :=
  .object <| Members.optional "id" (a.id.map .string) ++ Members.optional "bundle" (a.bundle.map .string) ++
    Members.optional "publisher" (a.publisher.map Publisher.toJson) ++ Members.optional "ext" (a.ext.map .object) ++
    a.others

/-! ## The request ext -/

/-- The other codes under which one bidder may bid. -/
structure BidderCodes where
  enabled : Option Bool
  allowedbiddercodes : Option (List String)

/-- An entry without members. -/
def BidderCodes.absent : BidderCodes := ⟨none, none⟩

def BidderCodes.decoder : Decoder BidderCodes :=
  closedRecord "ExtRequestPrebidAlternateBidderCodesBidder"
    [.of "enabled" (optional bool) fun c enabled => { c with enabled },
      .of "allowedbiddercodes" (optional (list string)) fun c codes => { c with allowedbiddercodes := codes }]
    .absent

def BidderCodes.toJson (c : BidderCodes) : Value :=
  .object <| Members.optional "enabled" (c.enabled.map .bool) ++
    Members.optional "allowedbiddercodes" (c.allowedbiddercodes.map .ofStrings)

/-- Bidding under other codes: a switch for all, and an entry per bidder. -/
structure AlternateCodes where
  enabled : Option Bool
  bidders : Option (Table BidderCodes)

def AlternateCodes.absent : AlternateCodes := ⟨none, none⟩

def AlternateCodes.decoder : Decoder AlternateCodes :=
  closedRecord "ExtRequestPrebidAlternateBidderCodes"
    [.of "enabled" (optional bool) fun c enabled => { c with enabled },
      .of "bidders" (optional (table BidderCodes.decoder)) fun c bidders => { c with bidders }]
    .absent

def AlternateCodes.toJson (c : AlternateCodes) : Value :=
  .object <| Members.optional "enabled" (c.enabled.map .bool) ++
    Members.optional "bidders" (c.bidders.map fun t => .object (t.map fun e => (e.1, e.2.toJson)))

/-- The part of the ext that is meant for bidders. -/
structure Prebid where
  bidderparams : Option Members
  alternatebiddercodes : Option AlternateCodes
  others : Members

/-- The part for bidders without members. -/
def Prebid.absent : Prebid := ⟨none, none, []⟩

def Prebid.decoder : Decoder Prebid :=
  openRecord "ExtRequestPrebid"
    [.of "bidderparams" (optional members) fun p bidderparams => { p with bidderparams },
      { Field.of "alternatebiddercodes" (optional AlternateCodes.decoder)
          fun p codes => { p with alternatebiddercodes := codes } with
        otherName := some "alternateBidderCodes" }]
    (fun p name v => { p with others := p.others.insert name v }) .absent

def Prebid.toJson (p : Prebid) : Value :=
  .object <| Members.optional "bidderparams" (p.bidderparams.map .object) ++
    Members.optional "alternatebiddercodes" (p.alternatebiddercodes.map AlternateCodes.toJson) ++ p.others

/-- The ext of a request. -/
structure RequestExt where
  prebid : Option Prebid
  others : Members

def RequestExt.absent : RequestExt := ⟨none, []⟩

def RequestExt.decoder : Decoder RequestExt :=
  openRecord "ExtRequest"
    [.of "prebid" (optional Prebid.decoder) fun e prebid => { e with prebid }]
    (fun e name v => { e with others := e.others.insert name v }) .absent

def RequestExt.toJson (e : RequestExt) : Value :=
  .object <| Members.optional "prebid" (e.prebid.map Prebid.toJson) ++ e.others

/-- Whether the ext has no member. -/
def RequestExt.isEmpty (e : RequestExt) : Bool := e.prebid.isNone && e.others.isEmpty

/-! ## The request -/

/-- A bid request. -/
structure BidRequest where
  id : String
  imp : List Imp
  site : Option Site
  app : Option App
  ext : Option RequestExt
  others : Members

def BidRequest.absent : BidRequest := ⟨"", [], none, none, none, []⟩

def BidRequest.decoder : Decoder BidRequest :=
  openRecord "BidRequest"
    [.of "id" string fun r id => { r with id },
      .of "imp" (list Imp.decoder) fun r imp => { r with imp },
      .of "site" (optional Site.decoder) fun r site => { r with site },
      .of "app" (optional App.decoder) fun r app => { r with app },
      .of "ext" (optional RequestExt.decoder) fun r ext => { r with ext }]
    (fun r name v => { r with others := r.others.insert name v }) .absent

def BidRequest.toJson (r : BidRequest) : Value :=
  .object <| ("id", .string r.id) :: ("imp", .array (r.imp.map Imp.toJson)) ::
    Members.optional "site" (r.site.map Site.toJson) ++ Members.optional "app" (r.app.map App.toJson) ++
    Members.optional "ext" (r.ext.map RequestExt.toJson) ++ r.others

end BidAdapter.OpenRtb
