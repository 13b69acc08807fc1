import BidAdapter.Json.Record

/-!
# The ext of a bid

`BidExt` : what the adapter reads of the ext that an exchange puts on a bid: the length of its video, a priority among
deals, the seat that bids, and whether a banner plays a video.
-/

namespace BidAdapter

set_option autoImplicit false

open Json (Decoder Field Members ReadError Value)
open Json.Decoder (optional string int32 bool closedRecord)

/-- The video of a bid. -/
structure VideoInfo where
  duration : Option Int32
deriving DecidableEq, Repr

def VideoInfo.decoder : Decoder VideoInfo :=
  closedRecord "VideoCreativeInfo" [.of "duration" (optional int32) fun v duration => { v with duration }] ⟨none⟩

def VideoInfo.toJson (v : VideoInfo) : Value := .object <| Members.optional "duration" (v.duration.map .ofInt32)

/-- What is read of the ext of a bid. -/
structure BidExt where
  video : Option VideoInfo
  dealPriority : Option Int32
  seat : Option String
  /-- Whether the banner plays a video. -/
  bannerVideo : Option Bool
deriving DecidableEq, Repr

namespace BidExt

/-- An ext of which nothing is set. -/
def absent : BidExt := ⟨none, none, none, none⟩

def decoder : Decoder BidExt :=
  closedRecord "PubmaticBidExt"
    [.of "video" (optional VideoInfo.decoder) fun e video => { e with video },
      .of "prebiddealpriority" (optional int32) fun e dealPriority => { e with dealPriority },
      .of "marketplace" (optional string) fun e seat => { e with seat },
      .of "ibv" (optional bool) fun e bannerVideo => { e with bannerVideo }]
    absent

def toJson (e : BidExt) : Value :=
  .object <| Members.optional "video" (e.video.map VideoInfo.toJson) ++
    Members.optional "prebiddealpriority" (e.dealPriority.map .ofInt32) ++
    Members.optional "marketplace" (e.seat.map .string) ++ Members.optional "ibv" (e.bannerVideo.map .bool)

/-- The length of the video in seconds. -/
def duration (e : BidExt) : Option Int32 := e.video.bind fun v => v.duration

/-- Whether the banner is known to play a video. -/
def isBannerVideo (e : BidExt) : Bool := e.bannerVideo.getD false

end BidExt

end BidAdapter
