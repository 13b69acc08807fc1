import BidAdapter.Decimal.Double
import BidAdapter.Json.Record

/-!
# Impressions

`Imp` : an impression of a bid request with its media `Banner` (and its `Format`s), `Video`, `Audio` and `Native`. Each
type has its members of interest and keeps all others in `others`; each has a `decoder` and is written by `toJson`,
known members first, then the others in their order.
-/

namespace BidAdapter.OpenRtb

set_option autoImplicit false

open Json (Decoder Field Members Value)
open Json.Decoder (optional string int32 list members openRecord)

/-! ## Media -/

/-- A size that a banner allows. -/
structure Format where
  w : Option Int32
  h : Option Int32
  others : Members

def Format.absent : Format := ⟨none, none, []⟩

def Format.decoder : Decoder Format :=
  openRecord "Format"
    [.of "w" (optional int32) fun f w => { f with w },
      .of "h" (optional int32) fun f h => { f with h }]
    (fun f name v => { f with others := f.others.insert name v }) .absent

def Format.toJson (f : Format) : Value :=
  .object <| Members.optional "w" (f.w.map .ofInt32) ++ Members.optional "h" (f.h.map .ofInt32) ++ f.others

/-- A banner: a size of its own, and the formats that it allows. -/
structure Banner where
  w : Option Int32
  h : Option Int32
  format : Option (List Format)
  others : Members

def Banner.absent : Banner := ⟨none, none, none, []⟩

def Banner.decoder : Decoder Banner :=
  openRecord "Banner"
    [.of "w" (optional int32) fun b w => { b with w },
      .of "h" (optional int32) fun b h => { b with h },
      .of "format" (optional (list Format.decoder)) fun b format => { b with format }]
    (fun b name v => { b with others := b.others.insert name v }) .absent

def Banner.toJson (b : Banner) : Value :=
  .object <| Members.optional "w" (b.w.map .ofInt32) ++ Members.optional "h" (b.h.map .ofInt32) ++
    Members.optional "format" (b.format.map fun fs => .array (fs.map Format.toJson)) ++ b.others

/-- The formats of a banner; none when the member is absent. -/
def Banner.formats (b : Banner) : List Format := b.format.getD []

/-- A video. -/
structure Video where
  mimes : Option (List String)
  w : Option Int32
  h : Option Int32
  others : Members

def Video.absent : Video := ⟨none, none, none, []⟩

def Video.decoder : Decoder Video :=
  openRecord "Video"
    [.of "mimes" (optional (list string)) fun v mimes => { v with mimes },
      .of "w" (optional int32) fun v w => { v with w },
      .of "h" (optional int32) fun v h => { v with h }]
    (fun v name x => { v with others := v.others.insert name x }) .absent

def Video.toJson (v : Video) : Value :=
  .object <| Members.optional "mimes" (v.mimes.map .ofStrings) ++ Members.optional "w" (v.w.map .ofInt32) ++
    Members.optional "h" (v.h.map .ofInt32) ++ v.others

/-- An audio clip. -/
structure Audio where
  mimes : Option (List String)
  others : Members

/-- An audio clip without members. -/
def Audio.absent : Audio := ⟨none, []⟩

def Audio.decoder : Decoder Audio :=
  openRecord "Audio"
    [.of "mimes" (optional (list string)) fun a mimes => { a with mimes }]
    (fun a name v => { a with others := a.others.insert name v }) .absent

def Audio.toJson (a : Audio) : Value := .object <| Members.optional "mimes" (a.mimes.map .ofStrings) ++ a.others

/-- A native ad. -/
structure Native where
  request : Option String
  ver : Option String
  others : Members

/-- A native ad without members. -/
def Native.absent : Native := ⟨none, none, []⟩

def Native.decoder : Decoder Native :=
  openRecord "Native"
    [.of "request" (optional string) fun n request => { n with request },
      .of "ver" (optional string) fun n ver => { n with ver }]
    (fun n name v => { n with others := n.others.insert name v }) .absent

def Native.toJson (n : Native) : Value :=
  .object <| Members.optional "request" (n.request.map .string) ++ Members.optional "ver" (n.ver.map .string) ++
    n.others

/-! ## The impression -/

/-- An impression. Its floor is a decimal, and its ext stays as it is written. -/
structure Imp where
  id : String
  banner : Option Banner
  video : Option Video
  audio : Option Audio
  native : Option Native
  tagid : Option String
  bidfloor : Option Decimal
  displaymanager : Option String
  displaymanagerver : Option String
  ext : Option Members
  others : Members

/-- An impression without members. -/
def Imp.absent : Imp := ⟨"", none, none, none, none, none, none, none, none, none, []⟩

def Imp.decoder : Decoder Imp :=
  openRecord "Imp"
    [.of "id" string fun i id => { i with id },
      .of "banner" (optional Banner.decoder) fun i banner => { i with banner },
      .of "video" (optional Video.decoder) fun i video => { i with video },
      .of "audio" (optional Audio.decoder) fun i audio => { i with audio },
      .of "native" (optional Native.decoder) fun i native => { i with native },
      .of "tagid" (optional string) fun i tagid => { i with tagid },
      .of "bidfloor" (optional Decimal.decoder) fun i bidfloor => { i with bidfloor },
      .of "displaymanager" (optional string) fun i displaymanager => { i with displaymanager },
      .of "displaymanagerver" (optional string) fun i displaymanagerver => { i with displaymanagerver },
      .of "ext" (optional members) fun i ext => { i with ext }]
    (fun i name v => { i with others := i.others.insert name v }) .absent

def Imp.toJson (i : Imp) : Value :=
  .object <| ("id", .string i.id) :: Members.optional "banner" (i.banner.map Banner.toJson) ++
    Members.optional "video" (i.video.map Video.toJson) ++ Members.optional "audio" (i.audio.map Audio.toJson) ++
    Members.optional "native" (i.native.map Native.toJson) ++ Members.optional "tagid" (i.tagid.map .string) ++
    Members.optional "bidfloor" (i.bidfloor.map fun d => .ofFloat d.toDouble) ++
    Members.optional "displaymanager" (i.displaymanager.map .string) ++
    Members.optional "displaymanagerver" (i.displaymanagerver.map .string) ++
    Members.optional "ext" (i.ext.map .object) ++ i.others

/-- Whether the impression has a medium that the exchange takes: a banner, a video or a native ad. -/
def Imp.hasSupportedMedia (i : Imp) : Bool := i.banner.isSome || i.video.isSome || i.native.isSome

end BidAdapter.OpenRtb
