import BidAdapter.Params.RequestParams

/-!
# Problems

`Problem` : everything that is reported of a request or an answer, by its cause, with its `kind` and its `message`.
-/

namespace BidAdapter

set_option autoImplicit false

open Json (ReadError Value)

/-- Who has to mend a problem. -/
inductive ProblemKind where
  /-- The sender of the request. -/
  | badInput
  /-- The exchange. -/
  | badServerResponse
  | generic
deriving DecidableEq, Repr

def ProblemKind.name : ProblemKind → String
  | .badInput => "bad_input"
  | .badServerResponse => "bad_server_response"
  | .generic => "generic"

def Json.ReadError.message : ReadError → String
  | .shape e => e.message
  | .flaw .truncated => "unexpected end of the document"
  | .flaw .malformed => "malformed document"

/-- What is reported of a request or an answer. -/
inductive Problem where
  /-- The parameters of the request cannot be used. -/
  | params (e : ParamsError)
  /-- The ext of an impression cannot be read. -/
  | impExt (e : ReadError)
  /-- An impression has no medium that the exchange takes. -/
  | unsupportedMedia (imp : String)
  /-- A banner has half a size and no format. -/
  | bannerSize
  /-- An ad slot that is neither a tag nor a tag and a size. -/
  | adSlot (slot : String)
  /-- An ad slot whose size is not a width and a height. -/
  | adSlotSize (slot : String)
  | adSlotWidth (slot : String)
  | adSlotHeight (slot : String)
  /-- The body of the exchange is no bid response. -/
  | undecodable (e : ReadError)
  /-- The ext of a bid cannot be read. -/
  | bidExt (e : ReadError)
  /-- A bid whose medium is unknown. -/
  | unknownMedium (mtype : Option Int32) (imp : String)
  /-- The markup of a native bid is no document. -/
  | nativeMarkup (adm : String)
  /-- The exchange answered with a status that carries no bids. -/
  | unexpectedStatus (status : Nat)
  /-- The exchange could not be reached, or broke off. -/
  | exchangeFailed (detail : String)
  /-- The exchange did not answer in time. -/
  | exchangeSilent (milliseconds : Nat)
  /-- An entry point that is no longer served. -/
  | deprecated

namespace Problem

def kind : Problem → ProblemKind
  | .params _ | .impExt _ | .unsupportedMedia _ | .bannerSize => .badInput
  | .adSlot _ | .adSlotSize _ | .adSlotWidth _ | .adSlotHeight _ => .badInput
  | .undecodable _ | .bidExt _ | .unknownMedium _ _ | .nativeMarkup _ => .badServerResponse
  | .unexpectedStatus _ | .exchangeFailed _ | .exchangeSilent _ | .deprecated => .generic

/-- The text of a medium's code. -/
def mtypeText : Option Int32 → String
  | some n => toString n
  | none => "null"

def message : Problem → String
  | .params e => "Error converting bidder params in Pubmatic extension: " ++ e.message
  | .impExt e => e.message
  | .unsupportedMedia imp =>
    "Invalid MediaType. PubMatic only supports Banner, Video and Native. Ignoring ImpID=" ++ imp
  | .bannerSize => "Banner width and height is not provided, but required"
  | .adSlot slot => "Invalid adSlot '" ++ slot ++ "'"
  | .adSlotSize slot => "Invalid size provided in adSlot '" ++ slot ++ "'"
  | .adSlotWidth slot => "Invalid width provided in adSlot '" ++ slot ++ "'"
  | .adSlotHeight slot => "Invalid height provided in adSlot '" ++ slot ++ "'"
  | .undecodable e => "Failed to decode: " ++ e.message
  | .bidExt e => e.message
  | .unknownMedium mtype imp => "failed to parse bid mtype (" ++ mtypeText mtype ++ ") for impression id " ++ imp
  | .nativeMarkup adm => "Unable to parse native adm: " ++ adm
  | .unexpectedStatus status => "Unexpected status code: " ++ toString status
  | .exchangeFailed detail => "exchange call failed: " ++ detail
  | .exchangeSilent milliseconds => "exchange did not answer within " ++ toString milliseconds ++ "ms"
  | .deprecated => "Deprecated adapter method invoked"

def toJson (p : Problem) : Value := .object [("type", .string p.kind.name), ("message", .string p.message)]

end Problem

end BidAdapter
