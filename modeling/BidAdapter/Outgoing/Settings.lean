import BidAdapter.Params.ImpExt
import BidAdapter.Params.RequestParams
import BidAdapter.Text.Blank

/-!
# Settings of a request

`Settings.resolve` : what the whole request is sent with, from the parameters of the request and of its impressions. The
wrapper of the request comes before those of the impressions, which are merged in order; the publisher is the first that
is not blank.
-/

namespace BidAdapter

set_option autoImplicit false

/-- What a whole request is sent with. -/
structure Settings where
  publisherId : Option String
  wrapper : Option Wrapper
  categories : List String
  allowedBidders : Option (List String)

namespace Settings

/-- The wrappers of the impressions merged in order, if there are any. -/
def mergedWrapper (exts : List ImpExt) : Option Wrapper :=
  match exts.filterMap fun e => e.slot.wrapper with
  | [] => none
  | w :: ws => some (ws.foldl Wrapper.merge w)

/-- The first publisher of the impressions that is not blank, as it is written. -/
def firstPublisher (exts : List ImpExt) : Option String :=
  (exts.filterMap fun e => e.slot.publisherId).find? fun id => !Text.blank id

/-- The settings of a request. -/
def resolve (params : RequestParams) (exts : List ImpExt) : Settings where
  publisherId := firstPublisher exts
  wrapper := params.wrapper.or (mergedWrapper exts)
  categories := params.categories
  allowedBidders := params.allowedBidders

end Settings

end BidAdapter
