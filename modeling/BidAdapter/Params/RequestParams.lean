import BidAdapter.OpenRtb.Request
import BidAdapter.Params.Wrapper
import BidAdapter.Text.Blank

/-!
# Parameters of a request

`RequestParams.ofPrebid` : what a bidder finds under its name in the ext of a request: a wrapper, blocked categories,
and the seats that may bid under other codes (`OpenRtb.Prebid.allowedCodes`).
-/

namespace BidAdapter

set_option autoImplicit false

open Json (Members ShapeError Value)
open OpenRtb (Prebid)

/-- Why the parameters of a request cannot be used. -/
inductive ParamsError where
  /-- A field of the wrapper. -/
  | wrapper (e : ShapeError)
  /-- A category that is an array or an object. -/
  | category (v : Value)

def ParamsError.message : ParamsError → String
  | .wrapper e => e.message
  | .category v => "Cannot deserialize acat entry from " ++ v.compact

/-- What a bidder finds under its name. -/
structure RequestParams where
  wrapper : Option Wrapper
  categories : List String
  /-- The seats that may bid, where bidding under other codes is on. -/
  allowedBidders : Option (List String)

/-- Nothing is set. -/
def RequestParams.absent : RequestParams := ⟨none, [], none⟩

/-! ## Wrapper and categories -/

/-- A field of a wrapper object; unset when it is missing. -/
def Wrapper.memberOf (ms : Members) (name : String) : Except ParamsError Int32 :=
  match ms.get? name with
  | some v => (Wrapper.fieldOf v).mapError .wrapper
  | none => .ok 0

/-- The wrapper of a request: absent when missing or null, unset when it is no object. -/
def Wrapper.ofMember : Option Value → Except ParamsError (Option Wrapper)
  | none | some .null => .ok none
  | some (.object ms) => do
    let profile ← memberOf ms "profile"
    let version ← memberOf ms "version"
    return some ⟨profile, version⟩
  | some _ => .ok (some .unset)

def categoryText : Value → Except ParamsError String
  | .string s => .ok (Text.trim s)
  | .null => .ok ""
  | .number n => .ok n.text
  | .bool true => .ok "true"
  | .bool false => .ok "false"
  | v => .error (.category v)

/-- The categories of a request; what is no array has none. -/
def categoriesOf : Option Value → Except ParamsError (List String)
  | some (.array items) => items.mapM categoryText
  | _ => .ok []

/-! ## Other codes -/

/-- The seats that may bid for a bidder: only where the block and the bidder's entry are both switched on. All seats may
where the entry lists none, or only the wildcard; else the bidder itself and the listed ones. -/
def OpenRtb.Prebid.allowedCodes (p : Prebid) (bidder : String) : Option (List String) := do
  let codes ← p.alternatebiddercodes
  guard (codes.enabled = some true)
  let bidders ← codes.bidders
  let entry ← bidders.get? bidder
  guard (entry.enabled = some true)
  match entry.allowedbiddercodes with
  | none | some ["*"] => return ["all"]
  | some allowed => return bidder :: allowed

/-- The parameters that a bidder finds in the ext. -/
def RequestParams.ofPrebid (prebid : Option Prebid) (bidder : String) : Except ParamsError RequestParams :=
  match prebid with
  | none => .ok .absent
  | some p => do
    let params := (p.bidderparams.bind fun ms => ms.get? bidder).getD .null
    let wrapper ← Wrapper.ofMember (params.member? "wrapper")
    let categories ← categoriesOf (params.member? "acat")
    return ⟨wrapper, categories, p.allowedCodes bidder⟩

end BidAdapter
