/-!
# Media

`Medium` : what an offer shows; `Medium.ofCode` : the medium of the code that an exchange gives.
-/

namespace BidAdapter

set_option autoImplicit false

/-- What an offer shows. -/
inductive Medium where
  | banner
  | video
  | audio
  | native
deriving DecidableEq, Repr

namespace Medium

def ofCode : Option Int32 → Option Medium
  | some 1 => some .banner
  | some 2 => some .video
  | some 3 => some .audio
  | some 4 => some .native
  | _ => none

def name : Medium → String
  | .banner => "banner"
  | .video => "video"
  | .audio => "audio"
  | .native => "native"

end Medium

end BidAdapter
