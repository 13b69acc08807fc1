import BidAdapter.Json.Record
import BidAdapter.Outgoing.Request
import BidAdapter.Text.Blank

/-!
# Configuration

`Config` : the endpoint of the exchange and the name of the bidder, as they are written; `Config.check` refuses a blank
name and then an endpoint that is no URL; `Config.bidder` makes the bidder, which looks at the endpoint only.
`Config.load` : the configuration of a file, if there is one, with the settings of the command line put over it.
-/

namespace BidAdapter

set_option autoImplicit false

open Json (Decoder Field ReadError Value)
open Endpoint (Url UrlError)

/-- What is read of a file. -/
inductive FileText where
  | text (s : String)
  /-- There is no file of that name. -/
  | missing
  /-- There is one that cannot be read. -/
  | unreadable (reason : String)

/-- Why a configuration cannot be used. -/
inductive ConfigError where
  | unreadable (path reason : String)
  | unparsable (path : String) (e : ReadError)
  | invalidEndpoint (endpoint : String) (e : UrlError)
  | blankName

def ConfigError.message : ConfigError → String
  | .unreadable path reason => "unable to read config file " ++ path ++ ": " ++ reason
  | .unparsable path e => "unable to parse config file " ++ path ++ ": " ++ e.message
  | .invalidEndpoint endpoint e => "invalid endpoint url '" ++ endpoint ++ "': " ++ e.message
  | .blankName => "bidder name must not be blank"

/-- The settings of an adapter, as they are written. -/
structure Config where
  endpoint : String
  bidderName : String
deriving DecidableEq, Repr

namespace Config

/-- The name of a bidder that is given none. -/
def usualName : String := "pubmatic"

/-- The configuration where there is no file. -/
def usual : Config := ⟨"http://127.0.0.1:9001/translator?source=prebid-server", usualName⟩

def decoder : Decoder Config :=
  Decoder.closedRecord "AdapterConfig"
    [.needed "endpoint" Decoder.string fun c endpoint => { c with endpoint },
      .of "bidder_name" Decoder.string fun c bidderName => { c with bidderName }]
    ⟨"", usualName⟩

def toJson (c : Config) : Value := .object [("endpoint", .string c.endpoint), ("bidder_name", .string c.bidderName)]

/-- The URL of the endpoint; blanks around it do not count. -/
def endpointUrl (c : Config) : Except ConfigError Url :=
  (Url.parse (Text.trim c.endpoint)).mapError (.invalidEndpoint c.endpoint)

def bidder (c : Config) : Except ConfigError Bidder := c.endpointUrl.map fun url => ⟨url, c.bidderName⟩

/-- Refuse a configuration that cannot be used. -/
def check (c : Config) : Except ConfigError Unit :=
  if Text.blank c.bidderName then .error .blankName else c.endpointUrl.map fun _ => ()

/-- The configuration of a file; without the file it is the usual one. -/
def ofFile (path : String) : FileText → Except ConfigError Config
  | .text s => (Decoder.read decoder s).mapError (.unparsable path)
  | .missing => .ok usual
  | .unreadable reason => .error (.unreadable path reason)

/-- The configuration of a file under the settings of the command line, which come first. -/
def load (path : String) (file : FileText) (endpoint bidderName : Option String) : Except ConfigError Config := do
  let c ← ofFile path file
  let c : Config := ⟨endpoint.getD c.endpoint, bidderName.getD c.bidderName⟩
  c.check
  return c

end Config

end BidAdapter
