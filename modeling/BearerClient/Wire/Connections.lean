import BearerClient.Config
import BearerClient.Text.Quoted
import BearerClient.Url
import BearerClient.Wire

/-!
# Connections

The settings of a transport that opens connections, and the requests that it refuses before it
opens one.  The transport has two sides, one for calls that block and one for those that do not;
the blocking side is set up by its first request and cannot send streams.
-/

namespace BearerClient.Wire

structure Connections where
  connectTimeout : Duration := .ofMillis 10000
  /-- how many idle connections to a host are kept -/
  idleConnections : UInt64 := 8
  /-- how long an idle connection is kept, if not for ever -/
  idleTimeout : Option Duration := some (.ofMillis 90000)
  /-- connections bypass the proxy of the system -/
  noProxy : Bool := false
  /-- the blocking side has been set up -/
  blockingReady : Bool := false

namespace Connections

/-- Takes over what a configuration says about connections. -/
def withConfig (connections : Connections) (config : Config) : Connections :=
  { connections with
    connectTimeout := config.connectTimeout
    idleConnections := config.idleConnections }

def text (connections : Connections) : String :=
  let settings := Text.showRecord "TransportSettings"
    [("connect_timeout", connections.connectTimeout.text),
     ("pool_max_idle_per_host", toString connections.idleConnections.toNat),
     ("pool_idle_timeout", Text.showOption (connections.idleTimeout.map (·.text))),
     ("no_proxy", toString connections.noProxy)] false
  Text.showRecord "ReqwestTransport"
    [("settings", settings), ("blocking_initialised", toString connections.blockingReady)] true

/-- Whether a URL names a host. -/
def hasHost (url : Url) : Bool :=
  match url.authority with
  | some authority => authority.host != .domain []
  | none => false

/-- A URL without the name and password of a user, which do not leave as part of it. -/
def withoutUser (url : Url) : Url :=
  if hasHost url then
    { url with authority := url.authority.map fun authority =>
        { authority with username := [], password := [] } }
  else url

def badRequest (message : String) : TransportFault := ⟨.request, message⟩

/-- Why a URL cannot be sent to; nothing if it can. -/
def refusal (text : String) : Option TransportFault :=
  match Url.parse? text with
  | none => some (badRequest "builder error")
  | some url =>
    if hasHost url && (url.scheme = "http" || url.scheme = "https") then none
    else some (badRequest ("builder error for url (" ++ (withoutUser url).text ++ ")"))

def streamRefused : TransportFault := ⟨.unsupported, "streamed bodies require the async transport"⟩

/-- Prepares a request on one of the two sides: why it cannot be sent, if it cannot. -/
def prepare (connections : Connections) (blocking : Bool) (url : String) (body : Body) :
    Option TransportFault × Connections :=
  if blocking && body.isStream then (some streamRefused, connections)
  else (refusal url, { connections with blockingReady := connections.blockingReady || blocking })

end Connections
end BearerClient.Wire
