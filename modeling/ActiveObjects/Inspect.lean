import ActiveObjects.Acquaintance
import ActiveObjects.Runtime.Basic
import ActiveObjects.Text.Quoted

/-!
# Text for inspection

Values are shown with the names of their fields and with quoted texts.
-/

namespace ActiveObjects

open Text

/-- A type with its fields, each written already. -/
def inspectFields (type : String) (fields : List (String × String)) : String :=
  let shown := ", ".intercalate (fields.map fun (name, value) => s!"{name}: {value}")
  s!"{type} \x7b {shown} \x7d"

namespace Url

def inspect (url : Url) : String :=
  inspectFields "RuntimeUrl" [("transport_tag", quoted url.tag), ("host", quoted url.host),
    ("port", toString url.port), ("name", quoted url.name)]

end Url

namespace PeerRuntime

def inspect (peer : PeerRuntime) : String :=
  inspectFields "PeerRuntime" [("name", quoted peer.name), ("url", peer.handle.url.inspect),
    ("creator_id", quoted peer.creatorId), ("creation_protocol", quoted peer.creationProtocol),
    ("vm_name", quoted peer.vmName)]

end PeerRuntime

namespace Runtime

def inspect (runtime : Runtime) : String :=
  inspectFields "ActiveRuntime" [("url", runtime.url.inspect), ("state", runtime.state.name)]

end Runtime

end ActiveObjects
