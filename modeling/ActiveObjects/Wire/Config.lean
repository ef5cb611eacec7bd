import ActiveObjects.Config.Reading
import ActiveObjects.Json.Record

/-!
# Configurations in JSON

Every setting has to be written as a value of its own type.
-/

namespace ActiveObjects

open Json

instance : SettingValue Tree where
  text? := Tree.text?
  flag? := Tree.bool?
  natural? := Tree.nat?
  items? := fun
    | .array items => some items
    | _ => none
  record? := Tree.record?

namespace RuntimeSettings

def toJson (settings : RuntimeSettings) : Json :=
  .object [("name", .string settings.name), ("host", .string settings.host),
    ("port", Json.ofNat settings.port.toNat), ("transport_tag", .string settings.transportTag),
    ("parent", Json.ofOption Json.string settings.parent)]

end RuntimeSettings

namespace NamingSettings

def toJson (settings : NamingSettings) : Json :=
  .object [("strict_registration", .bool settings.strictRegistration)]

end NamingSettings

namespace EventSettings

def toJson (settings : EventSettings) : Json :=
  .object [("channel_capacity", Json.ofNat settings.channelCapacity.toNat)]

end EventSettings

namespace SecuritySettings

def toJson (settings : SecuritySettings) : Json :=
  .object [("certificate_path", Json.ofOption Json.string settings.certificatePath),
    ("policy_server", Json.ofOption Json.string settings.policyServer)]

end SecuritySettings

namespace NodeSettings

def toJson (settings : NodeSettings) : Json :=
  .object [("name", .string settings.name), ("job_id", .string settings.jobId),
    ("virtual_node", Json.ofOption Json.string settings.virtualNode),
    ("replace", .bool settings.replace)]

end NodeSettings

namespace RuntimeConfig

def toJson (config : RuntimeConfig) : Json :=
  .object [("runtime", config.runtime.toJson), ("naming", config.naming.toJson),
    ("events", config.events.toJson), ("security", config.security.toJson),
    ("nodes", Json.ofList NodeSettings.toJson config.nodes),
    ("virtual_nodes", Json.ofList Json.string config.virtualNodes)]

end RuntimeConfig

end ActiveObjects
