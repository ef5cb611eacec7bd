import ActiveObjects.Config.Basic
import ActiveObjects.Record
import ActiveObjects.Word

/-!
# Reading configurations

How a configuration is made from values of any kind that can be looked into. Whatever is left out
has its default; the name of the process then is a generated one, which the reader is given.
-/

namespace ActiveObjects

/-- Values that settings are read from. What counts as a text, a flag or a number is up to them. -/
class SettingValue (V : Type) where
  text? : V → Option String
  flag? : V → Option Bool
  /-- An integer from zero up to a limit. -/
  natural? : (limit : Nat) → V → Option Nat
  items? : V → Option (List V)
  /-- A record with the given fields. -/
  record? : (fields : List String) → V → Option (Record V)

open SettingValue

variable {V : Type} [SettingValue V]

namespace RuntimeSettings

def read? (generated : String) (v : V) : Option RuntimeSettings := do
  let r ← record? ["name", "host", "port", "transport_tag", "parent"] v
  let unset : RuntimeSettings := { name := generated }
  return ⟨← r.defaulted "name" unset.name text?, ← r.defaulted "host" unset.host text?,
    ← r.defaulted "port" unset.port fun v => (natural? 65535 v).map UInt16.ofNat,
    ← r.defaulted "transport_tag" unset.transportTag text?, ← r.nullable "parent" text?⟩

end RuntimeSettings

namespace NamingSettings

def read? (v : V) : Option NamingSettings := do
  let r ← record? ["strict_registration"] v
  return ⟨← r.defaulted "strict_registration" ({} : NamingSettings).strictRegistration flag?⟩

end NamingSettings

namespace EventSettings

def read? (v : V) : Option EventSettings := do
  let r ← record? ["channel_capacity"] v
  return ⟨← r.defaulted "channel_capacity" ({} : EventSettings).channelCapacity fun v =>
    (natural? maxWord v).map UInt64.ofNat⟩

end EventSettings

namespace SecuritySettings

def read? (v : V) : Option SecuritySettings := do
  let r ← record? ["certificate_path", "policy_server"] v
  return ⟨← r.nullable "certificate_path" text?, ← r.nullable "policy_server" text?⟩

end SecuritySettings

namespace NodeSettings

def read? (v : V) : Option NodeSettings := do
  let r ← record? ["name", "job_id", "virtual_node", "replace"] v
  let unset : NodeSettings := { name := "" }
  return ⟨← r.required "name" text?, ← r.defaulted "job_id" unset.jobId text?,
    ← r.optional "virtual_node" text?, ← r.defaulted "replace" unset.replace flag?⟩

end NodeSettings

/-- A list, each item of which is read alike. -/
def readItems? {α : Type} (read : V → Option α) (v : V) : Option (List α) :=
  (items? v).bind (·.mapM read)

namespace RuntimeConfig

def read? (generated : String) (v : V) : Option RuntimeConfig := do
  let r ← record? ["runtime", "naming", "events", "security", "nodes", "virtual_nodes"] v
  let unset := named generated
  return ⟨← r.defaulted "runtime" unset.runtime (RuntimeSettings.read? generated),
    ← r.defaulted "naming" unset.naming NamingSettings.read?,
    ← r.defaulted "events" unset.events EventSettings.read?,
    ← r.defaulted "security" unset.security SecuritySettings.read?,
    ← r.defaulted "nodes" unset.nodes (readItems? NodeSettings.read?),
    ← r.defaulted "virtual_nodes" unset.virtualNodes (readItems? text?)⟩

end RuntimeConfig

end ActiveObjects
