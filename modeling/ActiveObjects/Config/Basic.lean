import ActiveObjects.Text.Blank

/-!
# Settings of a runtime

What a runtime is started with, the values that settings have when they are left out, and the rules
that every configuration has to meet.
-/

namespace ActiveObjects

/-- Identity of the process. -/
structure RuntimeSettings where
  name : String
  host : String := "localhost"
  port : UInt16 := 1099
  transportTag : String := "pa"
  /-- The URL of the runtime that spawned this one. -/
  parent : Option String := none
deriving DecidableEq, Repr

structure NamingSettings where
  /-- Conflicts are errors, not warnings. -/
  strictRegistration : Bool := false
deriving DecidableEq, Repr

structure EventSettings where
  channelCapacity : UInt64 := 1024
deriving DecidableEq, Repr

structure SecuritySettings where
  certificatePath : Option String := none
  policyServer : Option String := none
deriving DecidableEq, Repr

/-- A node that is created when the runtime starts. -/
structure NodeSettings where
  name : String
  jobId : String := "-"
  virtualNode : Option String := none
  replace : Bool := true
deriving DecidableEq, Repr

structure RuntimeConfig where
  runtime : RuntimeSettings
  naming : NamingSettings := {}
  events : EventSettings := {}
  security : SecuritySettings := {}
  nodes : List NodeSettings := []
  virtualNodes : List String := []
deriving DecidableEq, Repr

namespace RuntimeConfig

/-- The configuration that sets nothing but the name. -/
def named (name : String) : RuntimeConfig := { runtime := { name } }

/-- What a configuration may not say. -/
inductive Fault where
  | emptyName
  | slashInName (name : String)
  | emptyHost
  | emptyTag
  | zeroPort
  | zeroCapacity
  | emptyNodeName
deriving DecidableEq, Repr

/-- The wording of a fault. -/
def Fault.message : Fault → String
  | emptyName => "runtime.name cannot be empty"
  | slashInName name => s!"runtime.name cannot contain '/': {name}"
  | emptyHost => "runtime.host cannot be empty"
  | emptyTag => "runtime.transport_tag cannot be empty"
  | zeroPort => "runtime.port must be non-zero"
  | zeroCapacity => "events.channel_capacity must be non-zero"
  | emptyNodeName => "nodes[].name cannot be empty"

/-- The first fault of a configuration. Texts of blanks alone count as empty. -/
def fault? (config : RuntimeConfig) : Option Fault :=
  if Text.allBlank config.runtime.name then some .emptyName
  else if config.runtime.name.toList.contains '/' then some (.slashInName config.runtime.name)
  else if Text.allBlank config.runtime.host then some .emptyHost
  else if Text.allBlank config.runtime.transportTag then some .emptyTag
  else if config.runtime.port = 0 then some .zeroPort
  else if config.events.channelCapacity = 0 then some .zeroCapacity
  else if config.nodes.any fun node => Text.allBlank node.name then some .emptyNodeName
  else none

end RuntimeConfig

end ActiveObjects
