import ActiveObjects.Acquaintance
import ActiveObjects.Address.Basic
import ActiveObjects.Address.Ipv4
import ActiveObjects.Address.Ipv6
import ActiveObjects.Body.Basic
import ActiveObjects.Body.Constructor
import ActiveObjects.Body.Hosting
import ActiveObjects.Body.Table
import ActiveObjects.BodyId
import ActiveObjects.Config.Basic
import ActiveObjects.Config.Files
import ActiveObjects.Config.Format
import ActiveObjects.Config.Ini
import ActiveObjects.Config.Json5
import ActiveObjects.Config.Layers
import ActiveObjects.Config.Load
import ActiveObjects.Config.Reading
import ActiveObjects.Config.Ron
import ActiveObjects.Config.Setting
import ActiveObjects.Config.Variables
import ActiveObjects.Decimal.Binary64
import ActiveObjects.Decimal.Reading
import ActiveObjects.Decimal.Shortest
import ActiveObjects.Error
import ActiveObjects.Event.Basic
import ActiveObjects.Event.Bus
import ActiveObjects.Inspect
import ActiveObjects.Json.Access
import ActiveObjects.Json.Basic
import ActiveObjects.Json.Number
import ActiveObjects.Json.Parser
import ActiveObjects.Json.Printer
import ActiveObjects.Json.Record
import ActiveObjects.Json.Token
import ActiveObjects.Log
import ActiveObjects.Naming
import ActiveObjects.Node.Basic
import ActiveObjects.Node.Lifecycle
import ActiveObjects.Proofs.Acquaintance
import ActiveObjects.Proofs.Address.Ipv4
import ActiveObjects.Proofs.Address.Ipv6
import ActiveObjects.Proofs.Body.Identifier
import ActiveObjects.Proofs.Body.Listing
import ActiveObjects.Proofs.Body.Table
import ActiveObjects.Proofs.Checkpoint.HandOver
import ActiveObjects.Proofs.Checkpoint.Order
import ActiveObjects.Proofs.Config.Agreement
import ActiveObjects.Proofs.Config.Layers
import ActiveObjects.Proofs.Config.Precedence
import ActiveObjects.Proofs.Config.Reading
import ActiveObjects.Proofs.Config.Rulings
import ActiveObjects.Proofs.Event.Announcements
import ActiveObjects.Proofs.Event.Replay
import ActiveObjects.Proofs.Event.View
import ActiveObjects.Proofs.Event.Whereabouts
import ActiveObjects.Proofs.Except
import ActiveObjects.Proofs.Fields
import ActiveObjects.Proofs.Fleet.Addresses
import ActiveObjects.Proofs.Fleet.Basic
import ActiveObjects.Proofs.Fleet.Calls
import ActiveObjects.Proofs.Fleet.Cascade
import ActiveObjects.Proofs.Fleet.Decline
import ActiveObjects.Proofs.Fleet.Invariant
import ActiveObjects.Proofs.Fleet.Progress
import ActiveObjects.Proofs.Fleet.Refusal
import ActiveObjects.Proofs.Fleet.Replay
import ActiveObjects.Proofs.Fleet.Runs
import ActiveObjects.Proofs.Fleet.Transition
import ActiveObjects.Proofs.Json.Numerals
import ActiveObjects.Proofs.Json.Records
import ActiveObjects.Proofs.Json.RoundTrip
import ActiveObjects.Proofs.Json.Text
import ActiveObjects.Proofs.Json.Tokens
import ActiveObjects.Proofs.Migration.Delivery
import ActiveObjects.Proofs.Migration.Holders
import ActiveObjects.Proofs.Migration.Marks
import ActiveObjects.Proofs.Migration.Stranding
import ActiveObjects.Proofs.Migration.Survival
import ActiveObjects.Proofs.Migration.Uniqueness
import ActiveObjects.Proofs.Migration.Whereabouts
import ActiveObjects.Proofs.Migration.Whole
import ActiveObjects.Proofs.Migration.Window
import ActiveObjects.Proofs.Naming.Calls
import ActiveObjects.Proofs.Naming.Entry
import ActiveObjects.Proofs.Naming.Memory
import ActiveObjects.Proofs.Naming.Reachability
import ActiveObjects.Proofs.Naming.Registration
import ActiveObjects.Proofs.Naming.Settings
import ActiveObjects.Proofs.Naming.Shutdown
import ActiveObjects.Proofs.Naming.Startup
import ActiveObjects.Proofs.Naming.Teardown
import ActiveObjects.Proofs.Node.Addressing
import ActiveObjects.Proofs.Node.Clearance
import ActiveObjects.Proofs.Node.Footprint
import ActiveObjects.Proofs.Node.Keys
import ActiveObjects.Proofs.Node.Presence
import ActiveObjects.Proofs.Node.Servers
import ActiveObjects.Proofs.Node.Sweep
import ActiveObjects.Proofs.Node.Tables
import ActiveObjects.Proofs.Node.Tags
import ActiveObjects.Proofs.Runtime.Bodies
import ActiveObjects.Proofs.Runtime.Cascade
import ActiveObjects.Proofs.Runtime.Creation
import ActiveObjects.Proofs.Runtime.Decline
import ActiveObjects.Proofs.Runtime.Eviction
import ActiveObjects.Proofs.Runtime.Footprint
import ActiveObjects.Proofs.Runtime.Operations
import ActiveObjects.Proofs.Runtime.Refusal
import ActiveObjects.Proofs.Runtime.Residence
import ActiveObjects.Proofs.Runtime.Roster
import ActiveObjects.Proofs.Table
import ActiveObjects.Proofs.Text.Digits
import ActiveObjects.Proofs.Text.Padded
import ActiveObjects.Proofs.Text.Scan
import ActiveObjects.Proofs.Text.Split
import ActiveObjects.Proofs.Text.Utf8
import ActiveObjects.Proofs.Timestamp
import ActiveObjects.Proofs.Toml.Keys
import ActiveObjects.Proofs.Url.Canonical
import ActiveObjects.Proofs.Url.Display
import ActiveObjects.Proofs.Url.Domain
import ActiveObjects.Proofs.Url.Host
import ActiveObjects.Proofs.Url.Parts
import ActiveObjects.Proofs.Url.Reading
import ActiveObjects.Proofs.VirtualNode.JoinOrder
import ActiveObjects.Proofs.VirtualNode.Members
import ActiveObjects.Proofs.VirtualNode.Membership
import ActiveObjects.Proofs.VirtualNode.Names
import ActiveObjects.Proofs.VirtualNode.Spelling
import ActiveObjects.Proofs.VirtualNode.Sweep
import ActiveObjects.Proofs.VirtualNode.Untracked
import ActiveObjects.Proofs.Wire.Restoring
import ActiveObjects.Proofs.Wire.Transport
import ActiveObjects.Proofs.World
import ActiveObjects.Record
import ActiveObjects.Resolver
import ActiveObjects.Runtime.Basic
import ActiveObjects.Runtime.Operations
import ActiveObjects.Runtime.Registry
import ActiveObjects.Runtime.Shutdown
import ActiveObjects.Runtime.Site
import ActiveObjects.Runtime.Startup
import ActiveObjects.Security.Basic
import ActiveObjects.Sweep
import ActiveObjects.Text.Alphanumeric
import ActiveObjects.Text.Blank
import ActiveObjects.Text.Composition
import ActiveObjects.Text.Hex
import ActiveObjects.Text.Mark
import ActiveObjects.Text.Printable
import ActiveObjects.Text.Punycode
import ActiveObjects.Text.Quoted
import ActiveObjects.Text.Ranges
import ActiveObjects.Text.Scan
import ActiveObjects.Text.Split
import ActiveObjects.Text.Table
import ActiveObjects.Text.Utf8
import ActiveObjects.Timestamp
import ActiveObjects.Toml.Basic
import ActiveObjects.Toml.Document
import ActiveObjects.Toml.Lexical
import ActiveObjects.Toml.Reading
import ActiveObjects.Toml.Scalar
import ActiveObjects.Url.Basic
import ActiveObjects.Url.Domain
import ActiveObjects.Url.Domain.Direction
import ActiveObjects.Url.Domain.Joiner
import ActiveObjects.Url.Domain.Mapping
import ActiveObjects.Url.Name
import ActiveObjects.Url.Parse
import ActiveObjects.Url.Percent
import ActiveObjects.VirtualNode.Basic
import ActiveObjects.VirtualNode.Registration
import ActiveObjects.Wire.Body
import ActiveObjects.Wire.Config
import ActiveObjects.Wire.Event
import ActiveObjects.Wire.Node
import ActiveObjects.Wire.Report
import ActiveObjects.Wire.Scalar
import ActiveObjects.Wire.Security
import ActiveObjects.Word
import ActiveObjects.World
import ActiveObjects.Yaml.Basic
import ActiveObjects.Yaml.Document
import ActiveObjects.Yaml.Lexer
import ActiveObjects.Yaml.Scalar
import ActiveObjects.Yaml.Scanner
import ActiveObjects.Yaml.Token
