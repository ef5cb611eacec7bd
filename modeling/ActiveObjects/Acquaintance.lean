import ActiveObjects.Naming

/-!
# Acquaintances and peers

Acquaintances are names of runtimes that this runtime knows, in the order in which it got to know
them. Peers are runtimes that registered themselves here.
-/

namespace ActiveObjects

structure PeerRuntime where
  name : String
  handle : RuntimeHandle
  creatorId : String
  creationProtocol : String
  vmName : String
deriving DecidableEq

structure AcquaintanceDirectory where
  /-- Each name once, in the order of their coming. -/
  acquaintances : List String := []
  peers : Std.ExtTreeMap String PeerRuntime := ∅

namespace AcquaintanceDirectory

def knows (directory : AcquaintanceDirectory) (name : String) : Bool :=
  directory.acquaintances.contains name

def add (directory : AcquaintanceDirectory) (name : String) : AcquaintanceDirectory :=
  if directory.knows name then directory
  else { directory with acquaintances := directory.acquaintances ++ [name] }

def remove (directory : AcquaintanceDirectory) (name : String) : AcquaintanceDirectory :=
  { directory with acquaintances := directory.acquaintances.filter (· ≠ name) }

/-- Puts a peer in place of one of the same name. -/
def register (directory : AcquaintanceDirectory) (peer : PeerRuntime) : AcquaintanceDirectory :=
  { directory with peers := directory.peers.insert peer.name peer }

def unregister (directory : AcquaintanceDirectory) (name : String) : AcquaintanceDirectory :=
  { directory with peers := directory.peers.erase name }

def peer? (directory : AcquaintanceDirectory) (name : String) : Option PeerRuntime :=
  directory.peers[name]?

/-- All peers in the order of their names. -/
def runtimes (directory : AcquaintanceDirectory) : List PeerRuntime := directory.peers.values

end AcquaintanceDirectory

end ActiveObjects
