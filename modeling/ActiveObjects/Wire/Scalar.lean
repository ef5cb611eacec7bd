import ActiveObjects.BodyId
import ActiveObjects.Json.Record
import ActiveObjects.Timestamp
import ActiveObjects.Url.Parse
import ActiveObjects.Word

/-!
# Scalars in JSON

URLs, identifiers and instants are texts, checked when they are read. Each type has a pair `toJson`
and `read?`.
-/

namespace ActiveObjects

open Json

namespace Url

def toJson (url : Url) : Json := .string url.display

def read? (t : Tree) : Option Url := t.text?.bind fun text => (parse text).toOption

end Url

namespace BodyId

def toJson (id : BodyId) : Json := .string id.hyphenated

def read? (t : Tree) : Option BodyId := t.text?.bind parse?

end BodyId

namespace Timestamp

def toJson (t : Timestamp) : Json := .string t.render

def read? (t : Tree) : Option Timestamp := t.text?.bind parse?

end Timestamp

/-- A number of 64 bits. -/
def readWord? (t : Tree) : Option UInt64 := (t.nat? maxWord).map UInt64.ofNat

end ActiveObjects
