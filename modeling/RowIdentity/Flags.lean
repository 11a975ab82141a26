import RowIdentity.Assoc
import RowIdentity.Text.Blank

/-!
# Feature flags

* `RuntimeFlags` — flags that can be flipped; the public id flag is kept apart from the others
* `FixedFlags` — flags that are set once
* `parseFlag?` — a truth value as environment variables spell it
-/

namespace RowIdentity

/-- The flag that turns the Public-ID scheme on. -/
def publicIdFlag : String := "ENABLE_PUBLIC_ID_LOGIC"

/-- Flags that can be flipped while the program runs. -/
structure RuntimeFlags where
  publicId : Bool
  others : List (String × Bool)
deriving DecidableEq, Repr

namespace RuntimeFlags

def of (publicId : Bool) : RuntimeFlags := ⟨publicId, []⟩

def set (f : RuntimeFlags) (name : String) (on : Bool) : RuntimeFlags :=
  if name = publicIdFlag then { f with publicId := on }
  else { f with others := Assoc.put f.others name on }

/-- The value of a flag; unknown flags are off. -/
def isOn (f : RuntimeFlags) (name : String) : Bool :=
  if name = publicIdFlag then f.publicId else (Assoc.get? f.others name).getD false

end RuntimeFlags

/-- Flags that are set once. -/
structure FixedFlags where
  values : List (String × Bool)
deriving DecidableEq, Repr

namespace FixedFlags

def empty : FixedFlags := ⟨[]⟩

def set (f : FixedFlags) (name : String) (on : Bool) : FixedFlags := ⟨Assoc.put f.values name on⟩

def ofPublicId (on : Bool) : FixedFlags := empty.set publicIdFlag on

/-- The value of a flag; unknown flags are off. -/
def isOn (f : FixedFlags) (name : String) : Bool := (Assoc.get? f.values name).getD false

end FixedFlags

/-- Reads a truth value in any ASCII case, with white space around it. -/
def parseFlag? (s : String) : Option Bool :=
  let word := String.ofList ((Blank.trim s.toList).map Char.toLower)
  if word ∈ ["1", "true", "yes", "on"] then some true
  else if word ∈ ["0", "false", "no", "off", ""] then some false
  else none

end RowIdentity
