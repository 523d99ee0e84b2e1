import AppDef.Dict

namespace AppDef

/-- The named values that expressions and templates see. -/
abbrev Environment := Dict Json

/-- Submitted values by the name of their field. -/
abbrev Values := Dict Json

namespace Environment

/-- The members of an object; nothing else has any. -/
def ofJson (value : Json) : Environment :=
  Dict.ofList (value.asObject?.getD [])

def toJson (env : Environment) : Json :=
  .object env.entries

/-- A computed number, whole numbers kept whole. -/
def bindNumber (env : Environment) (name : String) (x : Float) : Environment :=
  env.insert name (.ofComputed x)

end Environment

end AppDef
