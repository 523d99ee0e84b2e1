import AppDef.Template.Placeholder
import AppDef.Template.Render

namespace AppDef

/-- The one thing that ends a rendering: a number with too many decimal places. -/
inductive RenderError where
  | tooManyPlaces
  deriving DecidableEq, Repr

namespace Template

/-- Numbers are normalised, so whole numbers show no fraction. -/
def dataValue : Json → Json
  | .number n => .ofComputed n.toFloat
  | v => v

def data (env : Environment) : Json :=
  .object (env.entries.map fun (name, v) => (name, dataValue v))

end Template

/-- A template that is malformed, or that asks for what cannot be carried out, is treated by plain
substitution instead. -/
def interpolate (template : String) (env : Environment) : Except RenderError String :=
  let rendered := match Template.parse template.toList with
    | some elements => Template.render elements (Template.data env)
    | none => .error .refused
  match rendered with
  | .ok text => .ok text
  | .error .tooManyPlaces => .error .tooManyPlaces
  | .error .refused => .ok (Template.Placeholder.replace template env)

end AppDef
