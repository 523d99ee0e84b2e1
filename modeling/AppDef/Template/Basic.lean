import AppDef.Json.Basic

namespace AppDef.Template

/-- A step of a path. `this` is no step: it stays where it is. -/
inductive Segment where
  | root
  | up
  | local
  | named (name : String)
  deriving DecidableEq, Repr

structure Path where
  source : String
  segments : List Segment

inductive Param where
  | name (name : String)
  | path (path : Path)
  | literal (value : Json)
  | call (target : Param) (args : List Param) (options : List (String × Param))

/-- What stands in a tag: a name, or a helper with what it is given. -/
structure Call where
  target : Param
  args : List Param
  options : List (String × Param)

def Call.isNameOnly (call : Call) : Bool :=
  call.args.isEmpty && call.options.isEmpty

/-- A template is text with placeholders, and blocks that are shown conditionally or repeatedly. -/
inductive Element where
  | text (text : String)
  | comment
  | value (call : Call)
  | block (call : Call) (names : List String) (body inverse : List Element)
  /-- A body that later inclusions may name. -/
  | definition (call : Call) (body : List Element)
  /-- The body of that name; without one, what the inclusion brings along. -/
  | inclusion (call : Call) (ownBody : Bool) (body : List Element)
  /-- A definition without a body. What it is given is evaluated, and then it is refused. -/
  | directive (call : Call)

end AppDef.Template
