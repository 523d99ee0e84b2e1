import AppDef.Evaluation
import AppDef.Validation
import AppDef.Pattern.Report

namespace AppDef

inductive LintCode where
  | invalidExpression
  | undeclaredVariable
  | invalidFieldName
  | invalidPattern
  | missingOptions
  | duplicateField
  | unmappedField
  deriving DecidableEq, Repr

def LintCode.name : LintCode → String
  | .invalidExpression => "invalid_expression"
  | .undeclaredVariable => "undeclared_variable"
  | .invalidFieldName => "invalid_field_name"
  | .invalidPattern => "invalid_pattern"
  | .missingOptions => "missing_options"
  | .duplicateField => "duplicate_field"
  | .unmappedField => "unmapped_field"

structure LintIssue where
  location : String
  code : LintCode
  message : String
  deriving DecidableEq, Repr

namespace Lint

def pattern (location : String) (f : Field) : List LintIssue :=
  match f.bounds.pattern with
  | none => []
  | some source =>
    match Pattern.compile source.toList with
    | .ok _ => []
    | .error e => [⟨location ++ ".validation.pattern", .invalidPattern, e.message source⟩]

/-- The issues of one field, which may have the name of an earlier one. -/
def field (location : String) (seen : List String) (f : Field) : List LintIssue :=
  List.flatten [
    if f.hasValidName then []
    else [⟨location, .invalidFieldName,
      "field name '" ++ f.name ++ "' must use lowercase letters, digits and underscores"⟩],
    if seen.contains f.name then
      [⟨location, .duplicateField, "field '" ++ f.name ++ "' appears more than once"⟩]
    else [],
    if f.kind.hasOptions && f.options.isEmpty then
      [⟨location, .missingOptions, f.kind.name ++ " field '" ++ f.name ++ "' has no options"⟩]
    else [],
    pattern location f]

/-- The issues of the fields of one section behind those with the names `seen`. -/
def fieldsFrom (base : String) (seen : List String) : List Field → List LintIssue
  | [] => []
  | f :: rest =>
    field s!"{base}.fields[{seen.length}]" seen f ++ fieldsFrom base (seen ++ [f.name]) rest

def expression (location source : String) (declared : List String) : List LintIssue :=
  match Expr.parse source with
  | .error e => [⟨location, .invalidExpression, e.message⟩]
  | .ok e =>
    (e.variableNames.filter fun name => !declared.contains name).map fun name =>
      ⟨location, .undeclaredVariable, "'" ++ name ++ "' is not the name of any field"⟩

/-- The issues of the formula or of the guard of a section. -/
def logic (base : String) (declared : List String) : Section → List LintIssue
  | .calculator s => expression (base ++ ".formula") s.formula declared
  | .result s =>
    match s.showIf with
    | some guard =>
      if Text.allBlank guard then [] else expression (base ++ ".showIf") guard declared
    | none => []
  | _ => []

def part (declared : List String) (index : Nat) (s : Section) : List LintIssue :=
  let base := s!"sections[{index}]"
  fieldsFrom base [] s.fields ++ logic base declared s

def mapping (declared : List String) (crm : Crm) : List LintIssue :=
  (crm.fieldMap.filter fun entry => !declared.contains entry.1).map fun entry =>
    ⟨"crm.fieldMap." ++ entry.1, .unmappedField,
      "fieldMap key '" ++ entry.1 ++ "' does not match any field"⟩

end Lint

namespace Document

/-- The names that formulas and guards may use. -/
def declaredNames (d : Document) : List String :=
  resultVariable :: d.fields.map (·.name)

/-- What an author should mend before a document is published. Nothing here is a reason to refuse a
document. -/
def lint (d : Document) : List LintIssue :=
  let declared := d.declaredNames
  (d.sections.zipIdx.flatMap fun (s, i) => Lint.part declared i s) ++
    d.crm.toList.flatMap (Lint.mapping declared)

end Document

end AppDef
