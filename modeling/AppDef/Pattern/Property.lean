import AppDef.Pattern.CharSet
import AppDef.Unicode.Age
import AppDef.Unicode.Attribute
import AppDef.Unicode.Category
import AppDef.Unicode.Script
import AppDef.Unicode.Segment

namespace AppDef.Pattern

open AppDef.Unicode

def looseLetters (name : List Char) : List Char :=
  (name.filter fun c => c != ' ' && c != '_' && c != '-' && c.toNat < 128).map Char.toLower

/-- A name as it is looked up. -/
def looseName (name : String) : String :=
  match name.toList with
  | a :: b :: rest =>
    if a.toLower = 'i' && b.toLower = 's' then
      let letters := looseLetters rest
      if letters = ['c'] then "isc" else String.ofList letters
    else String.ofList (looseLetters (a :: b :: rest))
  | name => String.ofList (looseLetters name)

/-- A name of a table, which keeps its leading `is`. -/
def tableName (name : String) : String :=
  String.ofList (looseLetters name.toList)

def findProperty? (table : List Property) (name : String) : Option Property :=
  table.find? fun p => p.names.any fun n => tableName n == name

def ofProperty (p : Property) : CharSet :=
  .ranges p.ranges

/-- The set that a table has under one of its names. -/
def tableSet (table : List Property) (name : String) : CharSet :=
  .ranges (((table.find? (·.names.contains name)).map (·.ranges)).getD [])

def category? (name : String) : Option CharSet :=
  match name with
  | "any" => some (.ranges [(0, lastCodePoint)])
  | "ascii" => some (.ranges [(0, 127)])
  | "assigned" => some (.complement (tableSet generalCategories "Cn"))
  | name => (findProperty? generalCategories name).map ofProperty

/-- Properties with values. -/
inductive Valued where
  | category
  | script
  | extensions
  | age
  | graphemeBreak
  | wordBreak
  | sentenceBreak

def valued? : String → Option Valued
  | "gc" | "generalcategory" => some .category
  | "sc" | "script" => some .script
  | "scx" | "scriptextensions" => some .extensions
  | "age" => some .age
  | "gcb" | "graphemeclusterbreak" => some .graphemeBreak
  | "wb" | "wordbreak" => some .wordBreak
  | "sb" | "sentencebreak" => some .sentenceBreak
  | _ => none

/-- All characters assigned up to a version. -/
def assignedBy? (name : String) : Option CharSet :=
  let upTo := ages.takeWhile fun p => !p.names.any fun n => tableName n == name
  (findProperty? ages name).map fun p => .union ((upTo ++ [p]).map ofProperty)

def Valued.set? : Valued → String → Option CharSet
  | .category, name => category? name
  | .script, name => (findProperty? scripts name).map ofProperty
  | .extensions, name => (findProperty? scriptExtensions name).map ofProperty
  | .age, name => assignedBy? name
  | .graphemeBreak, name => (findProperty? graphemeBreaks name).map ofProperty
  | .wordBreak, name => (findProperty? wordBreaks name).map ofProperty
  | .sentenceBreak, name => (findProperty? sentenceBreaks name).map ofProperty

/-- Properties that exist and of which no pattern can ask. -/
def otherProperties : List String :=
  ["bc", "bidiclass", "blk", "block", "bmg", "bidimirroringglyph", "bpb", "bidipairedbracket",
    "bpt", "bidipairedbrackettype", "ccc", "canonicalcombiningclass", "ce", "compositionexclusion",
    "compex", "fullcompositionexclusion", "cf", "casefolding", "dm", "decompositionmapping", "dt",
    "decompositiontype", "ea", "eastasianwidth", "equideo", "equivalentunifiedideograph",
    "expandsonnfc", "expandsonnfd", "expandsonnfkc", "expandsonnfkd", "xonfc", "xonfd", "xonfkc",
    "xonfkd", "fcnfkc", "fcnfkcclosure", "hst", "hangulsyllabletype", "inpc",
    "indicpositionalcategory", "insc", "indicsyllabiccategory", "isc", "isocomment", "jg",
    "joininggroup", "jsn", "jamoshortname", "jt", "joiningtype", "lb", "linebreak", "lc",
    "lowercasemapping", "na", "name", "na1", "unicode1name", "namealias", "nfcqc", "nfcquickcheck",
    "nfdqc", "nfdquickcheck", "nfkccf", "nfkccasefold", "nfkcqc", "nfkcquickcheck", "nfkdqc",
    "nfkdquickcheck", "nt", "numerictype", "nv", "numericvalue", "cwkcf",
    "changeswhennfkccasefolded", "scf", "sfc", "simplecasefolding", "slc",
    "simplelowercasemapping", "stc", "simpletitlecasemapping", "suc", "simpleuppercasemapping",
    "tc", "titlecasemapping", "uc", "uppercasemapping", "vo", "verticalorientation"]

def isPropertyName (name : String) : Bool :=
  (valued? name).isSome || (findProperty? attributes name).isSome || otherProperties.contains name

/-- Names that are read as categories although properties bear them too. -/
def categoryFirst : List String := ["cf", "sc", "lc"]

def named (name : String) : Except Fault CharSet :=
  let name := looseName name
  if isPropertyName name && !categoryFirst.contains name then
    match findProperty? attributes name with
    | some p => .ok (ofProperty p)
    | none => .error .propertyNotFound
  else
    match category? name, findProperty? scripts name with
    | some set, _ => .ok set
    | none, some p => .ok (ofProperty p)
    | none, none => .error .propertyNotFound

def PropertyName.set : PropertyName → Except Fault CharSet
  | .named name => Pattern.named name
  | .valued name value =>
    let name := looseName name
    match valued? name with
    | some v =>
      match v.set? (looseName value) with
      | some set => .ok set
      | none => .error .propertyValueNotFound
    | none =>
      .error (if isPropertyName name then .propertyValueNotFound else .propertyNotFound)

/-- Letters, marks, decimal digits, connecting punctuation and joining characters. -/
def wordSet : CharSet :=
  .union [tableSet attributes "Alphabetic", tableSet generalCategories "M",
    tableSet generalCategories "Nd", tableSet generalCategories "Pc",
    tableSet attributes "Join_Control"]

def asciiWordSet : CharSet :=
  .ranges [(48, 57), (65, 90), (95, 95), (97, 122)]

def LetterClass.set (unicode : Bool) : LetterClass → CharSet
  | .digit => if unicode then tableSet generalCategories "Nd" else .ranges [(48, 57)]
  | .space => if unicode then tableSet attributes "White_Space" else .ranges [(9, 13), (32, 32)]
  | .word => if unicode then wordSet else asciiWordSet

/-- A class with a name between colons. -/
def asciiSet : String → CharSet
  | "alnum" => .ranges [(48, 57), (65, 90), (97, 122)]
  | "alpha" => .ranges [(65, 90), (97, 122)]
  | "ascii" => .ranges [(0, 127)]
  | "blank" => .ranges [(9, 9), (32, 32)]
  | "cntrl" => .ranges [(0, 31), (127, 127)]
  | "digit" => .ranges [(48, 57)]
  | "graph" => .ranges [(33, 126)]
  | "lower" => .ranges [(97, 122)]
  | "print" => .ranges [(32, 126)]
  | "punct" => .ranges [(33, 47), (58, 64), (91, 96), (123, 126)]
  | "space" => .ranges [(9, 13), (32, 32)]
  | "upper" => .ranges [(65, 90)]
  | "word" => asciiWordSet
  | "xdigit" => .ranges [(48, 57), (65, 70), (97, 102)]
  | _ => .ranges []

end AppDef.Pattern
