import AppDef.Dict

namespace AppDef

/-- Raw documents by slug and status. An insertion replaces what had the same slug and the same
status. -/
structure Store where
  /-- For each slug the documents by their status. -/
  documents : Dict (Dict Json)

namespace Store

def empty : Store := ⟨{}⟩

/-- The slug that a raw document gives, or the empty one. -/
def slugOf (raw : Json) : String :=
  (((raw.member? "meta").bind (Json.member? "slug")).bind Json.asText?).getD ""

def statuses (s : Store) (slug : String) : Dict Json :=
  (s.documents.get? slug).getD {}

def get? (s : Store) (slug status : String) : Option Json :=
  (s.statuses slug).get? status

def insert (s : Store) (status : String) (raw : Json) : Store :=
  let slug := slugOf raw
  ⟨s.documents.insert slug ((s.statuses slug).insert status raw)⟩

def activeStatus : String := "active"

/-- The active documents in the order of their slugs. -/
def active (s : Store) : List Json :=
  s.documents.entries.filterMap fun (_, documents) => documents.get? activeStatus

end Store

end AppDef
