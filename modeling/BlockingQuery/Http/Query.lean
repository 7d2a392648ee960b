import BlockingQuery.Http.Percent
import BlockingQuery.OrderedMap

/-!
# Query parameters

`Query.encode` writes parameters as form data, in their order; `Query.fields` reads the fields of a
query, and `Query.first?` is the first value of a name.
-/

namespace BlockingQuery

/-- Parameters by name, in the order in which they are sent. -/
abbrev Params := OrderedMap String String

namespace Query

/-- Fields as form data. -/
def encode (fields : List (String × String)) : List Char :=
  ['&'].intercalate <| fields.map fun (name, value) =>
    Percent.encodeForm name.toList ++ '=' :: Percent.encodeForm value.toList

/-- A field: the name ends at the first equals sign, and a field without one has the empty value. -/
def field (cs : List Char) : String × String :=
  (Percent.decodeForm (cs.takeWhile (· != '=')), Percent.decodeForm ((cs.dropWhile (· != '=')).drop 1))

/-- The fields of a query, the empty ones left out. -/
def fields (query : List Char) : List (String × String) :=
  ((query.splitOn '&').filter fun cs => !cs.isEmpty).map field

/-- The first value of a name. -/
def first? (name : String) (query : Option (List Char)) : Option String :=
  (fields (query.getD [])).lookup name

end Query

end BlockingQuery
