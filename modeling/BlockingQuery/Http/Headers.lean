import BlockingQuery.Text.Blank

/-!
# Header fields

Fields in the order in which they are sent. Names are the same whatever the case of their ASCII letters;
`get?` reads all values of a name at once, `set` leaves one field of the name.
-/

namespace BlockingQuery

/-- Header fields, each a name and a value. -/
abbrev Headers := List (String × String)

namespace Headers

/-- Whether two names name the same field. -/
def sameName (a b : String) : Bool :=
  Text.lower a == Text.lower b

/-- Whether there is a field of the name. -/
def has (hs : Headers) (name : String) : Bool :=
  hs.any fun h => sameName h.1 name

/-- The values of a name, joined with commas. -/
def get? (hs : Headers) (name : String) : Option String :=
  match hs.filter fun h => sameName h.1 name with
  | [] => none
  | found => some (String.intercalate ", " (found.map (·.2)))

/-- The fields with one field of the name: the first one takes the value, the others go; without one, it
is put at the end. -/
def set (hs : Headers) (name value : String) : Headers :=
  match hs with
  | [] => [(name, value)]
  | h :: rest =>
    if sameName h.1 name then (name, value) :: rest.filter fun r => !sameName r.1 name
    else h :: set rest name value

/-- The fields with one more at the end, unless there is one of the name. -/
def default (hs : Headers) (name value : String) : Headers :=
  if hs.has name then hs else hs ++ [(name, value)]

end Headers

end BlockingQuery
