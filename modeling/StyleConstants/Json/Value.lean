/-!
# JSON values

Integers and fractions are kept apart, and the fields of an object stand in the order in which they
were written, repeated ones included. `Json.sorted` gives the reading in which order and repetition
carry no meaning.
-/

namespace StyleConstants

/-- A JSON value. -/
inductive Json where
  | null
  | bool (value : Bool)
  | integer (value : Int)
  | float (value : Float)
  | string (value : String)
  | array (items : List Json)
  | object (fields : List (String × Json))

namespace Json

/-- Puts a field in its place among fields in ascending order of their names; it takes the place of
a field of the same name. -/
def insertField (name : String) (value : Json) : List (String × Json) → List (String × Json)
  | [] => [(name, value)]
  | (other, old) :: rest =>
    if name < other then (name, value) :: (other, old) :: rest
    else if name = other then (name, value) :: rest
    else (other, old) :: insertField name value rest

mutual

/-- The value with the fields of every object in ascending order of their names, the last of
several fields of one name kept. -/
def sorted : Json → Json
  | array items => array (sortedItems items)
  | object fields => object (sortedFields fields [])
  | value => value

/-- The values, each sorted. -/
def sortedItems : List Json → List Json
  | [] => []
  | item :: rest => item.sorted :: sortedItems rest

/-- The fields, each sorted, put among those that are already in place. -/
def sortedFields : List (String × Json) → List (String × Json) → List (String × Json)
  | [], placed => placed
  | (name, value) :: rest, placed => sortedFields rest (insertField name value.sorted placed)

end

end Json

end StyleConstants
