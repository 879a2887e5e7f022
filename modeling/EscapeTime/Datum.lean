set_option autoImplicit false

namespace EscapeTime

inductive Datum where
  | null
  | boolean (value : Bool)
  | integer (value : Int)
  | float (value : Float)
  | text (value : String)
  | date (value : String)
  | list (items : List Datum)
  | table (fields : List (String × Datum))

end EscapeTime
