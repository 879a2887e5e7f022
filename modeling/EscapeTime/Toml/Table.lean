import EscapeTime.Datum

set_option autoImplicit false

namespace EscapeTime.Toml

inductive Origin where
  | header
  | implied
  | dotted
deriving DecidableEq

inductive Node where
  | value (datum : Datum)
  | table (origin : Origin) (fields : List (String × Node))
  -- Tables under one double-bracket header, the last one first.
  | tables (items : List (List (String × Node)))

abbrev Fields := List (String × Node)

namespace Fields

def put (key : String) (node : Node) : Fields → Fields
  | [] => [(key, node)]
  | field :: tail => if field.1 = key then (key, node) :: tail else field :: put key node tail

-- Follows a path of keys from a table to the one that `change` is to change. Tables that are missing on the
-- way are made, and a dotted key claims every table that it goes through.
def along (dotted : Bool) (change : Origin → Fields → Option Fields) :
    List String → Origin → Fields → Option Fields
  | [], origin, fields => change origin fields
  | key :: path, _, fields =>
      match fields.lookup key with
      | none =>
          let origin := if dotted then Origin.dotted else .implied
          (along dotted change path origin []).map fun inner =>
            fields.put key (.table origin inner)
      | some (.table origin inner) =>
          if dotted ∧ origin = .header then none
          else
            let origin := if dotted then Origin.dotted else origin
            (along dotted change path origin inner).map fun inner =>
              fields.put key (.table origin inner)
      | some (.tables (last :: earlier)) =>
          (along dotted change path .header last).map fun last =>
            fields.put key (.tables (last :: earlier))
      | some _ => none

def under (path : List String) (change : Fields → Option Fields) (fields : Fields) :
    Option Fields :=
  along false (fun _ inner => change inner) path .header fields

def openTable (key : String) (fields : Fields) : Option Fields :=
  match fields.lookup key with
  | none => some (fields.put key (.table .header []))
  | some (.table .implied inner) => some (fields.put key (.table .header inner))
  | some _ => none

def openItem (key : String) (fields : Fields) : Option Fields :=
  match fields.lookup key with
  | none => some (fields.put key (.tables [[]]))
  | some (.tables items) => some (fields.put key (.tables ([] :: items)))
  | some _ => none

def define (key : String) (datum : Datum) (fields : Fields) : Option Fields :=
  match fields.lookup key with
  | none => some (fields.put key (.value datum))
  | some _ => none

def assign (path : List String) (key : String) (datum : Datum) (fields : Fields) :
    Option Fields :=
  match path with
  | [] => fields.define key datum
  | path =>
      along true (fun origin inner => if origin = .header then none else inner.define key datum)
        path .header fields

end Fields

mutual

def Node.datum : Node → Datum
  | .value datum => datum
  | .table _ fields => .table (fieldData fields)
  | .tables items => .list (itemData items).reverse

def fieldData : List (String × Node) → List (String × Datum)
  | [] => []
  | (key, node) :: tail => (key, node.datum) :: fieldData tail

def itemData : List (List (String × Node)) → List Datum
  | [] => []
  | fields :: tail => .table (fieldData fields) :: itemData tail

end

end EscapeTime.Toml
