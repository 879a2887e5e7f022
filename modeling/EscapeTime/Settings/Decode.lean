import EscapeTime.Binary
import EscapeTime.Datum
import EscapeTime.Settings

set_option autoImplicit false

namespace EscapeTime.Settings

-- Where the data comes from. The two formats differ in how strictly lists are taken and in what may follow the
-- name of a choice that has no content.
inductive Dialect where
  | toml
  | json
deriving DecidableEq

-- The one key under which a date holds its text when it is taken for a table.
def dateKey : String := "$__toml_private_datetime"

def record? (dialect : Dialect) (keys : List String) : Datum → Option (List (String × Datum))
  | .table fields =>
      if keys.all fun key => (fields.filter (·.1 = key)).length ≤ 1 then some fields else none
  | .date value => some [(dateKey, .text value)]
  | .list items =>
      if dialect = .json ∧ keys.length < items.length then none else some (keys.zip items)
  | _ => none

def part {α : Type} (fields : List (String × Datum)) (key : String) (decode : Datum → Option α)
    (standard : α) : Option α :=
  match fields.lookup key with
  | some datum => decode datum
  | none => some standard

def count? : Datum → Option UInt32
  | .integer n => if 0 ≤ n ∧ n < Int.pow 2 32 then some (UInt32.ofNat n.toNat) else none
  | _ => none

def single? : Datum → Option Float32
  | .integer n => if -Int.pow 2 63 ≤ n ∧ n < Int.pow 2 64 then some (Binary.ofInt32 n) else none
  | .float x => some (Binary.narrow x)
  | _ => none

def color? (dialect : Dialect) : Datum → Option Color
  | .list (red :: green :: blue :: alpha :: more) =>
      if dialect = .json ∧ more ≠ [] then none
      else do return ⟨← single? red, ← single? green, ← single? blue, ← single? alpha⟩
  | _ => none

def isBare (dialect : Dialect) : Datum → Bool
  | .null => dialect = .json
  | .list [] | .table [] => dialect = .toml
  | _ => false

def choice? {α : Type} (dialect : Dialect) (ofName? : String → Option α) : Datum → Option α
  | .text name => ofName? name
  | .table [(name, content)] => if isBare dialect content then ofName? name else none
  | _ => none

def palette? (dialect : Dialect) : Datum → Option Palette
  | .table [("custom", .text body)] => some (.custom body)
  | datum => choice? dialect Palette.ofName? datum

def texts? : List (String × Datum) → Option (List (String × String))
  | [] => some []
  | (key, .text value) :: tail => (texts? tail).map ((key, value) :: ·)
  | _ :: _ => none

def names? : Datum → Option Dictionary
  | .table fields => (texts? fields).map .ofList
  | .date value => some (.ofList [(dateKey, value)])
  | _ => none

def shader? (dialect : Dialect) (datum : Datum) : Option ShaderSettings := do
  let fields ←
    record? dialect ["max_iterations", "escape_radius", "color_map", "non_escape_color"] datum
  let standard := ShaderSettings.standard
  return {
    maxIterations := ← part fields "max_iterations" count? standard.maxIterations
    escapeRadius := ← part fields "escape_radius" single? standard.escapeRadius
    palette := ← part fields "color_map" (palette? dialect) standard.palette
    interior := ← part fields "non_escape_color" (color? dialect) standard.interior }

def reading? (dialect : Dialect) (datum : Datum) : Option ReadMode := do
  let fields ← record? dialect ["grouping", "implicit_products"] datum
  let standard := ReadMode.standard
  return {
    grouping := ← part fields "grouping" (choice? dialect Grouping.ofName?) standard.grouping
    implicit :=
      ← part fields "implicit_products" (choice? dialect ImplicitFactor.ofName?) standard.implicit }

def parameters? (dialect : Dialect) (datum : Datum) : Option Dictionary := do
  let fields ← record? dialect ["names"] datum
  part fields "names" names? .standard

def ofDatum? (dialect : Dialect) (datum : Datum) : Option Settings := do
  let fields ← record? dialect ["shader", "parser", "parameters"] datum
  return {
    shader := ← part fields "shader" (shader? dialect) .standard
    reading := ← part fields "parser" (reading? dialect) .standard
    names := ← part fields "parameters" (parameters? dialect) .standard }

end EscapeTime.Settings
