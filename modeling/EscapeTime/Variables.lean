import EscapeTime.Formula

set_option autoImplicit false

namespace EscapeTime

@[ext]
structure Slot where
  id : Nat
  real : Float32
  imag : Float32
deriving DecidableEq

namespace Slot

def fresh (id : Nat) : Slot := ⟨id, 0, 0⟩

end Slot

@[ext]
structure Variables where
  entries : List (String × Slot)
  distinct : (entries.map Prod.fst).Nodup
deriving DecidableEq

namespace Variables

def empty : Variables := ⟨[], .nil⟩

def size (table : Variables) : Nat :=
  table.entries.length

def names (table : Variables) : List String :=
  table.entries.map Prod.fst

def get? (table : Variables) (name : String) : Option Slot :=
  table.entries.lookup name

def update (table : Variables) (name : String) (change : Slot → Slot) : Variables where
  entries := table.entries.map fun entry =>
    if entry.1 = name then (entry.1, change entry.2) else entry
  distinct := by
    rw [List.map_map]
    have same : (Prod.fst ∘ fun entry : String × Slot =>
        if entry.1 = name then (entry.1, change entry.2) else entry) = Prod.fst := by
      funext entry
      simp only [Function.comp_apply]
      split <;> rfl
    rw [same]
    exact table.distinct

def set? (table : Variables) (name : String) (real imag : Float32) : Option Variables :=
  if name ∈ table.names then some (table.update name fun slot => ⟨slot.id, real, imag⟩)
  else none

def insert (table : Variables) (name : String) (slot : Slot) : Variables :=
  if present : name ∈ table.names then table.update name fun _ => slot
  else ⟨table.entries ++ [(name, slot)], by
    simp only [List.map_append, List.map_cons, List.map_nil]
    refine List.nodup_append.mpr ⟨table.distinct, by simp, ?_⟩
    intro a member b last same
    rw [List.mem_singleton] at last
    exact present (last ▸ same ▸ member)⟩

def ofList (entries : List (String × Slot)) : Variables :=
  entries.foldl (fun table entry => table.insert entry.1 entry.2) empty

-- Adds the identifiers of a formula, from left to right, to those met before it. Each has a number: how many
-- were met when it occurred first. A formula that was not read entirely gives the reason instead.
def collect : Formula → List (String × Nat) → Except String (List (String × Nat))
  | .unary _ inner, met => collect inner met
  | .binary left _ right, met => do
      let met ← collect left met
      collect right met
  | .literal _, met => .ok met
  | .symbol name, met =>
      if name.kind = .identifier ∧ name.text ∉ met.map Prod.fst then
        .ok (met ++ [(name.text, met.length)])
      else .ok met
  | .invalid message, _ => .error message

def enter (table : Variables) (name : String) (id : Nat) : Variables :=
  if name ∈ table.names then table.update name fun slot => { slot with id }
  else table.insert name (.fresh id)

def retain (table : Variables) (names : List String) : Variables where
  entries := table.entries.filter fun entry => entry.1 ∈ names
  distinct := table.distinct.sublist (List.filter_sublist.map Prod.fst)

def place (entry : String × Slot) : List (String × Slot) → List (String × Slot)
  | [] => [entry]
  | head :: tail =>
      if entry.2.id ≤ head.2.id then entry :: head :: tail else head :: place entry tail

theorem place_perm (entry : String × Slot) (entries : List (String × Slot)) :
    (place entry entries).Perm (entry :: entries) := by
  induction entries with
  | nil => exact .refl _
  | cons head tail ih =>
      unfold place
      split
      · exact .refl _
      · exact (ih.cons head).trans (.swap entry head tail)

theorem foldr_place_perm (entries : List (String × Slot)) : (entries.foldr place []).Perm entries := by
  induction entries with
  | nil => exact .refl _
  | cons entry tail ih => exact (place_perm entry _).trans (ih.cons entry)

def sort (table : Variables) : Variables where
  entries := table.entries.foldr place []
  distinct := ((foldr_place_perm table.entries).map Prod.fst).nodup_iff.mpr table.distinct

structure Reconciled where
  table : Variables
  fault : Option String
deriving DecidableEq

/-- Renews a table for two formulas: their identifiers are numbered by first occurrence, those of
`initial` before those of `step`, and all other names are dropped. Nothing is changed unless both
formulas were read entirely. -/
def reconcile (table : Variables) (initial step : Formula) : Reconciled :=
  match collect initial [] >>= collect step with
  | .error message => ⟨table, some message⟩
  | .ok met =>
      let entered := met.foldl (fun table entry => table.enter entry.1 entry.2) table
      ⟨(entered.retain (met.map Prod.fst)).sort, none⟩

end Variables

end EscapeTime
