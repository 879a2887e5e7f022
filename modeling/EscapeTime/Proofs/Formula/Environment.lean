import EscapeTime.Formula.Value
import EscapeTime.Proofs.Markup.Carried

set_option autoImplicit false

namespace EscapeTime

namespace Environment

def pointNames : List String :=
  ["c", "i", "t", "x", "z"]

theorem Point.value?_is_some (point : Point) (name : String) :
    (point.value? name).isSome = true ↔ name ∈ pointNames := by
  unfold value?
  split <;> simp_all [pointNames]

theorem parameter?_bind (environment : Environment) (text other : String) (value : Complex) :
    ((environment.bind other value).parameter? text).isSome = true ↔
      other = text ∨ (environment.parameter? text).isSome = true := by
  rw [parameter?, bind, List.lookup_cons]
  by_cases same : text = other
  · simp [same]
  · rw [beq_false_of_ne same]
    exact (or_iff_right (Ne.symm same)).symm

end Environment

namespace Dictionary

def givesValue (names : Dictionary) (text : String) : Bool :=
  Environment.pointNames.any fun name => names.get? name = some text

theorem gives_value_iff (names : Dictionary) (text : String) :
    names.givesValue text = true ↔ ∃ name ∈ Environment.pointNames, names.get? name = some text := by
  simp [givesValue]

end Dictionary

namespace Environment

def bindEntry (point : Point) (environment : Environment) (entry : String × String) : Environment :=
  match point.value? entry.1 with
  | some value => environment.bind entry.2 value
  | none => environment

theorem of_point_eq (table : Variables) (names : Dictionary) (point : Point) :
    ofPoint table names point = names.entries.foldl (bindEntry point) (bare table) :=
  rfl

theorem bind_entry_is_some (point : Point) (environment : Environment) (name other text : String) :
    ((bindEntry point environment (name, other)).parameter? text).isSome = true ↔
      (environment.parameter? text).isSome = true ∨ name ∈ pointNames ∧ other = text := by
  have valued := point.value?_is_some name
  unfold bindEntry
  cases found : point.value? name with
  | none =>
      rw [found] at valued
      simp [← valued]
  | some value =>
      rw [found] at valued
      rw [parameter?_bind, ← valued]
      simp [or_comm]

theorem foldl_is_some (point : Point) (text : String) (entries : List (String × String))
    (environment : Environment) :
    ((entries.foldl (bindEntry point) environment).parameter? text).isSome = true ↔
      (environment.parameter? text).isSome = true ∨ ∃ name ∈ pointNames, (name, text) ∈ entries := by
  induction entries generalizing environment with
  | nil => simp
  | cons entry rest ih =>
      rw [List.foldl_cons, ih, bind_entry_is_some, or_assoc]
      refine or_congr_right ?_
      simp only [List.mem_cons, and_or_left, exists_or]
      refine or_congr_left ⟨fun ⟨known, same⟩ => ⟨entry.1, known, by rw [← same]⟩, ?_⟩
      rintro ⟨name, known, rfl⟩
      exact ⟨known, rfl⟩

theorem foldl_table (point : Point) (entries : List (String × String)) (environment : Environment) :
    (entries.foldl (bindEntry point) environment).table = environment.table := by
  induction entries generalizing environment with
  | nil => rfl
  | cons entry rest ih =>
      rw [List.foldl_cons, ih, bindEntry]
      split <;> rfl

theorem of_point_is_some (table : Variables) (names : Dictionary) (point : Point) (text : String) :
    ((ofPoint table names point).parameter? text).isSome = true ↔ names.givesValue text = true := by
  rw [of_point_eq, foldl_is_some, names.gives_value_iff]
  simp only [names.get?_eq_some_iff]
  exact or_iff_right (by simp [bare, parameter?])

theorem of_point_table (table : Variables) (names : Dictionary) (point : Point) :
    (ofPoint table names point).table = table :=
  foldl_table point names.entries (bare table)

end Environment

end EscapeTime
