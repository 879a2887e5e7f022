import EscapeTime.Formula.Code
import EscapeTime.Proofs.Renewal
import EscapeTime.Wgsl.Program

set_option autoImplicit false

namespace EscapeTime

namespace Variables

def layout (table : Variables) : List (String × Nat) :=
  table.entries.map fun entry => (entry.1, entry.2.id)

theorem names_eq (table : Variables) : table.names = table.layout.map Prod.fst := by
  simp [names, layout, Function.comp_def]

theorem size_eq (table : Variables) : table.size = table.layout.length := by
  simp [size, layout]

theorem lookup_layout (table : Variables) (name : String) :
    table.layout.lookup name = (table.get? name).map Slot.id := by
  have mapped : ∀ entries : List (String × Slot),
      (entries.map fun entry => (entry.1, entry.2.id)).lookup name =
        (entries.lookup name).map Slot.id := by
    intro entries
    induction entries with
    | nil => rfl
    | cons entry tail ih =>
        rw [List.map_cons, List.lookup_cons, List.lookup_cons]
        cases name == entry.1 <;> simp [ih]
  exact mapped table.entries

theorem get?_is_some {table : Variables} {name : String} :
    (table.get? name).isSome ↔ name ∈ table.names := by
  have found : ∀ entries : List (String × Slot),
      (entries.lookup name).isSome ↔ name ∈ entries.map Prod.fst := by
    intro entries
    induction entries with
    | nil => simp
    | cons entry tail ih =>
        rw [List.lookup_cons, List.map_cons, List.mem_cons]
        by_cases same : name = entry.1
        · simp [same]
        · rw [beq_false_of_ne same, ih]
          simp [same]
  exact found table.entries

theorem layout_update (table : Variables) (name : String) {change : Slot → Slot}
    (keeps : ∀ slot, (change slot).id = slot.id) : (table.update name change).layout = table.layout := by
  simp only [layout, update, List.map_map]
  apply List.map_congr_left
  intro entry _
  by_cases same : entry.1 = name
  · simp [same, keeps]
  · simp [same]

theorem layout_set {table changed : Variables} {name : String} {real imag : Float32}
    (done : table.set? name real imag = some changed) : changed.layout = table.layout := by
  unfold set? at done
  split at done
  · obtain rfl := Option.some.inj done
    exact layout_update table name fun _ => rfl
  · cases done

theorem renumber_id (table : Variables) (name : String) (id : Nat) : (table.renumber name id).id = id := by
  unfold renumber
  cases table.get? name <;> rfl

theorem layout_carry (table : Variables) {names : List String} (distinct : names.Nodup) :
    (table.carry names distinct).layout = names.zipIdx := by
  apply List.ext_getElem?
  intro id
  simp only [layout, carry, List.getElem?_map, List.getElem?_mapIdx, List.getElem?_zipIdx]
  cases names[id]? <;> simp [renumber_id]

theorem names_carry (table : Variables) {names : List String} (distinct : names.Nodup) :
    (table.carry names distinct).names = names := by
  rw [names_eq, layout_carry, List.zipIdx_map_fst]

end Variables

theorem Formula.symbol_code_eq (table : Variables) (name : Token) (kind : name.kind = .identifier) :
    symbolCode table name =
      match table.layout.lookup name.text with
      | some id => .ok (.uniform (Wgsl.slotField id))
      | none => .error (.noSlot name.text) := by
  rw [table.lookup_layout, symbolCode, kind]
  cases table.get? name.text <;> rfl

theorem Formula.code_congr {table other : Variables} (same : table.layout = other.layout)
    (formula : Formula) : formula.code table = formula.code other := by
  induction formula with
  | unary op inner ih => rw [code, code, ih]
  | binary left op right first second => rw [code, code, first, second]
  | literal value => rfl
  | symbol name =>
      by_cases kind : name.kind = .identifier
      · rw [code, code, symbol_code_eq table name kind, symbol_code_eq other name kind, same]
      · rw [code, code, symbolCode, symbolCode]
        split <;> simp_all
  | invalid message => rfl

theorem slot_fields_eq (table : Variables) :
    slotFields table = table.layout.map fun entry => ⟨Wgsl.slotField entry.2, .vec2⟩ := by
  simp [slotFields, Variables.layout]

theorem Wgsl.program_congr {table other : Variables} (same : table.layout = other.layout)
    (settings : ShaderSettings) (initial step : String) :
    program settings initial step table = program settings initial step other := by
  simp only [program, uniformFields, slot_fields_eq, same]

end EscapeTime
