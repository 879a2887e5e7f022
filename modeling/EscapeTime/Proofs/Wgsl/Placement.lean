import EscapeTime.Proofs.Formula.Preservation
import EscapeTime.Uniforms

set_option autoImplicit false

namespace EscapeTime

namespace FieldType

-- In bytes.
def size : FieldType → Nat
  | f32 => 4
  | vec2 => 8
  | vec4 => 16

def alignment : FieldType → Nat
  | f32 => 4
  | vec2 => 8
  | vec4 => 16

end FieldType

namespace Wgsl

def roundUp (alignment offset : Nat) : Nat :=
  (offset + alignment - 1) / alignment * alignment

-- A field starts at the first offset behind the fields before it that its alignment admits.
def placed (start : Nat) : List Field → List (String × Nat)
  | [] => []
  | field :: rest =>
      (field.name, roundUp field.type.alignment start) ::
        placed (roundUp field.type.alignment start + field.type.size) rest

def extent (start : Nat) : List Field → Nat
  | [] => start
  | field :: rest => extent (roundUp field.type.alignment start + field.type.size) rest

def offset? (fields : List Field) (name : String) : Option Nat :=
  (placed 0 fields).lookup name

def structAlignment (fields : List Field) : Nat :=
  fields.foldr (fun field alignment => max field.type.alignment alignment) 1

def structSize (fields : List Field) : Nat :=
  roundUp (structAlignment fields) (extent 0 fields)

theorem placed_append (first second : List Field) (start : Nat) :
    placed start (first ++ second) = placed start first ++ placed (extent start first) second := by
  induction first generalizing start with
  | nil => rfl
  | cons field first ih => rw [List.cons_append, placed, placed, extent, ih, List.cons_append]

theorem extent_append (first second : List Field) (start : Nat) :
    extent start (first ++ second) = extent (extent start first) second := by
  induction first generalizing start with
  | nil => rfl
  | cons field first ih => rw [List.cons_append, extent, extent, ih]

def slotRow (first count : Nat) : List Field :=
  (List.range' first count).map fun id => ⟨slotField id, .vec2⟩

theorem slot_row_succ (first count : Nat) :
    slotRow first (count + 1) = ⟨slotField first, .vec2⟩ :: slotRow (first + 1) count :=
  rfl

theorem round_up_slot (id : Nat) : roundUp (FieldType.alignment .vec2) (56 + 8 * id) = 56 + 8 * id := by
  simp only [roundUp, FieldType.alignment]
  omega

theorem lookup_slot_row {id first count : Nat} (above : first ≤ id) (below : id < first + count) :
    (placed (56 + 8 * first) (slotRow first count)).lookup (slotField id) = some (56 + 8 * id) := by
  induction count generalizing first with
  | zero => omega
  | succ count ih =>
      rw [slot_row_succ, placed, round_up_slot, List.lookup_cons]
      by_cases same : id = first
      · subst same
        simp
      · have other : slotField id ≠ slotField first := fun equal => same (slot_field_injective equal)
        rw [beq_false_of_ne other]
        exact @ih (first + 1) (by omega) (by omega)

theorem extent_slot_row (first count : Nat) :
    extent (56 + 8 * first) (slotRow first count) = 56 + 8 * (first + count) := by
  induction count generalizing first with
  | zero => rfl
  | succ count ih =>
      rw [slot_row_succ, extent, round_up_slot]
      refine (ih (first + 1)).trans ?_
      omega

theorem struct_alignment_slot_row (first count : Nat) : structAlignment (slotRow first count) ≤ 8 := by
  induction count generalizing first with
  | zero => exact (by decide : 1 ≤ 8)
  | succ count ih =>
      rw [slot_row_succ, structAlignment, List.foldr_cons]
      exact Nat.max_le.mpr ⟨Nat.le_refl 8, ih (first + 1)⟩

theorem frame_fields_extent : extent 0 frameFields = 56 := by
  decide

theorem slot_field_not_frame (id : Nat) : slotField id ∉ frameFields.map Field.name := by
  intro member
  have heads : ((frameFields.map Field.name).all fun name => name.toList.head? != some 'u') = true := by decide
  have head := List.all_eq_true.mp heads _ member
  rw [slot_field_chars] at head
  cases head

theorem count_slot_row {id count : Nat} (below : id < count) :
    ((frameFields ++ slotRow 0 count).map Field.name).count (slotField id) = 1 := by
  have names : (slotRow 0 count).map Field.name = (List.range' 0 count).map slotField := by
    rw [slotRow, List.map_map]
    rfl
  rw [List.map_append, List.count_append, List.count_eq_zero_of_not_mem (slot_field_not_frame id), Nat.zero_add, names,
    List.count_map_of_injective _ _ (fun _ _ => slot_field_injective)]
  exact List.count_eq_one_of_mem List.nodup_range' (by simpa using below)

theorem offset?_slot {id count : Nat} (below : id < count) :
    offset? (frameFields ++ slotRow 0 count) (slotField id) = some (56 + 8 * id) := by
  have missing : (placed 0 frameFields).lookup (slotField id) = none := by
    rw [List.lookup_eq_none_iff]
    intro entry member
    have name : entry.1 ∈ frameFields.map Field.name := by
      have same : (placed 0 frameFields).map Prod.fst = frameFields.map Field.name := by decide
      exact same ▸ List.mem_map_of_mem member
    rw [bne_iff_ne]
    exact fun equal => slot_field_not_frame id (equal ▸ name)
  rw [offset?, placed_append, frame_fields_extent, List.lookup_append, missing, Option.none_or]
  exact @lookup_slot_row id 0 count (Nat.zero_le id) (by omega)

theorem struct_size_uniforms (count : Nat) :
    structSize (frameFields ++ slotRow 0 count) = 4 * uniformLength count := by
  have alignment : structAlignment (frameFields ++ slotRow 0 count) = 16 := by
    have slots := struct_alignment_slot_row 0 count
    have fields : structAlignment (frameFields ++ slotRow 0 count) =
        max 16 (max 8 (max 8 (max 8 (max 4 (max 4 (max 8 (structAlignment (slotRow 0 count)))))))) := rfl
    omega
  have ends : extent 0 (frameFields ++ slotRow 0 count) = 56 + 8 * count := by
    rw [extent_append, frame_fields_extent]
    simpa using extent_slot_row 0 count
  rw [structSize, alignment, ends, roundUp, uniformLength, frameLength]
  omega

end Wgsl

end EscapeTime
