import EscapeTime.Proofs.Session.Coherent
import EscapeTime.Proofs.Wgsl.Placement
import EscapeTime.Proofs.Wgsl.Struct

set_option autoImplicit false

namespace EscapeTime

theorem Variables.floats_slot (table : Variables) (position : Nat) :
    table.floats[2 * position]? = (table.entries[position]?).map (fun entry => entry.2.real) ∧
      table.floats[2 * position + 1]? = (table.entries[position]?).map (fun entry => entry.2.imag) := by
  have paired : ∀ entries : List (String × Slot), ∀ position,
      (entries.flatMap fun entry => [entry.2.real, entry.2.imag])[2 * position]? =
          (entries[position]?).map (fun entry => entry.2.real) ∧
        (entries.flatMap fun entry => [entry.2.real, entry.2.imag])[2 * position + 1]? =
          (entries[position]?).map (fun entry => entry.2.imag) := by
    intro entries
    induction entries with
    | nil => simp
    | cons entry tail ih =>
        intro position
        cases position with
        | zero => simp
        | succ position => exact ih position
  exact paired table.entries position

section Packing

variable (frame : Frame) (table : Variables)

theorem Frame.floats_length : frame.floats.length = frameLength :=
  rfl

theorem pack_uniforms_frame : (packUniforms frame table).take frameLength = frame.floats := by
  rw [packUniforms, List.append_assoc, ← frame.floats_length, List.take_left]

theorem pack_uniforms_slot {position : Nat} {entry : String × Slot} (present : table.entries[position]? = some entry) :
    (packUniforms frame table)[frameLength + 2 * position]? = some entry.2.real ∧
      (packUniforms frame table)[frameLength + (2 * position + 1)]? = some entry.2.imag := by
  have inside : 2 * position + 1 < table.floats.length := by
    rw [table.floats_length, Variables.size]
    have bound := (List.getElem?_eq_some_iff.mp present).1
    omega
  obtain ⟨real, imag⟩ := table.floats_slot position
  rw [present] at real imag
  rw [packUniforms, List.append_assoc, ← frame.floats_length, List.getElem?_append_right (Nat.le_add_right _ _),
    List.getElem?_append_right (Nat.le_add_right _ _), Nat.add_sub_cancel_left, Nat.add_sub_cancel_left,
    List.getElem?_append_left (by omega), List.getElem?_append_left inside]
  exact ⟨real, imag⟩

theorem pack_uniforms_rest : ∀ x ∈ (packUniforms frame table).drop (frameLength + 2 * table.size), x = 0 := by
  have filled : (frame.floats ++ table.floats).length = frameLength + 2 * table.size := by
    rw [List.length_append, table.floats_length, frame.floats_length]
  intro x member
  rw [packUniforms, ← filled, List.drop_left] at member
  exact List.eq_of_mem_replicate member

end Packing

namespace Session

-- What the users of one slot make of it: the expression of the name, the struct with these fields, and
-- the buffer.
structure SlotAgrees (table : Variables) (fields : List Field) (buffer : List Float32) (name : String)
    (slot : Slot) : Prop where
  expression : ∀ token : Token, token.kind = .identifier → token.text = name →
    ((Formula.symbol token).code table).map Wgsl.Expr.render = .ok ("uniforms." ++ Wgsl.slotField slot.id)
  once : (fields.map Field.name).count (Wgsl.slotField slot.id) = 1
  declared : ∃ before after, fields = before ++ ⟨"pan", .vec2⟩ :: after ∧
    after[slot.id]? = some ⟨Wgsl.slotField slot.id, .vec2⟩
  offset : Wgsl.offset? fields (Wgsl.slotField slot.id) = some (56 + 8 * slot.id)
  real : buffer[14 + 2 * slot.id]? = some slot.real
  imag : buffer[15 + 2 * slot.id]? = some slot.imag

structure SlotLayout (session : Session) (frame : Frame) (fields : List Field) : Prop where
  slots : ∀ name slot, session.table.get? name = some slot →
    SlotAgrees session.table fields (session.packUniforms frame) name slot
  header : (session.packUniforms frame).take 14 = frame.floats
  padding : ∀ x ∈ (session.packUniforms frame).drop (14 + 2 * session.table.size), x = 0
  size : 4 * (session.packUniforms frame).length = Wgsl.structSize fields

theorem Coherent.entry {session : Session} (coherent : Coherent session) {name : String} {slot : Slot}
    (found : session.table.get? name = some slot) : session.table.entries[slot.id]? = some (name, slot) := by
  obtain ⟨before, after, split, -⟩ := List.lookup_eq_some_iff.mp found
  have present : session.table.entries[before.length]? = some (name, slot) := by
    rw [split]
    simp
  rwa [← coherent.numbered _ _ present] at present

theorem Coherent.slot_fields_eq {session : Session} (coherent : Coherent session) :
    slotFields session.table = Wgsl.slotRow 0 session.table.size := by
  apply List.ext_getElem?
  intro id
  rw [slotFields, Wgsl.slotRow, List.getElem?_map, List.getElem?_map]
  cases present : session.table.entries[id]? with
  | none =>
      have ended := List.getElem?_eq_none_iff.mp present
      rw [List.getElem?_eq_none_iff.mpr (by rwa [List.length_range'])]
      rfl
  | some entry =>
      have inside : id < session.table.size := (List.getElem?_eq_some_iff.mp present).1
      rw [List.getElem?_range' inside, Option.map_some, Option.map_some, coherent.numbered id entry present]
      simp

theorem Coherent.slot_agrees {session : Session} (coherent : Coherent session) (frame : Frame) {name : String}
    {slot : Slot} (found : session.table.get? name = some slot) :
    SlotAgrees session.table (uniformFields session.table) (session.packUniforms frame) name slot := by
  have present := coherent.entry found
  have below : slot.id < session.table.size := (List.getElem?_eq_some_iff.mp present).1
  obtain ⟨real, imag⟩ := pack_uniforms_slot frame session.table present
  rw [uniformFields, coherent.slot_fields_eq]
  exact {
    expression := by
      intro token kind text
      rw [Formula.code, Formula.symbolCode, kind, text]
      simp only [found]
      rfl
    once := Wgsl.count_slot_row below
    declared := by
      refine ⟨frameFields.take 6, Wgsl.slotRow 0 session.table.size, rfl, ?_⟩
      rw [Wgsl.slotRow, List.getElem?_map, List.getElem?_range' below]
      simp
    offset := Wgsl.offset?_slot below
    real := real
    imag := by
      have place : 15 + 2 * slot.id = frameLength + (2 * slot.id + 1) := by
        rw [frameLength]
        omega
      rw [place]
      exact imag }

theorem slot_layout_agrees (settings : Settings) (operations : List Operation) (shader : Shader)
    (compiled : ((new settings).run operations).shader = some shader) (frame : Frame) :
    ∃ fields, Wgsl.declaredFields? "Uniforms" shader.source = some fields ∧
      SlotLayout ((new settings).run operations) frame fields := by
  have coherent := run_keeps_coherent (new_coherent settings) operations
  generalize (new settings).run operations = session at compiled coherent ⊢
  obtain ⟨initial, step, current⟩ := coherent.current shader compiled
  refine ⟨uniformFields session.table, ?_, fun name slot found => coherent.slot_agrees frame found,
    pack_uniforms_frame frame session.table, pack_uniforms_rest frame session.table, ?_⟩
  · rw [current.source]
    exact Wgsl.declared_fields?_program _ _ _ _
  · rw [packUniforms, pack_uniforms_length, uniformFields, coherent.slot_fields_eq, Wgsl.struct_size_uniforms]

-- The second compile turns the order of the names around while the value stays with its name.
theorem slot_layout_agrees_renumbered :
    let session := (new .standard).run [.compile "ax" "z^2+b", .setVariable "a" 0.5 (-1), .compile "b" "z+a"]
    session.table.get? "a" = some ⟨1, 0.5, -1⟩ ∧ ∃ shader, session.shader = some shader ∧
      ∃ fields, Wgsl.declaredFields? "Uniforms" shader.source = some fields ∧ SlotLayout session .standard fields := by
  intro session
  have found : session.table.get? "a" = some ⟨1, 0.5, -1⟩ := by decide +kernel
  have built : session.shader.isSome = true := by decide +kernel
  obtain ⟨shader, compiled⟩ := Option.isSome_iff_exists.mp built
  exact ⟨found, shader, compiled, slot_layout_agrees .standard _ shader compiled .standard⟩

end Session

end EscapeTime
