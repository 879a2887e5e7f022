import EscapeTime.Proofs.Session.Compile
import EscapeTime.Proofs.Values

set_option autoImplicit false

namespace EscapeTime.Session

theorem renewed_layout (settings : Settings) (table other : Variables) (initial step : String) :
    (renewed settings table initial step).layout = (renewed settings other initial step).layout := by
  rw [renewed, renewed, Variables.layout_carry, Variables.layout_carry]

theorem renewed_value (settings : Settings) (table : Variables) (initial step name : String) :
    (renewed settings table initial step).value? name =
      if name ∈ (parsed settings initial).tree.identifiers ∨ name ∈ (parsed settings step).tree.identifiers then
        some ((table.value? name).getD (0, 0))
      else none := by
  simp only [renewed, Variables.value?_carry, Variables.mem_first_occurrences, List.mem_append]

theorem assemble_congr {table other : Variables} (same : table.layout = other.layout) (settings : ShaderSettings)
    (initialCode stepCode : String) :
    assemble settings table initialCode stepCode = assemble settings other initialCode stepCode := by
  rw [assemble, assemble, Wgsl.program_congr same, table.size_eq, other.size_eq, same]

-- Both runs pass the same stages. What the stages give agrees because expressions and programs see a
-- table through its layout, and renewing leaves nothing of the old layout.
theorem build_independent (settings : Settings) (table other : Variables) (initial step : String) :
    (∃ error, build settings table initial step = .error error ∧ build settings other initial step = .error error) ∨
    ∃ shader, build settings table initial step = .ok (renewed settings table initial step, shader) ∧
      build settings other initial step = .ok (renewed settings other initial step, shader) := by
  have same := renewed_layout settings table other initial step
  rcases build_outcome settings table initial step with
    ⟨fine, initialCode, stepCode, made, stepMade, built⟩ | ⟨error, failed, built⟩
  · rcases build_outcome settings other initial step with
      ⟨-, otherInitial, otherStep, otherMade, otherStepMade, otherBuilt⟩ | ⟨error, failed, -⟩
    · rw [Formula.code_congr same] at made stepMade
      obtain rfl := Except.ok.inj (made.symm.trans otherMade)
      obtain rfl := Except.ok.inj (stepMade.symm.trans otherStepMade)
      rw [← assemble_congr same] at otherBuilt
      exact .inr ⟨_, built, otherBuilt⟩
    · cases fine.symm.trans failed
  · rcases build_outcome settings other initial step with ⟨fine, -⟩ | ⟨otherError, otherFailed, otherBuilt⟩
    · cases fine.symm.trans failed
    · obtain rfl := Option.some.inj (failed.symm.trans otherFailed)
      exact .inl ⟨error, built, otherBuilt⟩

theorem compile_independent_of_history (session : Session) (initial step : String) :
    (∃ error, session.compile initial step = .error error ∧
      (new session.settings).compile initial step = .error error) ∨
    ∃ changed fresh shader, session.compile initial step = .ok changed ∧
      (new session.settings).compile initial step = .ok fresh ∧
      changed.shader = some shader ∧ fresh.shader = some shader ∧
      changed.table.layout = fresh.table.layout ∧
      ∀ name ∈ changed.table.names,
        changed.table.value? name = some ((session.table.value? name).getD (0, 0)) := by
  have settled : (new session.settings).settings = session.settings := rfl
  rw [compile_eq, compile_eq, settled]
  rcases build_independent session.settings session.table (new session.settings).table initial step with
    ⟨error, built, freshBuilt⟩ | ⟨shader, built, freshBuilt⟩
  · exact .inl ⟨error, by rw [built]; rfl, by rw [freshBuilt]; rfl⟩
  · refine .inr ⟨_, _, shader, by rw [built]; rfl, by rw [freshBuilt]; rfl, rfl, rfl,
      renewed_layout _ _ _ _ _, ?_⟩
    intro name member
    rw [renewed_value, if_pos ((renewed_covers _ _ _ _ _).mp member)]

end EscapeTime.Session
