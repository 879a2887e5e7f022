import EscapeTime.Proofs.Session.Compile

set_option autoImplicit false

namespace EscapeTime.Session

section

variable {invariant : Session → Prop}
  (compiled : ∀ {session changed : Session} {initial step : String},
    session.compile initial step = .ok changed → invariant session → invariant changed)
  (assigned : ∀ {session changed : Session} {name : String} {real imag : Float32},
    session.setVariable name real imag = .ok changed → invariant session → invariant changed)

include assigned in
theorem seed_keeps {session : Session} (holds : invariant session) (seeds : List Seed) :
    invariant (session.seed seeds).session := by
  induction seeds generalizing session with
  | nil => exact holds
  | cons first rest ih =>
      rw [seed]
      cases done : session.setVariable first.name first.real first.imag with
      | ok changed => exact ih (assigned done holds)
      | error error => exact holds

theorem seed_shader (session : Session) (seeds : List Seed) :
    (session.seed seeds).session.shader = session.shader :=
  seed_keeps (fun done same => (congrArg shader (set_variable_ok done).1).trans same) rfl seeds

-- A compile has left a shader, so the last check of a preset never fails.
theorem apply_preset_seed (session : Session) (name : String) :
    session.applyPreset name =
      match Preset.find name with
      | .error error => ⟨session, some error⟩
      | .ok preset =>
          match session.compile preset.initial preset.step with
          | .error error => ⟨session, some error⟩
          | .ok compiled => compiled.seed preset.seeds := by
  rw [applyPreset]
  cases Preset.find name with
  | error error => rfl
  | ok preset =>
      dsimp only
      cases done : session.compile preset.initial preset.step with
      | error error => rfl
      | ok compiled =>
          have current : (compiled.seed preset.seeds).session.shader ≠ none := by
            rw [seed_shader]
            exact (compile_ok done).2.2
          exact if_neg fun bare => current bare.2

include compiled assigned

theorem apply_preset_keeps {session : Session} (holds : invariant session) (name : String) :
    invariant (session.applyPreset name).session := by
  rw [apply_preset_seed]
  cases Preset.find name with
  | error error => exact holds
  | ok preset =>
      dsimp only
      cases done : session.compile preset.initial preset.step with
      | error error => exact holds
      | ok changed => exact seed_keeps assigned (compiled done holds) preset.seeds

variable (recoloured : ∀ {session : Session} (palette : Palette),
  invariant session → invariant (session.setPalette palette))

include recoloured

theorem perform_keeps {session : Session} (holds : invariant session) (operation : Operation) :
    invariant (session.perform operation).session := by
  cases operation with
  | compile initial step =>
      rw [perform]
      cases done : session.compile initial step with
      | ok changed => exact compiled done holds
      | error error => exact holds
  | applyPreset name => exact apply_preset_keeps compiled assigned holds name
  | setVariable name real imag =>
      rw [perform]
      cases done : session.setVariable name real imag with
      | ok changed => exact assigned done holds
      | error error => exact holds
  | setPalette palette => exact recoloured palette holds

theorem run_keeps {session : Session} (holds : invariant session) (operations : List Operation) :
    invariant (session.run operations) := by
  induction operations generalizing session with
  | nil => exact holds
  | cons operation rest ih => exact ih (perform_keeps compiled assigned recoloured holds operation)

end

end EscapeTime.Session
