import EscapeTime.Proofs.Session.Invariant

set_option autoImplicit false

namespace EscapeTime

def Settings.withPalette (settings : Settings) (palette : Palette) : Settings :=
  { settings with shader := { settings.shader with palette } }

def Shader.recoloured (shader : Shader) (settings : ShaderSettings) (table : Variables) : Shader :=
  { shader with source := Wgsl.program settings shader.initialCode shader.stepCode table }

namespace Session

@[simp] theorem set_palette_settings (session : Session) (palette : Palette) :
    (session.setPalette palette).settings = session.settings.withPalette palette := rfl

@[simp] theorem set_palette_table (session : Session) (palette : Palette) :
    (session.setPalette palette).table = session.table := rfl

theorem set_palette_eq (session : Session) (palette : Palette) :
    session.setPalette palette =
      { settings := session.settings.withPalette palette
        table := session.table
        shader := session.shader.map
          (·.recoloured (session.settings.withPalette palette).shader session.table) } :=
  rfl

theorem set_palette_set_palette (session : Session) (first last : Palette) :
    (session.setPalette first).setPalette last = session.setPalette last := by
  rw [set_palette_eq _ last, set_palette_eq _ first, set_palette_eq session last, Option.map_map]
  rfl

-- No stage before the last looks at the palette.
theorem build_with_palette (settings : Settings) (palette : Palette) (table : Variables) (initial step : String) :
    build (settings.withPalette palette) table initial step =
      (fun result => (result.1, result.2.recoloured (settings.withPalette palette).shader result.1)) <$>
        build settings table initial step := by
  simp only [build, map_bind, map_pure]
  rfl

theorem compile_set_palette (session : Session) (palette : Palette) (initial step : String) :
    (session.setPalette palette).compile initial step =
      (session.compile initial step).map (·.setPalette palette) := by
  rw [compile_eq, compile_eq, set_palette_settings, set_palette_table, build_with_palette]
  cases build session.settings session.table initial step <;> rfl

-- A program depends on the layout of its table, so a value may come before or after.
theorem set_variable_set_palette (session : Session) (palette : Palette) (name : String) (real imag : Float32) :
    (session.setPalette palette).setVariable name real imag =
      (session.setVariable name real imag).map (·.setPalette palette) := by
  rw [setVariable, setVariable, Variables.assign, Variables.assign, set_palette_table]
  cases set : session.table.set? name real imag with
  | none => rfl
  | some table =>
      have layout := Variables.layout_set set
      have same : ∀ shader : Shader, ∀ settings : ShaderSettings,
          shader.recoloured settings table = shader.recoloured settings session.table := by
        intro shader settings
        rw [Shader.recoloured, Shader.recoloured, Wgsl.program_congr layout]
      simp only [set_palette_eq, bind, Except.bind, pure, Except.pure, Except.map, same]

def Outcome.recoloured (outcome : Outcome) (palette : Palette) : Outcome :=
  ⟨outcome.session.setPalette palette, outcome.error⟩

theorem commit_set_palette (session : Session) (palette : Palette) (result : Except Error Session) :
    (session.setPalette palette).commit (result.map (·.setPalette palette)) =
      (session.commit result).recoloured palette := by
  cases result <;> rfl

theorem seed_set_palette (session : Session) (palette : Palette) (seeds : List Seed) :
    (session.setPalette palette).seed seeds = (session.seed seeds).recoloured palette := by
  induction seeds generalizing session with
  | nil => rfl
  | cons first rest ih =>
      rw [seed, seed, set_variable_set_palette]
      cases session.setVariable first.name first.real first.imag with
      | ok changed => exact ih changed
      | error error => rfl

theorem apply_preset_set_palette (session : Session) (palette : Palette) (name : String) :
    (session.setPalette palette).applyPreset name = (session.applyPreset name).recoloured palette := by
  rw [apply_preset_seed, apply_preset_seed]
  cases Preset.find name with
  | error error => rfl
  | ok preset =>
      dsimp only
      rw [compile_set_palette]
      cases session.compile preset.initial preset.step with
      | error error => rfl
      | ok compiled => exact seed_set_palette compiled palette preset.seeds

def Operation.recolours : Operation → Bool
  | .setPalette _ => true
  | _ => false

theorem perform_set_palette (session : Session) (palette : Palette) {operation : Operation}
    (plain : operation.recolours = false) :
    (session.setPalette palette).perform operation = (session.perform operation).recoloured palette := by
  cases operation with
  | compile initial step =>
      rw [perform, perform, compile_set_palette]
      exact commit_set_palette session palette _
  | applyPreset name => exact apply_preset_set_palette session palette name
  | setVariable name real imag =>
      rw [perform, perform, set_variable_set_palette]
      exact commit_set_palette session palette _
  | setPalette other => cases plain

theorem run_set_palette (session : Session) (palette : Palette) {operations : List Operation}
    (plain : ∀ operation ∈ operations, operation.recolours = false) :
    (session.setPalette palette).run operations = (session.run operations).setPalette palette := by
  induction operations generalizing session with
  | nil => rfl
  | cons operation rest ih =>
      obtain ⟨first, plain⟩ := List.forall_mem_cons.mp plain
      have stepped := congrArg Outcome.session (perform_set_palette session palette first)
      rw [run, List.foldl_cons, stepped]
      exact ih (session.perform operation).session plain

-- Every palette of a run is moved to its end, where the next one takes its place.
theorem run_filter_set_palette (session : Session) (palette : Palette) (operations : List Operation) :
    (session.run operations).setPalette palette =
      (session.run (operations.filter (!·.recolours))).setPalette palette := by
  induction operations generalizing session with
  | nil => rfl
  | cons operation rest ih =>
      cases operation with
      | setPalette other =>
          have plain : ∀ operation ∈ rest.filter (!·.recolours),
              operation.recolours = false := by
            intro operation member
            simpa using (List.mem_filter.mp member).2
          calc ((session.setPalette other).run rest).setPalette palette
            _ = ((session.setPalette other).run (rest.filter (!·.recolours))).setPalette
                  palette := ih _
            _ = ((session.run (rest.filter (!·.recolours))).setPalette other).setPalette
                  palette := by rw [run_set_palette session other plain]
            _ = (session.run (rest.filter (!·.recolours))).setPalette palette :=
                  set_palette_set_palette _ other palette
      | compile initial step => exact ih _
      | applyPreset name => exact ih _
      | setVariable name real imag => exact ih _

-- One step, the errors included; two palettes in a row; and a whole run that a palette ends.
theorem set_palette_commutes (session : Session) (palette : Palette) :
    (∀ operation : Operation, (∀ other, operation ≠ .setPalette other) →
      ((session.setPalette palette).perform operation).session =
          (session.perform operation).session.setPalette palette ∧
        ((session.setPalette palette).perform operation).error = (session.perform operation).error) ∧
    (∀ other, (session.setPalette other).setPalette palette = session.setPalette palette) ∧
    ∀ operations : List Operation, (session.run operations).setPalette palette =
      (session.run (operations.filter (!·.recolours))).setPalette palette := by
  refine ⟨fun operation different => ?_, fun other => set_palette_set_palette session other palette,
    run_filter_set_palette session palette⟩
  have plain : operation.recolours = false := by
    cases operation with
    | setPalette other => exact absurd rfl (different other)
    | _ => rfl
  rw [perform_set_palette session palette plain]
  exact ⟨rfl, rfl⟩

end Session

end EscapeTime
