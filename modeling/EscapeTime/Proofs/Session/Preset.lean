import EscapeTime.Proofs.Session.Coherent
import EscapeTime.Proofs.Session.Dictionary

set_option autoImplicit false

namespace EscapeTime

def ReadMode.all : List ReadMode :=
  [⟨.lenient, .primary⟩, ⟨.lenient, .exponent⟩, ⟨.strict, .primary⟩, ⟨.strict, .exponent⟩]

theorem ReadMode.mem_all (mode : ReadMode) : mode ∈ all := by
  obtain ⟨grouping, implicit⟩ := mode
  cases grouping <;> cases implicit <;> decide

namespace Session

theorem apply_preset_settings (session : Session) (name : String) :
    (session.applyPreset name).session.settings = session.settings :=
  apply_preset_keeps (fun done same => (compile_ok done).1.trans same)
    (fun done same => (congrArg settings (set_variable_ok done).1).trans same) rfl name

-- No operation touches more of the settings than the palette.
theorem run_names (session : Session) (operations : List Operation) :
    (session.run operations).settings.names = session.settings.names :=
  run_keeps (fun done same => (congrArg Settings.names (compile_ok done).1).trans same)
    (fun done same => (congrArg (Settings.names ∘ settings) (set_variable_ok done).1).trans same)
    (fun _ same => same) rfl operations

theorem seed_done {session : Session} {seeds : List Seed}
    (present : ∀ seed ∈ seeds, seed.name ∈ session.table.names) : (session.seed seeds).error = none := by
  induction seeds generalizing session with
  | nil => rfl
  | cons first rest ih =>
      have named : first.name ∈ session.table.names := present first (List.mem_cons_self ..)
      rw [seed]
      cases done : session.setVariable first.name first.real first.imag with
      | ok changed =>
          refine ih fun seed member => ?_
          rw [Variables.names_eq, Variables.layout_set (set_variable_ok done).2, ← Variables.names_eq]
          exact present seed (List.mem_cons_of_mem _ member)
      | error error =>
          simp [setVariable, Variables.assign, Variables.set?, named, bind, Except.bind] at done
          cases done

theorem seed_stops {session : Session} {first : Seed} (absent : first.name ∉ session.table.names)
    (rest : List Seed) : session.seed (first :: rest) = ⟨session, some (.unknownVariable first.name)⟩ := by
  have failed : session.setVariable first.name first.real first.imag = .error (.unknownVariable first.name) := by
    rw [setVariable, Variables.assign, Variables.set?, if_neg absent]
    rfl
  rw [seed, failed]

-- The presets while no name is reserved: they compile, and the one name that they give a value to is a
-- name of their formulas.
theorem presets_unreserved : ∀ mode ∈ ReadMode.all, ∀ preset ∈ Preset.all,
    ((Markup.scan .empty preset.initial).failure = none ∧ (Markup.scan .empty preset.step).failure = none ∧
      (parsed ⟨.standard, mode, .empty⟩ preset.initial).valid = true ∧
      (parsed ⟨.standard, mode, .empty⟩ preset.step).valid = true ∧
      ∀ value ∈ (parsed ⟨.standard, mode, .empty⟩ preset.initial).tree.literals ++
          (parsed ⟨.standard, mode, .empty⟩ preset.step).tree.literals, value.fitsSingle = true) ∧
    ∀ seed ∈ preset.seeds, seed.name = "a" ∧
      ("a" ∈ (parsed ⟨.standard, mode, .empty⟩ preset.initial).tree.identifiers ∨
        "a" ∈ (parsed ⟨.standard, mode, .empty⟩ preset.step).tree.identifiers) := by
  decide +kernel

theorem preset_compiles (session : Session) {preset : Preset} (member : preset ∈ Preset.all) :
    ∃ compiled, session.compile preset.initial preset.step = .ok compiled := by
  refine compile_done session ?_
  rw [first_fault_unreserved]
  exact (first_fault_eq_none _ _ _).mpr (presets_unreserved _ session.settings.reading.mem_all preset member).1

theorem preset_names {session compiled : Session} {preset : Preset} (member : preset ∈ Preset.all)
    (done : session.compile preset.initial preset.step = .ok compiled) {seed : Seed} (seeded : seed ∈ preset.seeds) :
    seed.name = "a" ∧ ("a" ∈ compiled.table.names ↔ session.settings.names.get? "a" = none) := by
  obtain ⟨name, occurs⟩ := (presets_unreserved _ session.settings.reading.mem_all preset member).2 seed seeded
  have looked : session.settings.names.reserved? "a" = session.settings.names.get? "a" := rfl
  refine ⟨name, ?_⟩
  rw [(compile_ok done).2.1, renewed_covers, identifiers_parsed, identifiers_parsed session.settings preset.step,
    List.mem_filter, List.mem_filter, ← or_and_right, looked, Option.isNone_iff_eq_none]
  exact and_iff_right occurs

inductive Applied (session : Session) (name : String) : Outcome → Prop where
  | unknown (absent : ∀ preset ∈ Preset.all, preset.name ≠ name) :
      Applied session name ⟨session, some (.unknownPreset name)⟩
  | seeded {preset : Preset} {compiled : Session} (member : preset ∈ Preset.all) (named : preset.name = name)
      (done : session.compile preset.initial preset.step = .ok compiled)
      (free : preset.seeds = [] ∨ session.settings.names.get? "a" = none)
      (fine : (compiled.seed preset.seeds).error = none) :
      Applied session name (compiled.seed preset.seeds)
  | halfway {preset : Preset} {compiled : Session} (member : preset ∈ Preset.all) (named : preset.name = name)
      (done : session.compile preset.initial preset.step = .ok compiled)
      (seeds : preset.seeds ≠ []) (reserved : session.settings.names.get? "a" ≠ none) :
      Applied session name ⟨compiled, some (.unknownVariable "a")⟩

theorem find_cases (name : String) :
    (Preset.find name = .error (.unknownPreset name) ∧ ∀ preset ∈ Preset.all, preset.name ≠ name) ∨
      ∃ preset ∈ Preset.all, preset.name = name ∧ Preset.find name = .ok preset := by
  rw [Preset.find]
  cases found : Preset.all.find? fun preset => preset.name = name with
  | none =>
      refine .inl ⟨rfl, fun preset member => ?_⟩
      simpa using List.find?_eq_none.mp found preset member
  | some preset =>
      have named := List.find?_some found
      exact .inr ⟨preset, List.mem_of_find?_eq_some found, by simpa using named, rfl⟩

theorem apply_preset_applied (session : Session) (name : String) :
    Applied session name (session.applyPreset name) := by
  rw [apply_preset_seed]
  rcases find_cases name with ⟨missing, absent⟩ | ⟨preset, member, named, found⟩
  · rw [missing]
    exact .unknown absent
  · obtain ⟨compiled, done⟩ := preset_compiles session member
    simp only [found, done]
    by_cases reserved : session.settings.names.get? "a" = none
    · refine .seeded member named done (.inr reserved) (seed_done fun seed seeded => ?_)
      obtain ⟨same, present⟩ := preset_names member done seeded
      rw [same]
      exact present.mpr reserved
    · cases seeds : preset.seeds with
      | nil =>
          have fine := Applied.seeded member named done (.inl seeds) (by rw [seeds]; rfl)
          rwa [seeds] at fine
      | cons first rest =>
          obtain ⟨same, present⟩ := preset_names member done (seeds ▸ List.mem_cons_self ..)
          rw [seed_stops (by rw [same]; exact fun inside => reserved (present.mp inside)), same]
          exact .halfway member named done (by rw [seeds]; exact List.cons_ne_nil _ _) reserved

def Reachable (settings : Settings) (session : Session) : Prop :=
  ∃ operations, (new settings).run operations = session

theorem Reachable.names {settings : Settings} {session : Session} (reachable : Reachable settings session) :
    session.settings.names = settings.names := by
  obtain ⟨operations, rfl⟩ := reachable
  exact run_names _ operations

theorem apply_preset_fails {session : Session} {name : String} {error : Error}
    (failed : (session.applyPreset name).error = some error) :
    (error = .unknownPreset name ∧ (session.applyPreset name).session = session) ∨
    (error = .unknownVariable "a" ∧ session.settings.names.get? "a" ≠ none ∧
      ∃ preset ∈ Preset.all, preset.name = name ∧
        session.compile preset.initial preset.step = .ok (session.applyPreset name).session) := by
  have applied := apply_preset_applied session name
  generalize session.applyPreset name = outcome at applied failed ⊢
  cases applied with
  | unknown absent => exact .inl ⟨(Option.some.inj failed).symm, rfl⟩
  | seeded member named done free fine => cases fine.symm.trans failed
  | @halfway preset compiled member named done seeds reserved =>
      exact .inr ⟨(Option.some.inj failed).symm, reserved, preset, member, named, done⟩

-- A new session has no shader, and one that a preset was compiled in has.
theorem apply_preset_halfway {settings : Settings} (reserved : settings.names.get? "a" ≠ none) :
    (∃ error, ((new settings).applyPreset "star-julia").error = some error) ∧
      ((new settings).applyPreset "star-julia").session ≠ new settings := by
  have present : ∃ preset ∈ Preset.all, preset.name = "star-julia" := by decide
  have seeds : ∀ preset ∈ Preset.all, preset.name = "star-julia" → preset.seeds ≠ [] := by decide
  have applied := apply_preset_applied (new settings) "star-julia"
  generalize (new settings).applyPreset "star-julia" = outcome at applied ⊢
  cases applied with
  | unknown absent =>
      obtain ⟨preset, member, named⟩ := present
      exact absurd named (absent preset member)
  | @seeded preset _ member named _ free _ =>
      rcases free with none | free
      · exact absurd none (seeds preset member named)
      · exact absurd free reserved
  | halfway _ _ done _ _ =>
      refine ⟨⟨_, rfl⟩, fun same => (compile_ok done).2.2 ?_⟩
      exact congrArg shader same

-- Applying a preset is all or nothing under a dictionary exactly if that does not reserve the name that
-- presets give a value to. What a preset that fails leaves behind is its compiled formulas.
theorem apply_preset_atomic_iff (settings : Settings) :
    ((∀ session, Reachable settings session → ∀ name error, (session.applyPreset name).error = some error →
        (session.applyPreset name).session = session) ↔
      ∀ entry ∈ settings.names.entries, entry.1 ≠ "a") ∧
    ∀ session, Reachable settings session → ∀ name,
      (session.applyPreset name).session.settings = session.settings ∧
      ∀ error, (session.applyPreset name).error = some error →
        (error = .unknownPreset name ∧ (session.applyPreset name).session = session) ∨
        (error = .unknownVariable "a" ∧ (∃ entry ∈ settings.names.entries, entry.1 = "a") ∧
          ∃ preset ∈ Preset.all, preset.name = name ∧
            session.compile preset.initial preset.step = .ok (session.applyPreset name).session) := by
  rw [← settings.names.get?_eq_none_iff]
  refine ⟨⟨fun atomic => ?_, fun free session reachable name error failed => ?_⟩,
    fun session reachable name => ⟨apply_preset_settings session name, fun error failed => ?_⟩⟩
  · by_cases free : settings.names.get? "a" = none
    · exact free
    · obtain ⟨⟨error, failed⟩, changed⟩ := apply_preset_halfway free
      exact absurd (atomic _ ⟨[], rfl⟩ _ error failed) changed
  · rcases apply_preset_fails failed with ⟨-, same⟩ | ⟨-, reserved, -⟩
    · exact same
    · exact absurd (reachable.names ▸ free) reserved
  · rcases apply_preset_fails failed with unchanged | ⟨told, reserved, compiled⟩
    · exact .inl unchanged
    · refine .inr ⟨told, ?_, compiled⟩
      rw [reachable.names] at reserved
      simpa [settings.names.get?_eq_none_iff] using reserved

-- The slider of `b` and the formulas that it belonged to are gone, though the call failed.
theorem apply_preset_loses_value :
    let settings : Settings := { Settings.standard with names := .ofList [("a", "x"), ("x", "x"), ("z", "z")] }
    let session := (new settings).run [.compile "0" "z^2+b", .setVariable "b" 0.5 0.25]
    let outcome := session.applyPreset "star-julia"
    outcome.error = some (.unknownVariable "a") ∧
      session.table.entries = [("b", ⟨0, 0.5, 0.25⟩)] ∧ outcome.session.table.entries = [] ∧
      session.shader.map Shader.stepCode = some "(complex_pow(z, vec2<f32>(2.0, 0.0))) + (uniforms.u0)" ∧
      outcome.session.shader.map Shader.stepCode = some "(complex_pow(z, vec2<f32>(5.0, 0.0))) + (x)" := by
  decide +kernel

end Session

end EscapeTime
