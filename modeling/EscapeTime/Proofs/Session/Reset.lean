import EscapeTime.Proofs.Session.Independence
import EscapeTime.Proofs.Session.Preset

set_option autoImplicit false

namespace EscapeTime

namespace Variables

theorem value?_entry {table : Variables} {k : Nat} {name : String} {slot : Slot}
    (entry : table.entries[k]? = some (name, slot)) : table.value? name = some slot.value := by
  have found := table.mem_entries_iff.mp (List.mem_of_getElem? entry)
  rw [value?, found, Option.map_some]

-- A table has nothing besides its layout and the values of its names.
theorem eq_of_values {table other : Variables} (layout : table.layout = other.layout)
    (values : ∀ name ∈ table.names, table.value? name = other.value? name) : table = other := by
  refine Variables.ext (List.ext_getElem? fun k => ?_)
  have placed := congrArg (·[k]?) layout
  simp only [Variables.layout, List.getElem?_map] at placed
  cases first : table.entries[k]? with
  | none =>
      rw [first] at placed
      exact (Option.map_eq_none_iff.mp placed.symm).symm
  | some entry =>
      obtain ⟨name, slot⟩ := entry
      rw [first] at placed
      obtain ⟨⟨otherName, otherSlot⟩, second, same⟩ := Option.map_eq_some_iff.mp placed.symm
      obtain ⟨rfl, id⟩ := Prod.mk.inj same
      have member : otherName ∈ table.names := List.mem_map_of_mem (List.mem_of_getElem? first)
      have value := values otherName member
      rw [value?_entry first, value?_entry second, Option.some.injEq] at value
      obtain ⟨real, imag⟩ := Prod.mk.inj value
      obtain rfl : otherSlot = slot := Slot.ext id real.symm imag.symm
      exact second.symm

end Variables

namespace Session

theorem seed_layout (session : Session) (seeds : List Seed) :
    (session.seed seeds).session.table.layout = session.table.layout :=
  seed_keeps (fun done same => (Variables.layout_set (set_variable_ok done).2).trans same) rfl seeds

theorem seed_value_other {session : Session} {seeds : List Seed} {name : String}
    (unseeded : name ∉ seeds.map Seed.name) :
    (session.seed seeds).session.table.value? name = session.table.value? name := by
  induction seeds generalizing session with
  | nil => rfl
  | cons first rest ih =>
      rw [List.map_cons, List.mem_cons, not_or] at unseeded
      rw [seed]
      cases done : session.setVariable first.name first.real first.imag with
      | ok changed =>
          have set := Variables.value?_set (set_variable_ok done).2 name
          rw [if_neg unseeded.1] at set
          exact (ih unseeded.2).trans set
      | error error => rfl

theorem seed_value {session : Session} {seeds : List Seed} (distinct : (seeds.map Seed.name).Nodup)
    (fine : (session.seed seeds).error = none) {seed : Seed} (member : seed ∈ seeds) :
    (session.seed seeds).session.table.value? seed.name = some (seed.real, seed.imag) := by
  induction seeds generalizing session with
  | nil => cases member
  | cons first rest ih =>
      obtain ⟨once, distinct⟩ := List.nodup_cons.mp distinct
      rw [Session.seed] at fine ⊢
      cases done : session.setVariable first.name first.real first.imag with
      | ok changed =>
          rw [done] at fine
          rcases List.mem_cons.mp member with rfl | later
          · have set := Variables.value?_set (set_variable_ok done).2 seed.name
            rw [if_pos rfl] at set
            exact (seed_value_other once).trans set
          · exact ih distinct fine later
      | error error =>
          rw [done] at fine
          cases fine

theorem compile_like_fresh {session compiled fresh : Session} {initial step : String}
    (done : session.compile initial step = .ok compiled)
    (freshDone : (new session.settings).compile initial step = .ok fresh) :
    compiled.table.layout = fresh.table.layout ∧ compiled.shader = fresh.shader := by
  rw [compile_eq] at done freshDone
  rcases build_independent session.settings session.table (new session.settings).table initial step with
    ⟨error, built, -⟩ | ⟨shader, built, freshBuilt⟩
  · rw [built] at done
    cases done
  · rw [built] at done
    rw [show (new session.settings).settings = session.settings from rfl, freshBuilt] at freshDone
    obtain rfl := Except.ok.inj done
    obtain rfl := Except.ok.inj freshDone
    exact ⟨renewed_layout .., rfl⟩

-- The names of a preset's formulas are the names that it gives values to.
theorem presets_seeded : ∀ mode ∈ ReadMode.all, ∀ preset ∈ Preset.all,
    Variables.firstOccurrences ((parsed ⟨.standard, mode, .standard⟩ preset.initial).tree.identifiers ++
        (parsed ⟨.standard, mode, .standard⟩ preset.step).tree.identifiers) =
      preset.seeds.map Seed.name := by
  decide +kernel

theorem preset_table {session compiled : Session} (standard : session.settings.names = .standard) {preset : Preset}
    (member : preset ∈ Preset.all) (done : session.compile preset.initial preset.step = .ok compiled) :
    compiled.table.names = preset.seeds.map Seed.name := by
  have settled : ∀ markup, parsed session.settings markup =
      parsed ⟨.standard, session.settings.reading, .standard⟩ markup := by
    intro markup
    rw [parsed, standard]
    rfl
  rw [(compile_ok done).2.1, renewed, Variables.names_carry, settled, settled]
  exact presets_seeded _ session.settings.reading.mem_all preset member

theorem find_preset {preset : Preset} (member : preset ∈ Preset.all) : Preset.find preset.name = .ok preset := by
  have distinct : (Preset.all.map Preset.name).Nodup := by decide
  rcases find_cases preset.name with ⟨-, absent⟩ | ⟨other, otherMember, named, found⟩
  · exact absurd rfl (absent preset member)
  · rw [found, List.inj_on_of_nodup_map distinct otherMember member named]

theorem apply_preset_eq {session compiled : Session} {preset : Preset} (member : preset ∈ Preset.all)
    (done : session.compile preset.initial preset.step = .ok compiled) :
    session.applyPreset preset.name = compiled.seed preset.seeds := by
  simp only [apply_preset_seed, find_preset member, done]

theorem apply_preset_done {session : Session} (standard : session.settings.names = .standard) {preset : Preset}
    (member : preset ∈ Preset.all) :
    (session.applyPreset preset.name).error = none ∧
    (session.applyPreset preset.name).session.shader ≠ none ∧
    (session.applyPreset preset.name).session.table.names = preset.seeds.map Seed.name ∧
    ∀ seed ∈ preset.seeds, (session.applyPreset preset.name).session.table.value? seed.name =
      some (seed.real, seed.imag) := by
  have distinct : ∀ preset ∈ Preset.all, (preset.seeds.map Seed.name).Nodup := by decide
  obtain ⟨compiled, done⟩ := preset_compiles session member
  have names := preset_table standard member done
  have fine : (compiled.seed preset.seeds).error = none :=
    seed_done fun seed seeded => names ▸ List.mem_map_of_mem seeded
  rw [apply_preset_eq member done, seed_shader, Variables.names_eq, seed_layout, ← Variables.names_eq]
  exact ⟨fine, (compile_ok done).2.2, names, fun seed seeded => seed_value (distinct preset member) fine seeded⟩

theorem apply_preset_like_fresh (session : Session) {preset : Preset} (member : preset ∈ Preset.all) :
    (session.applyPreset preset.name).session.table.layout =
        ((new session.settings).applyPreset preset.name).session.table.layout ∧
      (session.applyPreset preset.name).session.shader =
        ((new session.settings).applyPreset preset.name).session.shader := by
  obtain ⟨compiled, done⟩ := preset_compiles session member
  obtain ⟨fresh, freshDone⟩ := preset_compiles (new session.settings) member
  obtain ⟨layout, shader⟩ := compile_like_fresh done freshDone
  rw [apply_preset_eq member done, apply_preset_eq member freshDone]
  rw [seed_layout, seed_layout, seed_shader, seed_shader]
  exact ⟨layout, shader⟩

-- After a preset a session has the names and the values of the preset and no others, and it is the session
-- that the preset gives where nothing was done before.
theorem apply_preset_leaves_no_trace (shader : ShaderSettings) (reading : ReadMode) (session : Session)
    (reachable : Reachable ⟨shader, reading, .standard⟩ session) (preset : Preset) (member : preset ∈ Preset.all) :
    (session.applyPreset preset.name).error = none ∧
    (session.applyPreset preset.name).session.shader ≠ none ∧
    (session.applyPreset preset.name).session.table.names = preset.seeds.map Seed.name ∧
    (∀ seed ∈ preset.seeds, (session.applyPreset preset.name).session.table.value? seed.name =
      some (seed.real, seed.imag)) ∧
    session.applyPreset preset.name = (new session.settings).applyPreset preset.name := by
  have standard : session.settings.names = .standard := reachable.names
  obtain ⟨fine, present, names, values⟩ := apply_preset_done standard member
  have freshStandard : (new session.settings).settings.names = .standard := standard
  obtain ⟨freshFine, -, -, freshValues⟩ := apply_preset_done freshStandard member
  obtain ⟨layout, current⟩ := apply_preset_like_fresh session member
  refine ⟨fine, present, names, values, Outcome.ext (Session.ext ?_ ?_ current) (fine.trans freshFine.symm)⟩
  · rw [apply_preset_settings, apply_preset_settings]
    rfl
  · refine Variables.eq_of_values layout fun name among => ?_
    rw [names, List.mem_map] at among
    obtain ⟨seed, seeded, rfl⟩ := among
    rw [values seed seeded, freshValues seed seeded]

-- The name `a` stays in the table with its old value until the preset sets it, and `b` is dropped.
theorem apply_preset_leaves_no_trace_reused :
    let session := (new .standard).run [.compile "b" "z^2+ab", .setVariable "a" 0.5 0.25, .setPalette .green]
    session.table.value? "a" = some (0.5, 0.25) ∧
      (session.applyPreset "star-julia").session.table.names = ["a"] ∧
      (session.applyPreset "star-julia").session.table.value? "a" = some (0.765, 0.535) ∧
      session.applyPreset "star-julia" = (new session.settings).applyPreset "star-julia" := by
  intro session
  have star := apply_preset_leaves_no_trace .standard .standard session ⟨_, rfl⟩
    ⟨"star-julia", "x", "z^5 + a", [⟨"a", 0.765, 0.535⟩]⟩ (by decide)
  obtain ⟨-, -, names, values, same⟩ := star
  exact ⟨by decide +kernel, names, values _ (List.mem_singleton.mpr rfl), same⟩

end Session

end EscapeTime
