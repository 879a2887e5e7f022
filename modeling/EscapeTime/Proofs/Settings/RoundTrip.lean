import EscapeTime.Proofs.Settings.Tables

set_option autoImplicit false

namespace EscapeTime.Settings

open Toml

theorem parse?_render_without {settings : Settings} (writable : settings.Writable) (omitted : Entry → Bool) :
    parse? (settings.renderWithout omitted) = some (settings.settled.withStandard omitted) := by
  obtain ⟨shader, isShader, shaderBack⟩ := is_table_shader omitted writable
  obtain ⟨reading, isReading, readingBack⟩ := is_table_reading omitted settings
  obtain ⟨names, isNames, namesBack⟩ := is_table_names writable.keys writable.texts
  have front : Builds (shaderSection omitted settings ++ "\n" ++ readingSection omitted settings ++ "\n")
      [("shader", shader), ("parser", reading)] := by
    have first := (builds_nil.extend isShader rfl).blank
    rw [String.empty_append] at first
    exact (first.extend isReading rfl).blank
  have whole : Builds (settings.renderWithout omitted)
      ([("shader", shader), ("parser", reading)] ++ if omitted .names then [] else [("parameters", names)]) := by
    rw [render_without_eq]
    cases omitted .names with
    | true =>
        rw [without, if_pos rfl, if_pos rfl, String.append_empty]
        exact front
    | false => exact front.extend isNames rfl
  have unmarked : (settings.renderWithout omitted).toList.head? ≠ some '\ufeff' := by
    rw [render_without_eq]
    simp [shaderSection]
  have data : fieldData ([("shader", shader), ("parser", reading)] ++
        if omitted .names then [] else [("parameters", names)]) =
      [("shader", shader.datum), ("parser", reading.datum)] ++
        kept (omitted .names) [("parameters", names.datum)] := by
    cases omitted .names <;> rfl
  have all := (List.Sublist.refl [("shader", shader.datum), ("parser", reading.datum)]).append
    (kept_sublist (omitted .names) [("parameters", names.datum)])
  rw [parse?, whole.read unmarked, Option.bind_some, data]
  apply of_datum?_parts ((all.map (·.1)).nodup (by simp))
  · exact shaderBack
  · exact readingBack
  · exact part_of_lookup (by simp [List.lookup, lookup_kept]) fun _ => namesBack

theorem of_read_parsed {path text : String} {settings : Settings} (parsed : parse? text = some settings) :
    ofRead path (.ok text) = .ok settings := by
  change ofText path text = _
  rw [ofText, parsed]

theorem with_standard_none (settings : Settings) : settings.withStandard (fun _ => false) = settings :=
  rfl

theorem settled_number_iff (x : Float32) : Toml.settled x = x ↔ Binary.magnitude32 x ≠ Decimal.drifting := by
  constructor
  · intro same drifts
    have moved : ∀ negative,
        Binary.magnitude32 (Binary.ofMagnitude32 negative (Decimal.drifting + 1)) = Decimal.drifting + 1 := by
      decide
    have back := moved (Binary.isNegative32 x)
    rw [Toml.settled, drifts, Decimal.reread, if_pos rfl] at same
    rw [same, drifts] at back
    exact absurd back (by decide)
  · intro other
    rw [Toml.settled, Decimal.reread, if_neg other, Binary.of_magnitude32_magnitude32]

theorem settled_iff (settings : Settings) :
    settings.settled = settings ↔ ∀ x ∈ settings.numbers, Binary.magnitude32 x ≠ Decimal.drifting := by
  obtain ⟨⟨count, radius, palette, red, green, blue, alpha⟩, reading, names⟩ := settings
  simp [settled, numbers, Color.settled, settled_number_iff]

-- A saved file is loaded as the settings that were saved, with the standard value for every entry that was taken
-- out of it. Numbers are the same bit for bit, apart from `Decimal.drifting` with either sign: it is read in
-- double precision first, and is rounded twice.
theorem saved_settings_load (settings : Settings) (writable : settings.Writable) (path : String)
    (omitted : Entry → Bool) :
    settings.renderWithout (fun _ => false) = settings.render ∧
      ofRead path (.ok settings.render) = .ok settings.settled ∧
      ofRead path (.ok (settings.renderWithout omitted)) = .ok (settings.settled.withStandard omitted) ∧
      (settings.settled = settings ↔ ∀ x ∈ settings.numbers, Binary.magnitude32 x ≠ Decimal.drifting) := by
  have complete := render_without_none settings
  refine ⟨complete, ?_, of_read_parsed (parse?_render_without writable omitted), settled_iff settings⟩
  rw [← complete, of_read_parsed (parse?_render_without writable _), with_standard_none]

-- Settings with a palette of several lines, numbers at the ends of their range and a name in quotes.
def unusual : Settings where
  shader := {
    maxIterations := 0xffffffff
    escapeRadius := Float32.ofBits 0x7f800000
    palette := .custom "let x = '5';\n  return vec3(x);"
    interior := ⟨Float32.ofBits 0x80000000, Float32.ofBits 1, Float32.ofBits 0x7f7fffff, Float32.ofBits 0x3dcccccd⟩ }
  reading := ⟨.strict, .exponent⟩
  names := ⟨[("", "'"), ("a b", "\\n \""), ("x", "x")], by decide⟩

theorem unusual_writable : unusual.Writable where
  numbers := by decide
  keys := by decide
  texts := by decide
  palette := by
    rintro body ⟨⟩
    decide

theorem saved_settings_load_unusual :
    ofRead "fractal.toml" (.ok unusual.render) = .ok unusual ∧
      ofRead "fractal.toml" (.ok (unusual.renderWithout fun entry => entry = .palette || entry = .names)) =
        .ok (unusual.withStandard fun entry => entry = .palette || entry = .names) := by
  obtain ⟨_, whole, part, same⟩ := saved_settings_load unusual unusual_writable "fractal.toml"
    fun entry => entry = .palette || entry = .names
  rw [same.mpr (by decide)] at whole part
  exact ⟨whole, part⟩

theorem saved_radius_drifts :
    let settings : Settings :=
      { Settings.standard with shader := { ShaderSettings.standard with escapeRadius := Float32.ofBits 0x15ae43fd } }
    let drifted : Settings :=
      { Settings.standard with shader := { ShaderSettings.standard with escapeRadius := Float32.ofBits 0x15ae43fe } }
    settings.Writable ∧ ofRead "fractal.toml" (.ok settings.render) = .ok drifted ∧ drifted ≠ settings := by
  intro settings drifted
  have writable : settings.Writable := ⟨by decide, by decide, by decide, nofun⟩
  have loaded : ofRead "fractal.toml" _ = _ := of_read_parsed (parse?_render_without writable fun _ => false)
  rw [render_without_none, with_standard_none] at loaded
  have settled : settings.settled = drifted := by decide
  exact ⟨writable, settled ▸ loaded, by decide⟩

end EscapeTime.Settings
