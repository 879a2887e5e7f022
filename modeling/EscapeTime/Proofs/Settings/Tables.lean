import EscapeTime.Proofs.Settings.Entries

set_option autoImplicit false

namespace EscapeTime.Settings

open Toml

inductive Entry where
  | maxIterations
  | escapeRadius
  | palette
  | interior
  | grouping
  | implicit
  | names
deriving DecidableEq

-- The text of a settings file in pieces. Headers and blank lines between the tables belong to no entry.
def pieces (settings : Settings) : List (Option Entry × String) :=
  [(none, line "[shader]"),
    (some .maxIterations, line ("max_iterations = " ++ toString settings.shader.maxIterations.toNat)),
    (some .escapeRadius, line ("escape_radius = " ++ Toml.number settings.shader.escapeRadius)),
    (some .palette, paletteLine settings.shader.palette),
    (some .interior, colorLines settings.shader.interior),
    (some .palette, paletteTable settings.shader.palette),
    (none, "\n"),
    (none, line "[parser]"),
    (some .grouping, line ("grouping = " ++ Toml.quoteValue settings.reading.grouping.name)),
    (some .implicit, line ("implicit_products = " ++ Toml.quoteValue settings.reading.implicit.name)),
    (none, "\n"),
    (some .names, namesText settings.names)]

def without (omitted : Bool) (text : String) : String :=
  if omitted then "" else text

def renderWithout (omitted : Entry → Bool) (settings : Settings) : String :=
  String.join (settings.pieces.map fun piece => without (piece.1.any omitted) piece.2)

def withStandard (omitted : Entry → Bool) (settings : Settings) : Settings where
  shader := {
    maxIterations :=
      if omitted .maxIterations then ShaderSettings.standard.maxIterations else settings.shader.maxIterations
    escapeRadius := if omitted .escapeRadius then ShaderSettings.standard.escapeRadius else settings.shader.escapeRadius
    palette := if omitted .palette then ShaderSettings.standard.palette else settings.shader.palette
    interior := if omitted .interior then ShaderSettings.standard.interior else settings.shader.interior }
  reading := {
    grouping := if omitted .grouping then ReadMode.standard.grouping else settings.reading.grouping
    implicit := if omitted .implicit then ReadMode.standard.implicit else settings.reading.implicit }
  names := if omitted .names then .standard else settings.names

def numbers (settings : Settings) : List Float32 :=
  let color := settings.shader.interior
  [settings.shader.escapeRadius, color.red, color.green, color.blue, color.alpha]

def settled (settings : Settings) : Settings :=
  { settings with
    shader := { settings.shader with
      escapeRadius := Toml.settled settings.shader.escapeRadius
      interior := settings.shader.interior.settled } }

-- Settings without numbers that are none, and with texts that need no escapes.
structure Writable (settings : Settings) : Prop where
  numbers : ∀ x ∈ settings.numbers, Binary.magnitude32 x ≤ Format.binary32.infinity
  keys : ∀ entry ∈ settings.names.entries, PlainKey entry.1
  texts : ∀ entry ∈ settings.names.entries, PlainText entry.2
  palette : ∀ body, settings.shader.palette = .custom body → PlainText body

theorem render_without_none (settings : Settings) : settings.renderWithout (fun _ => false) = settings.render := by
  apply String.toList_inj.mp
  simp [renderWithout, without, pieces, render, shaderText, readingText, String.join]

section Kept

def kept (omitted : Bool) (pairs : List (String × Datum)) : List (String × Datum) :=
  if omitted then [] else pairs

theorem kept_sublist (omitted : Bool) (pairs : List (String × Datum)) : (kept omitted pairs).Sublist pairs := by
  cases omitted
  · exact .refl _
  · exact List.nil_sublist _

theorem is_body_kept (omitted : Bool) {text : String} {pairs : List (String × Datum)} (isBody : IsBody text pairs) :
    IsBody (without omitted text) (kept omitted pairs) := by
  cases omitted
  · exact isBody
  · exact is_body_nil

theorem is_body_line (key label : String) {text : String} {datum : Datum} (bare : IsBare key)
    (layout : label = key ++ " = ") (isValue : IsValue text.toList datum) :
    IsBody (line (label ++ text)) [(key, datum)] :=
  (is_statement_line bare layout isValue).document

variable {α : Type} {key name : String} {datum : Datum} {decode : Datum → Option α} {value standard : α}
  {fields : List (String × Datum)}

theorem lookup_kept (omitted : Bool) :
    (kept omitted [(name, datum)]).lookup key = if key = name then if omitted then none else some datum else none := by
  by_cases same : key = name
  · cases omitted <;> simp [kept, same]
  · have different : (key == name) = false := beq_eq_false_iff_ne.mpr same
    cases omitted <;> simp [kept, List.lookup, same, different]

theorem part_of_lookup {omitted : Bool} (found : fields.lookup key = if omitted then none else some datum)
    (decoded : omitted = false → decode datum = some value) :
    part fields key decode standard = some (if omitted then standard else value) := by
  rw [part, found]
  cases omitted with
  | true => rfl
  | false => exact decoded rfl

theorem record?_table (dialect : Dialect) (keys : List String) (distinct : (fields.map (·.1)).Nodup) :
    record? dialect keys (.table fields) = some fields := by
  have once : ∀ key, (fields.filter fun field => decide (field.1 = key)).length ≤ 1 := by
    intro key
    have count : (fields.filter fun field => decide (field.1 = key)).length = (fields.map (·.1)).count key := by
      rw [← List.countP_eq_length_filter, List.count, List.countP_map]
      rfl
    rw [count]
    exact List.nodup_iff_count_le_one.mp distinct key
  simp [record?, once]

end Kept

section Decoders

variable {fields : List (String × Datum)} (distinct : (fields.map (·.1)).Nodup)
include distinct

theorem shader?_parts {count : UInt32} {radius : Float32} {palette : Palette} {interior : Color}
    (countPart : part fields "max_iterations" count? ShaderSettings.standard.maxIterations = some count)
    (radiusPart : part fields "escape_radius" single? ShaderSettings.standard.escapeRadius = some radius)
    (palettePart : part fields "color_map" (palette? .toml) ShaderSettings.standard.palette = some palette)
    (interiorPart : part fields "non_escape_color" (color? .toml) ShaderSettings.standard.interior = some interior) :
    shader? .toml (.table fields) = some ⟨count, radius, palette, interior⟩ := by
  simp [shader?, record?_table _ _ distinct, countPart, radiusPart, palettePart, interiorPart]

theorem reading?_parts {grouping : Grouping} {implicit : ImplicitFactor}
    (groupingPart : part fields "grouping" (choice? .toml Grouping.ofName?) ReadMode.standard.grouping = some grouping)
    (implicitPart :
      part fields "implicit_products" (choice? .toml ImplicitFactor.ofName?) ReadMode.standard.implicit = some implicit) :
    reading? .toml (.table fields) = some ⟨grouping, implicit⟩ := by
  simp [reading?, record?_table _ _ distinct, groupingPart, implicitPart]

theorem of_datum?_parts {shader : ShaderSettings} {reading : ReadMode} {names : Dictionary}
    (shaderPart : part fields "shader" (shader? .toml) .standard = some shader)
    (readingPart : part fields "parser" (reading? .toml) .standard = some reading)
    (namesPart : part fields "parameters" (parameters? .toml) .standard = some names) :
    ofDatum? .toml (.table fields) = some ⟨shader, reading, names⟩ := by
  simp [ofDatum?, record?_table _ _ distinct, shaderPart, readingPart, namesPart]

end Decoders

section Sections

def IsTable {α : Type} (text key : String) (decode : Datum → Option α) (value : α) : Prop :=
  ∃ node, IsSection text key node ∧ decode node.datum = some value

variable (omitted : Entry → Bool) (settings : Settings)

def shaderLines : String :=
  without (omitted .maxIterations) (line ("max_iterations = " ++ toString settings.shader.maxIterations.toNat)) ++
    without (omitted .escapeRadius) (line ("escape_radius = " ++ Toml.number settings.shader.escapeRadius)) ++
    without (omitted .palette) (paletteLine settings.shader.palette) ++
    without (omitted .interior) (colorLines settings.shader.interior)

def shaderSection : String :=
  "[" ++ "shader" ++ "]\n" ++ shaderLines omitted settings ++
    without (omitted .palette) (paletteTable settings.shader.palette)

def readingSection : String :=
  "[" ++ "parser" ++ "]\n" ++
    (without (omitted .grouping) (line ("grouping = " ++ quoteValue settings.reading.grouping.name)) ++
      without (omitted .implicit) (line ("implicit_products = " ++ quoteValue settings.reading.implicit.name)))

theorem render_without_eq :
    settings.renderWithout omitted =
      shaderSection omitted settings ++ "\n" ++ readingSection omitted settings ++ "\n" ++
        without (omitted .names) (namesText settings.names) := by
  have present : ∀ text, without (Option.any omitted none) text = text := fun _ => rfl
  apply String.toList_inj.mp
  simp only [renderWithout, pieces, List.map_cons, List.map_nil, present, Option.any_some, String.join, List.foldl_cons,
    List.foldl_nil, shaderSection, shaderLines, readingSection, String.toList_append, List.append_assoc]
  simp [line]

theorem is_table_reading :
    IsTable (readingSection omitted settings) "parser" (reading? .toml) (settings.withStandard omitted).reading := by
  obtain ⟨grouping, groupingValue, groupingBack⟩ := denotes_grouping settings.reading.grouping
  obtain ⟨implicit, implicitValue, implicitBack⟩ := denotes_implicit settings.reading.implicit
  have isBody :=
    (is_body_kept (omitted .grouping) (is_body_line "grouping" "grouping = " (by decide) rfl groupingValue)).append
      (is_body_kept (omitted .implicit)
        (is_body_line "implicit_products" "implicit_products = " (by decide) rfl implicitValue))
  have all := (kept_sublist (omitted .grouping) [("grouping", grouping)]).append
    (kept_sublist (omitted .implicit) [("implicit_products", implicit)])
  have distinct := (all.map (·.1)).nodup (by simp)
  refine ⟨_, is_section_table (by decide) isBody distinct, ?_⟩
  rw [Node.datum, field_data_values]
  apply reading?_parts distinct
  · exact part_of_lookup (by simp [List.lookup_append, lookup_kept]) fun _ => groupingBack
  · exact part_of_lookup (by simp [List.lookup_append, lookup_kept]) fun _ => implicitBack

def shaderPairs (count radius interior : Datum) (palette : List (String × Datum)) : List (String × Datum) :=
  kept (omitted .maxIterations) [("max_iterations", count)] ++
    kept (omitted .escapeRadius) [("escape_radius", radius)] ++ palette ++
    kept (omitted .interior) [("non_escape_color", interior)]

theorem shader_pairs_sublist (count radius interior : Datum) {palette complete : List (String × Datum)}
    (isPart : palette.Sublist complete) :
    ((shaderPairs omitted count radius interior palette).map (·.1)).Sublist
      (["max_iterations", "escape_radius"] ++ complete.map (·.1) ++ ["non_escape_color"]) := by
  have all := (((kept_sublist (omitted .maxIterations) [("max_iterations", count)]).append
    (kept_sublist (omitted .escapeRadius) [("escape_radius", radius)])).append isPart).append
    (kept_sublist (omitted .interior) [("non_escape_color", interior)])
  simpa [shaderPairs] using all.map (·.1)

variable {settings}

-- The entry for the palette may come behind the others.
theorem shader?_pairs {count radius interior : Datum} {before after : List (String × Datum)}
    (countBack : count? count = some settings.shader.maxIterations)
    (radiusBack : single? radius = some settings.settled.shader.escapeRadius)
    (interiorBack : color? .toml interior = some settings.settled.shader.interior)
    (distinct : ((shaderPairs omitted count radius interior before ++ after).map (·.1)).Nodup)
    (only : ∀ pair ∈ before ++ after, pair.1 = "color_map")
    (palettePart : part (before ++ after) "color_map" (palette? .toml) ShaderSettings.standard.palette =
      some (settings.withStandard omitted).shader.palette) :
    shader? .toml (.table (shaderPairs omitted count radius interior before ++ after)) =
      some (settings.settled.withStandard omitted).shader := by
  have absent : ∀ key, key ≠ "color_map" → before.lookup key = none ∧ after.lookup key = none := by
    intro key other
    have missing : (before ++ after).lookup key = none :=
      List.lookup_eq_none_iff.mpr fun pair member => bne_iff_ne.mpr fun same => other (same.trans (only pair member))
    rwa [List.lookup_append, Option.or_eq_none_iff] at missing
  apply shader?_parts distinct
  · refine part_of_lookup ?_ fun _ => countBack
    simp [shaderPairs, List.lookup_append, lookup_kept, absent]
  · refine part_of_lookup ?_ fun _ => radiusBack
    simp [shaderPairs, List.lookup_append, lookup_kept, absent]
  · refine Eq.trans ?_ palettePart
    rw [part, part]
    simp [shaderPairs, List.lookup_append, lookup_kept]
  · refine part_of_lookup ?_ fun _ => interiorBack
    simp [shaderPairs, List.lookup_append, lookup_kept, absent]

theorem palette_inline (inline : omitted .palette = true ∨ ∀ body, settings.shader.palette ≠ .custom body) :
    without (omitted .palette) (paletteTable settings.shader.palette) = "" ∧
      ∃ datum, IsBody (without (omitted .palette) (paletteLine settings.shader.palette))
          (kept (omitted .palette) [("color_map", datum)]) ∧
        (omitted .palette = false → palette? .toml datum = some settings.shader.palette) := by
  rcases inline with gone | known
  · rw [gone]
    exact ⟨rfl, .null, is_body_nil, nofun⟩
  · obtain ⟨datum, isValue, back⟩ := denotes_palette known
    have written : paletteTable settings.shader.palette = "" ∧
        paletteLine settings.shader.palette = line ("color_map = " ++ quoteValue settings.shader.palette.name) := by
      rcases same : settings.shader.palette with _ | _ | _ | body
      case custom => exact absurd same (known body)
      all_goals exact ⟨rfl, rfl⟩
    rw [written.1, written.2]
    exact ⟨ite_self _, datum, is_body_kept _ (is_body_line "color_map" "color_map = " (by decide) rfl isValue), fun _ => back⟩

section Writable

variable (writable : settings.Writable)
include writable

theorem shader_lines {palette : List (String × Datum)}
    (paletteBody : IsBody (without (omitted .palette) (paletteLine settings.shader.palette)) palette) :
    ∃ count radius interior,
      IsBody (shaderLines omitted settings) (shaderPairs omitted count radius interior palette) ∧
      count? count = some settings.shader.maxIterations ∧
      single? radius = some settings.settled.shader.escapeRadius ∧
      color? .toml interior = some settings.settled.shader.interior := by
  obtain ⟨count, countValue, countBack⟩ := denotes_count settings.shader.maxIterations
  obtain ⟨radius, radiusValue, radiusBack⟩ := denotes_number (writable.numbers _ (List.mem_cons_self ..))
  obtain ⟨interior, interiorValue, interiorBack⟩ :=
    denotes_color fun x member => writable.numbers x (List.mem_cons_of_mem _ member)
  refine ⟨count, radius, interior, ?_, countBack, radiusBack, interiorBack⟩
  have countBody := is_body_line "max_iterations" "max_iterations = " (by decide) rfl countValue
  have radiusBody := is_body_line "escape_radius" "escape_radius = " (by decide) rfl radiusValue
  have interiorBody := is_body_line "non_escape_color" "non_escape_color = " (by decide) rfl interiorValue
  rw [← color_lines_eq] at interiorBody
  exact (((is_body_kept _ countBody).append (is_body_kept _ radiusBody)).append paletteBody).append
    (is_body_kept _ interiorBody)

theorem is_table_shader_inline (inline : omitted .palette = true ∨ ∀ body, settings.shader.palette ≠ .custom body) :
    IsTable (shaderSection omitted settings) "shader" (shader? .toml) (settings.settled.withStandard omitted).shader := by
  obtain ⟨noTable, palette, paletteBody, paletteBack⟩ := palette_inline omitted inline
  obtain ⟨count, radius, interior, isBody, countBack, radiusBack, interiorBack⟩ :=
    shader_lines omitted writable paletteBody
  have all := shader_pairs_sublist omitted count radius interior (kept_sublist (omitted .palette) [("color_map", palette)])
  have distinct := all.nodup (by simp)
  rw [shaderSection, noTable, String.append_empty]
  refine ⟨_, is_section_table (by decide) isBody distinct, ?_⟩
  rw [Node.datum, field_data_values, ← List.append_nil (shaderPairs ..)]
  refine shader?_pairs omitted countBack radiusBack interiorBack ?_ ?_ ?_
  · rwa [List.append_nil]
  · intro pair member
    rw [List.append_nil] at member
    rw [List.mem_singleton.mp ((kept_sublist ..).mem member)]
  · rw [List.append_nil]
    exact part_of_lookup (by simp [lookup_kept]) paletteBack

-- A custom palette has a table of its own behind the lines.
theorem is_table_shader_custom {body : String} (present : omitted .palette = false)
    (custom : settings.shader.palette = .custom body) :
    IsTable (shaderSection omitted settings) "shader" (shader? .toml) (settings.settled.withStandard omitted).shader := by
  have noLine : IsBody (without (omitted .palette) (paletteLine settings.shader.palette)) [] := by
    rw [custom, present]
    exact is_body_nil
  obtain ⟨count, radius, interior, isBody, countBack, radiusBack, interiorBack⟩ :=
    shader_lines omitted writable noLine
  have all := shader_pairs_sublist omitted count radius interior (.refl [])
  have fresh : "color_map" ∉ _ := fun member => absurd (all.mem member) (by simp)
  have lines := is_body_line "custom" "custom = " (by decide) rfl (is_value_text (writable.palette body custom))
  have layout : without (omitted .palette) (paletteTable settings.shader.palette) =
      "\n[" ++ "shader" ++ "." ++ "color_map" ++ "]\n" ++ line ("custom = " ++ quoteValue body) := by
    rw [present, custom]
    apply String.toList_inj.mp
    simp [without, paletteTable, line]
  have isSection : IsSection _ "shader" _ :=
    is_section_nested (by decide) isBody (all.nodup (by simp)) (by decide) fresh lines (by simp)
  simp only [String.append_assoc] at isSection
  rw [shaderSection, layout]
  simp only [String.append_assoc]
  refine ⟨_, isSection, ?_⟩
  rw [Node.datum, field_data_append, field_data_values]
  refine shader?_pairs omitted countBack radiusBack interiorBack ?_ ?_ ?_
  · rw [List.map_append]
    exact (all.append (.refl ["color_map"])).nodup (by simp)
  · intro pair member
    rw [List.mem_singleton.mp member]
  · have loaded : (settings.withStandard omitted).shader.palette = .custom body := by
      rw [withStandard, present, custom]
      rfl
    rw [loaded]
    rfl

theorem is_table_shader :
    IsTable (shaderSection omitted settings) "shader" (shader? .toml) (settings.settled.withStandard omitted).shader := by
  by_cases inline : omitted .palette = true ∨ ∀ body, settings.shader.palette ≠ .custom body
  · exact is_table_shader_inline omitted writable inline
  · push Not at inline
    obtain ⟨present, body, custom⟩ := inline
    exact is_table_shader_custom omitted writable (Bool.eq_false_iff.mpr present) custom

end Writable

section Names

def nameLines (entries : List (String × String)) : String :=
  String.join (entries.map fun entry => line (quoteKey entry.1 ++ " = " ++ quoteValue entry.2))

def namePairs (entries : List (String × String)) : List (String × Datum) :=
  entries.map fun entry => (entry.1, .text entry.2)

theorem is_body_names {entries : List (String × String)} (keys : ∀ entry ∈ entries, PlainKey entry.1)
    (texts : ∀ entry ∈ entries, PlainText entry.2) : IsBody (nameLines entries) (namePairs entries) := by
  induction entries with
  | nil => exact is_body_nil
  | cons entry entries ih =>
      have first : IsBody (line (quoteKey entry.1 ++ " = " ++ quoteValue entry.2)) [(entry.1, .text entry.2)] :=
        (is_statement_name (keys entry (List.mem_cons_self ..))
          (is_value_text (texts entry (List.mem_cons_self ..)))).document
      have rest := ih (fun entry member => keys entry (List.mem_cons_of_mem _ member))
        fun entry member => texts entry (List.mem_cons_of_mem _ member)
      have joined : nameLines (entry :: entries) =
          line (quoteKey entry.1 ++ " = " ++ quoteValue entry.2) ++ nameLines entries := by
        rw [nameLines, List.map_cons, String.join_cons]
        rfl
      rw [joined]
      exact first.append rest

theorem texts?_name_pairs (entries : List (String × String)) : texts? (namePairs entries) = some entries := by
  induction entries with
  | nil => rfl
  | cons entry entries ih =>
      rw [namePairs] at ih ⊢
      rw [List.map_cons, texts?, ih]
      rfl

theorem names_distinct (names : Dictionary) : ((namePairs names.entries).map (·.1)).Nodup := by
  rw [namePairs, List.map_map]
  exact List.pairwise_map.mpr (names.ordered.imp fun before => before.ne)

theorem is_table_names (keys : ∀ entry ∈ settings.names.entries, PlainKey entry.1)
    (texts : ∀ entry ∈ settings.names.entries, PlainText entry.2) :
    IsTable (namesText settings.names) "parameters" (parameters? .toml) settings.names := by
  have layout : namesText settings.names =
      "[" ++ "parameters" ++ "." ++ "names" ++ "]\n" ++ nameLines settings.names.entries := rfl
  rw [layout]
  refine ⟨_, is_section_implied (by decide) (by decide) (is_body_names keys texts) (names_distinct _), ?_⟩
  have decoded : names? (.table (namePairs settings.names.entries)) = some settings.names := by
    rw [names?, texts?_name_pairs, Option.map_some, Dictionary.of_list_entries]
  simp [Node.datum, fieldData, field_data_values, parameters?, record?, part, decoded]

end Names

end Sections

end EscapeTime.Settings
