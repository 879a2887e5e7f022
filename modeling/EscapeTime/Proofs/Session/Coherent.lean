import EscapeTime.Proofs.Session.Invariant

set_option autoImplicit false

namespace EscapeTime

theorem Variables.floats_length (table : Variables) : table.floats.length = 2 * table.size := by
  simp [floats, size, List.length_flatMap, List.map_const', Nat.mul_comm]

theorem pack_uniforms_length (frame : Frame) (table : Variables) :
    (packUniforms frame table).length = uniformLength table.size := by
  have filled : (frame.floats ++ table.floats).length = frameLength + 2 * table.size := by
    rw [List.length_append, table.floats_length]
    rfl
  have enough : frameLength + 2 * table.size ≤ uniformLength table.size := by
    unfold uniformLength frameLength
    omega
  simp only [packUniforms, List.length_append, List.length_replicate] at *
  omega

theorem Dictionary.get?_eq_none_iff (names : Dictionary) {name : String} :
    names.get? name = none ↔ ∀ entry ∈ names.entries, entry.1 ≠ name := by
  simp [get?, List.lookup_eq_none_iff, ne_comm]

namespace Session

-- The shader of a session is current: it is what two formulas over the current table give under the
-- current settings.
structure Current (session : Session) (shader : Shader) (initial step : Formula) : Prop where
  initialValid : initial.isValid = true
  stepValid : step.isValid = true
  named : session.table.names = Variables.firstOccurrences (initial.identifiers ++ step.identifiers)
  initialCode : (initial.code session.table).map Wgsl.Expr.render = .ok shader.initialCode
  stepCode : (step.code session.table).map Wgsl.Expr.render = .ok shader.stepCode
  source : shader.source =
    Wgsl.program session.settings.shader shader.initialCode shader.stepCode session.table
  length : shader.uniformLength = uniformLength session.table.size
  packed : ∀ frame, (session.packUniforms frame).length = shader.uniformLength

structure Coherent (session : Session) : Prop where
  distinct : session.table.names.Nodup
  numbered : ∀ (id : Nat) (entry : String × Slot), session.table.entries[id]? = some entry → entry.2.id = id
  free : ∀ name ∈ session.table.names, ∀ letter tail, name.toList = letter :: tail → letter ≠ '\\' →
    ∀ entry ∈ session.settings.names.entries, entry.1 ≠ name
  empty : session.shader = none → session.table.entries = []
  current : ∀ shader, session.shader = some shader → ∃ initial step, Current session shader initial step

theorem numbered_iff (table : Variables) :
    (∀ (id : Nat) (entry : String × Slot), table.entries[id]? = some entry → entry.2.id = id) ↔
      ∀ (id : Nat) (entry : String × Nat), table.layout[id]? = some entry → entry.2 = id := by
  simp only [Variables.layout, List.getElem?_map, Option.map_eq_some_iff]
  constructor
  · rintro numbered id entry ⟨slot, present, rfl⟩
    exact numbered id slot present
  · intro numbered id entry present
    exact numbered id (entry.1, entry.2.id) ⟨entry, present, rfl⟩

theorem new_coherent (settings : Settings) : Coherent (new settings) where
  distinct := .nil
  numbered := by simp [new, Variables.empty]
  free := by simp [new, Variables.empty, Variables.names]
  empty := fun _ => rfl
  current := by simp [new]

theorem identifier_variable {names : Dictionary} {tokens : List Token} {formula : Formula} {name : String}
    (written : Formula.Written tokens formula)
    (carried : ∀ token ∈ tokens, Markup.Carries names token.kind token.value)
    (member : name ∈ formula.identifiers) : Markup.Variable names name := by
  induction written with
  | unary _ _ ih => exact ih member
  | binary _ _ _ first second => exact (List.mem_append.mp member).elim first second
  | literal _ _ => cases member
  | symbol _ present =>
      simp only [Formula.identifiers] at member
      split at member
      · rename_i kind
        have carries := carried _ present
        rw [kind] at carries
        obtain ⟨text, value, named⟩ := carries
        rw [List.mem_singleton, Token.text, value] at member
        exact member ▸ named
      · cases member
  | invalid _ => cases member

theorem variable_free {names : Dictionary} {name : String} (named : Markup.Variable names name)
    {letter : Char} {tail : List Char} (starts : name.toList = letter :: tail) (plain : letter ≠ '\\') :
    ∀ entry ∈ names.entries, entry.1 ≠ name := by
  rcases named with ⟨rest, greek⟩ | ⟨-, missing⟩
  · exact absurd (List.cons.inj (starts.symm.trans greek)).1 plain
  · exact names.get?_eq_none_iff.mp missing

theorem renewed_free (settings : Settings) (table : Variables) (initial step : String) {name : String}
    (member : name ∈ (renewed settings table initial step).names) : Markup.Variable settings.names name := by
  rcases (renewed_covers settings table initial step name).mp member with named | named
  · exact identifier_variable (parsed_written settings initial) (fun _ => Markup.scan_carries) named
  · exact identifier_variable (parsed_written settings step) (fun _ => Markup.scan_carries) named

theorem compile_coherent {session changed : Session} {initial step : String}
    (done : session.compile initial step = .ok changed) : Coherent changed := by
  rw [compile_eq] at done
  rcases build_outcome session.settings session.table initial step with
    ⟨fine, initialCode, stepCode, made, stepMade, built⟩ | ⟨error, -, built⟩
  · rw [built] at done
    obtain rfl := Except.ok.inj done
    obtain ⟨-, initialFine, -, stepFine, -⟩ := by
      simpa only [firstFault, Option.or_eq_none_iff] using fine
    have named := Variables.names_carry session.table
      (Variables.first_occurrences_nodup ((parsed session.settings initial).tree.identifiers ++
        (parsed session.settings step).tree.identifiers))
    exact {
      distinct := Variables.distinct _
      numbered := by
        rw [numbered_iff]
        simp only [renewed, Variables.layout_carry]
        intro id entry present
        rw [List.getElem?_zipIdx] at present
        obtain ⟨name, -, rfl⟩ := Option.map_eq_some_iff.mp present
        exact Nat.zero_add id
      free := fun name member letter tail starts plain =>
        variable_free (renewed_free _ _ _ _ member) starts plain
      empty := fun missing => by cases missing
      current := by
        rintro shader ⟨⟩
        refine ⟨(parsed session.settings initial).tree, (parsed session.settings step).tree,
          parsed_is_valid initialFine, parsed_is_valid stepFine, named, ?_, ?_, rfl, rfl,
          fun frame => pack_uniforms_length frame _⟩
        · rw [made]
          rfl
        · rw [stepMade]
          rfl }
  · rw [built] at done
    cases done

-- What a session owes to its table it owes to the layout, so values may change freely.
theorem Coherent.relayout {session : Session} (coherent : Coherent session) {table : Variables}
    (same : table.layout = session.table.layout) : Coherent { session with table } := by
  have names : table.names = session.table.names := by rw [Variables.names_eq, same, ← Variables.names_eq]
  have size : table.size = session.table.size := by rw [Variables.size_eq, same, ← Variables.size_eq]
  refine ⟨table.distinct, ?_, ?_, ?_, ?_⟩
  · rw [numbered_iff, same, ← numbered_iff]
    exact coherent.numbered
  · simp only [names]
    exact coherent.free
  · intro missing
    have none : session.table.size = 0 := by rw [Variables.size, coherent.empty missing]; rfl
    exact List.eq_nil_of_length_eq_zero (size.trans none)
  · intro shader built
    obtain ⟨initial, step, current⟩ := coherent.current shader built
    refine ⟨initial, step, current.initialValid, current.stepValid, names.trans current.named, ?_, ?_, ?_, ?_, ?_⟩
    · rw [Formula.code_congr same]
      exact current.initialCode
    · rw [Formula.code_congr same]
      exact current.stepCode
    · rw [Wgsl.program_congr same]
      exact current.source
    · rw [size]
      exact current.length
    · intro frame
      rw [packUniforms, pack_uniforms_length, size]
      exact current.length.symm

theorem set_variable_coherent {session changed : Session} (coherent : Coherent session) {name : String}
    {real imag : Float32} (done : session.setVariable name real imag = .ok changed) : Coherent changed := by
  obtain ⟨only, set⟩ := set_variable_ok done
  rw [only]
  exact coherent.relayout (Variables.layout_set set)

theorem set_palette_coherent {session : Session} (coherent : Coherent session) (palette : Palette) :
    Coherent (session.setPalette palette) := by
  refine ⟨coherent.distinct, coherent.numbered, coherent.free, ?_, ?_⟩
  · intro missing
    exact coherent.empty (Option.map_eq_none_iff.mp missing)
  · intro shader built
    obtain ⟨old, kept, rfl⟩ := Option.map_eq_some_iff.mp built
    obtain ⟨initial, step, current⟩ := coherent.current old kept
    exact ⟨initial, step, current.initialValid, current.stepValid, current.named, current.initialCode,
      current.stepCode, rfl, current.length, current.packed⟩

theorem run_keeps_coherent {session : Session} (coherent : Coherent session) (operations : List Operation) :
    Coherent (session.run operations) :=
  run_keeps (fun done _ => compile_coherent done) (fun done coherent => set_variable_coherent coherent done)
    (fun palette coherent => set_palette_coherent coherent palette) coherent operations

theorem run_coherent (settings : Settings) (operations : List Operation) :
    Coherent ((new settings).run operations) :=
  run_keeps_coherent (new_coherent settings) operations

end Session

end EscapeTime
