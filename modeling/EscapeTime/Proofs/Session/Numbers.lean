import EscapeTime.Proofs.Session.Preset
import EscapeTime.Proofs.Wgsl.Range

set_option autoImplicit false

namespace EscapeTime.Session

structure Output (session : Session) (initial step : String) where
  shader : Shader
  initialExpr : Wgsl.Expr
  stepExpr : Wgsl.Expr
  radius : String
  current : session.shader = some shader
  initialMade : (parsed session.settings initial).tree.code session.table = .ok initialExpr
  stepMade : (parsed session.settings step).tree.code session.table = .ok stepExpr
  initialCode : shader.initialCode = initialExpr.render
  stepCode : shader.stepCode = stepExpr.render
  declared : Wgsl.declared? Wgsl.radiusStart shader.source.toList = some radius

def Output.literals {session : Session} {initial step : String} (output : Output session initial step) : List String :=
  output.initialExpr.numerals ++ output.stepExpr.numerals

theorem Output.literals_fit {session : Session} {initial step : String} (output : Output session initial step) :
    ∀ text ∈ output.literals, Wgsl.fitsSingle text = true := by
  intro text member
  rcases List.mem_append.mp member with member | member
  · exact Wgsl.code_fits output.initialMade text member
  · exact Wgsl.code_fits output.stepMade text member

theorem compile_shader {session changed : Session} {initial step : String}
    (done : session.compile initial step = .ok changed) :
    ∃ initialExpr stepExpr, (parsed session.settings initial).tree.code changed.table = .ok initialExpr ∧
      (parsed session.settings step).tree.code changed.table = .ok stepExpr ∧
      changed.shader = some (assemble session.settings.shader changed.table initialExpr.render stepExpr.render) := by
  rw [compile_eq] at done
  rcases build_outcome session.settings session.table initial step with
    ⟨-, initialExpr, stepExpr, initialMade, stepMade, built⟩ | ⟨error, -, built⟩
  · rw [built] at done
    obtain rfl := Except.ok.inj done
    exact ⟨initialExpr, stepExpr, initialMade, stepMade, rfl⟩
  · rw [built] at done
    cases done

section Radius

variable {session changed : Session} {initial step : String} (done : session.compile initial step = .ok changed)
  (finite : Binary.isFinite32 session.settings.shader.escapeRadius = true)

include done finite

theorem compile_output : Nonempty (Output changed initial step) := by
  obtain ⟨initialExpr, stepExpr, initialMade, stepMade, shown⟩ := compile_shader done
  have settings := (compile_ok done).1
  have bounded := (Wgsl.magnitude64_square (of_decide_eq_true finite)).1
  exact ⟨{
    shader := _
    initialExpr
    stepExpr
    radius := _
    current := shown
    initialMade := by rw [settings]; exact initialMade
    stepMade := by rw [settings]; exact stepMade
    initialCode := rfl
    stepCode := rfl
    declared := Wgsl.radius_declared _ _ _ _ (Wgsl.is_pointed_number bounded) }⟩

theorem output_radius (output : Output changed initial step) :
    output.radius = Wgsl.number (Binary.widen session.settings.shader.escapeRadius *
      Binary.widen session.settings.shader.escapeRadius) := by
  obtain ⟨initialExpr, stepExpr, -, -, shown⟩ := compile_shader done
  have bounded := (Wgsl.magnitude64_square (of_decide_eq_true finite)).1
  have read := Wgsl.radius_declared session.settings.shader initialExpr.render stepExpr.render changed.table
    (Wgsl.is_pointed_number bounded)
  have same := Option.some.inj (output.current.symm.trans shown)
  have declared := output.declared
  rw [same] at declared
  exact Option.some.inj (declared.symm.trans read)

end Radius

-- Every number of every compiled shader fits single precision exactly if the radius is below two to the
-- power of 64. The numbers of the formulas always fit, and the radius is a plain decimal in any case.
theorem compiled_numbers_fit_iff (settings : Settings)
    (finite : Binary.isFinite32 settings.shader.escapeRadius = true) :
    ((∀ session changed : Session, ∀ initial step, session.settings = settings →
        session.compile initial step = .ok changed → ∀ output : Output changed initial step,
          ∀ text ∈ output.radius :: output.literals, Wgsl.fitsSingle text = true) ↔
      Format.binary32.magnitude (Binary.magnitude32 settings.shader.escapeRadius) < 2 ^ 64) ∧
    ∀ session changed : Session, ∀ initial step, session.settings = settings →
      session.compile initial step = .ok changed → Nonempty (Output changed initial step) ∧
        ∀ output : Output changed initial step, Wgsl.isPointed output.radius = true ∧
          ∀ text ∈ output.literals, Wgsl.fitsSingle text = true := by
  have single : Binary.magnitude32 settings.shader.escapeRadius < Format.binary32.infinity := of_decide_eq_true finite
  refine ⟨⟨fun fits => ?_, fun small => ?_⟩, ?_⟩
  · obtain ⟨preset, member⟩ : ∃ preset, preset ∈ Preset.all := ⟨_, List.mem_cons_self ..⟩
    obtain ⟨compiled, done⟩ := preset_compiles (new settings) member
    obtain ⟨output⟩ := compile_output done finite
    have radius := fits _ compiled _ _ rfl done output output.radius (List.mem_cons_self ..)
    rw [output_radius done finite output] at radius
    exact (Wgsl.radius_fits_iff single).mp radius
  · rintro session changed initial step rfl done output text member
    rcases List.mem_cons.mp member with rfl | member
    · rw [output_radius done finite output]
      exact (Wgsl.radius_fits_iff single).mpr small
    · exact output.literals_fit text member
  · rintro session changed initial step rfl done
    refine ⟨compile_output done finite, fun output => ⟨?_, output.literals_fit⟩⟩
    rw [output_radius done finite output]
    exact Wgsl.is_pointed_number (Wgsl.magnitude64_square single).1

theorem compiled_numbers_fit_standard :
    Binary.isFinite32 Settings.standard.shader.escapeRadius = true ∧
    ∀ session changed : Session, ∀ initial step, session.settings = .standard →
      session.compile initial step = .ok changed → ∀ output : Output changed initial step,
        ∀ text ∈ output.radius :: output.literals, Wgsl.fitsSingle text = true := by
  have finite : Binary.isFinite32 Settings.standard.shader.escapeRadius = true := by decide +kernel
  refine ⟨finite, (compiled_numbers_fit_iff .standard finite).1.mpr ?_⟩
  have pattern : Binary.magnitude32 Settings.standard.shader.escapeRadius = 0x40000000 := by decide +kernel
  rw [pattern, Format.magnitude, show Format.binary32.significand 0x40000000 = 2 ^ 23 from rfl,
    show Format.binary32.exponent 0x40000000 = -22 from rfl]
  norm_num

-- The radius is a single-precision number, and its square is the first that is too large.
theorem compiled_radius_overflows :
    let radius := Float32.ofBits 0x5f800000
    let settings : Settings :=
      { Settings.standard with shader := { ShaderSettings.standard with escapeRadius := radius } }
    Binary.isFinite32 radius = true ∧ ∃ changed, (new settings).compile "0" "z" = .ok changed ∧
      ∃ output : Output changed "0" "z", output.radius = "340282366920938500000000000000000000000.0" ∧
        Wgsl.fitsSingle output.radius = false := by
  intro radius settings
  have finite : Binary.isFinite32 radius = true := by decide +kernel
  obtain ⟨changed, done⟩ : ∃ changed, (new settings).compile "0" "z" = .ok changed :=
    compile_done _ (by decide +kernel)
  obtain ⟨output⟩ := compile_output done finite
  have text : output.radius = "340282366920938500000000000000000000000.0" := by
    rw [output_radius done finite output]
    decide +kernel
  refine ⟨finite, changed, done, output, text, ?_⟩
  rw [text]
  decide +kernel

end EscapeTime.Session
