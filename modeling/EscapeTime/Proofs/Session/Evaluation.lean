import EscapeTime.Proofs.Formula.Environment
import EscapeTime.Proofs.Formula.Modes
import EscapeTime.Proofs.Formula.Preservation
import EscapeTime.Proofs.Markup.Segmentation
import EscapeTime.Proofs.Session.Compile

set_option autoImplicit false

namespace EscapeTime

namespace Formula

open Environment

def unvalued (names : Dictionary) (formula : Formula) : Option String :=
  formula.parameters.find? fun text => !names.givesValue text

theorem unary_value_ok {kind : Kind} (unary : kind.isUnary = true) (inner : Complex) :
    ∃ value, unaryValue kind inner = .ok value := by
  unfold unaryValue
  cases kind <;> simp_all [Kind.isUnary, Kind.isFunction]

theorem binary_value_ok {kind : Kind} (binary : kind.isBinary = true) (left right : Complex) :
    ∃ value, binaryValue left kind right = .ok value := by
  unfold binaryValue
  cases kind <;> simp_all [Kind.isBinary]

theorem literal_value_ok {names : Dictionary} {value : Token} (literal : value.kind.isLiteral = true)
    (carries : Markup.Carries names value.kind value.value) : ∃ number, literalValue value = .ok number := by
  obtain ⟨number, read⟩ := literal_reads literal carries
  exact ⟨_, by rw [literalValue, read]⟩

theorem symbol_value_outcome (names : Dictionary) {table : Variables} {name : Token} (point : Point)
    (named : name.kind.isName = true) (covered : ∀ text ∈ (symbol name).identifiers, text ∈ table.names) :
    ((symbol name).unvalued names = none ∧ ∃ value, symbolValue (ofPoint table names point) name = .ok value) ∨
      ∃ text, (symbol name).unvalued names = some text ∧
        symbolValue (ofPoint table names point) name = .error (.unbound text) := by
  rcases (Kind.is_name_iff _).mp named with kind | kind
  · have member := covered name.text (by simp [identifiers, kind])
    obtain ⟨slot, found⟩ := Option.isSome_iff_exists.mp (Variables.get?_is_some.mpr member)
    refine .inl ⟨by simp [unvalued, parameters, kind], ⟨Binary.widen slot.real, Binary.widen slot.imag⟩, ?_⟩
    rw [symbolValue, if_neg (by simp [kind]), of_point_table, found]
  · have valued := of_point_is_some table names point name.text
    rw [symbolValue, if_pos kind]
    cases found : (ofPoint table names point).parameter? name.text with
    | some value =>
        rw [found] at valued
        exact .inl ⟨by simp [unvalued, parameters, kind, valued.mp rfl], value, rfl⟩
    | none =>
        rw [found] at valued
        exact .inr ⟨name.text, by simp [unvalued, parameters, kind, ← valued], rfl⟩

-- Operands have their values before their operator and the left one first, so evaluation stops at the
-- leftmost parameter without a value.
theorem value_outcome {names : Dictionary} {tokens : List Token} {table : Variables} {formula : Formula}
    (point : Point) (written : Written tokens formula)
    (carried : ∀ token ∈ tokens, Markup.Carries names token.kind token.value)
    (valid : formula.isValid = true) (covered : ∀ name ∈ formula.identifiers, name ∈ table.names) :
    (formula.unvalued names = none ∧ ∃ value, formula.value (ofPoint table names point) = .ok value) ∨
      ∃ text, formula.unvalued names = some text ∧
        formula.value (ofPoint table names point) = .error (.unbound text) := by
  induction written with
  | unary kind _ ih =>
      rcases ih valid covered with ⟨bound, inner, made⟩ | ⟨text, missing, made⟩
      · obtain ⟨value, done⟩ := unary_value_ok kind inner
        exact .inl ⟨bound, value, by rw [Formula.value, made]; exact done⟩
      · exact .inr ⟨text, missing, by rw [Formula.value, made]; rfl⟩
  | binary kind _ _ first second =>
      obtain ⟨leftValid, rightValid⟩ := Bool.and_eq_true_iff.mp valid
      rcases first leftValid fun name member => covered name (List.mem_append_left _ member) with
        ⟨leftBound, left, leftMade⟩ | ⟨text, missing, made⟩
      · rcases second rightValid fun name member => covered name (List.mem_append_right _ member) with
          ⟨rightBound, right, rightMade⟩ | ⟨text, missing, made⟩
        · obtain ⟨value, done⟩ := binary_value_ok kind left right
          refine .inl ⟨?_, value, by rw [Formula.value, leftMade, rightMade]; exact done⟩
          rw [unvalued, parameters, List.find?_append]
          exact Option.or_eq_none_iff.mpr ⟨leftBound, rightBound⟩
        · refine .inr ⟨text, ?_, by rw [Formula.value, leftMade, made]; rfl⟩
          rw [unvalued, parameters, List.find?_append]
          exact Option.or_eq_some_iff.mpr (.inr ⟨leftBound, missing⟩)
      · refine .inr ⟨text, ?_, by rw [Formula.value, made]; rfl⟩
        rw [unvalued, parameters, List.find?_append]
        exact Option.or_eq_some_iff.mpr (.inl missing)
  | literal kind member => exact .inl ⟨rfl, literal_value_ok kind (carried _ member)⟩
  | symbol kind _ => exact symbol_value_outcome names point kind covered
  | invalid message => cases valid

theorem parameters_mem {tokens : List Token} {formula : Formula} (written : Written tokens formula)
    {text : String} (member : text ∈ formula.parameters) :
    ∃ token ∈ tokens, token.kind = .parameter ∧ token.text = text := by
  induction written with
  | unary _ _ ih => exact ih member
  | binary _ _ _ first second =>
      rcases List.mem_append.mp member with member | member
      · exact first member
      · exact second member
  | literal _ _ => cases member
  | @symbol name _ inside =>
      rw [parameters] at member
      split at member
      · rename_i kind
        exact ⟨name, inside, kind, (List.mem_singleton.mp member).symm⟩
      · cases member
  | invalid _ => cases member

end Formula

namespace Markup

def Spelled (name : String) : Prop :=
  ∃ letter written, name = String.ofList (letter :: written) ∧ letter.isAlpha = true ∧ Subscript written []

theorem Subscript.last {written after : List Char} (subscript : Subscript written after) : Subscript written [] := by
  cases subscript with
  | absent _ => exact .absent (by simp)
  | complete complete => exact .complete complete
  | bare => exact .bare
  | unclosed nested => exact .unclosed nested

variable {names : Dictionary}

theorem IsSegment.spelled {text after : List Char} {lexeme : Lexeme} (stands : IsSegment names text after lexeme)
    {value : Option String} (parameter : lexeme = .token .parameter value) :
    ∃ name, Spelled name ∧ names.get? name = some (value.getD "") := by
  cases stands with
  | @parameter letter written _ reserved alpha subscript found =>
      obtain ⟨-, rfl⟩ := Lexeme.token.inj parameter
      exact ⟨_, ⟨letter, written, rfl, alpha, subscript.last⟩, found⟩
  | sign known =>
      have other : ∀ entry ∈ signs, entry.2 ≠ .parameter := by decide
      exact absurd (Lexeme.token.inj parameter).1 (other _ known)
  | command known =>
      have other : ∀ entry ∈ commands, entry.2 ≠ .parameter := by decide
      exact absurd (Lexeme.token.inj parameter).1 (other _ known)
  | _ => cases parameter

theorem Split.spelled {source rest : List Char} {segments : List Segment}
    (split : Split names rest source segments) (offset : Nat) {token : Token}
    (member : token ∈ (placed offset segments).filterMap tokenOf?) (parameter : token.kind = .parameter) :
    ∃ name, Spelled name ∧ names.get? name = some token.text := by
  induction split generalizing offset with
  | nil => cases member
  | @cons text after lexeme more stands _ ih =>
      cases lexeme with
      | skipped | stray _ | unknown _ => exact ih _ member
      | token kind value =>
          rcases List.mem_cons.mp member with rfl | member
          · exact stands.spelled (congrArg (Lexeme.token · value) parameter)
          · exact ih _ member

theorem scan_spelled {source : String} {token : Token} (member : token ∈ (scan names source).tokens)
    (parameter : token.kind = .parameter) : ∃ name, Spelled name ∧ names.get? name = some token.text := by
  obtain ⟨segments, rest, split, ended⟩ := split_exists names source.toList
  rw [(scan_split split ended).2.1] at member
  exact split.spelled 0 member parameter

theorem scan_name {name text : String} (spelled : Spelled name) (reserved : names.get? name = some text) :
    scan names name = ⟨[⟨.parameter, some text, 0⟩], [], none⟩ := by
  obtain ⟨letter, written, rfl, alpha, subscript⟩ := spelled
  have scanned := scan_from_segment (.parameter alpha subscript reserved) 0
  rw [List.append_nil] at scanned
  rw [scan, String.toList_ofList, scanned, scanFrom]
  rfl

end Markup

namespace Session

open Environment Markup

def valueAt (session : Session) (markup : String) (point : Point) : Except EvalFault Complex :=
  (parsed session.settings markup).tree.value (.ofPoint session.table session.settings.names point)

theorem value_at_outcome {session changed : Session} {initial step : String}
    (done : session.compile initial step = .ok changed) (point : Point) {markup : String}
    (member : markup ∈ [initial, step]) :
    ((parsed session.settings markup).tree.unvalued session.settings.names = none ∧
        ∃ value, changed.valueAt markup point = .ok value) ∨
      ∃ text, (parsed session.settings markup).tree.unvalued session.settings.names = some text ∧
        changed.valueAt markup point = .error (.unbound text) := by
  obtain ⟨-, -, valid, stepValid, -⟩ := (first_fault_eq_none _ _ _).mp (first_fault_of_ok done)
  obtain ⟨settings, table, -⟩ := compile_ok done
  rw [valueAt, settings, table]
  have readable : (parsed session.settings markup).valid = true ∧
      ∀ name ∈ (parsed session.settings markup).tree.identifiers,
        name ∈ (renewed session.settings session.table initial step).names := by
    simp only [renewed_covers]
    rcases List.mem_pair.mp member with rfl | rfl
    · exact ⟨valid, fun _ => .inl⟩
    · exact ⟨stepValid, fun _ => .inr⟩
  exact Formula.value_outcome point (parsed_written _ _) (fun _ => scan_carries)
    ((Formula.parse_valid_eq _ _).symm.trans readable.1) readable.2

theorem unvalued_eq_none (names : Dictionary) (formula : Formula) :
    formula.unvalued names = none ↔
      ∀ text ∈ formula.parameters, ∃ other ∈ pointNames, names.get? other = some text := by
  simp only [Formula.unvalued, List.find?_eq_none, Bool.not_eq_true, Bool.not_eq_false', names.gives_value_iff]

theorem unvalued_eq_some {names : Dictionary} {formula : Formula} {text : String}
    (missing : formula.unvalued names = some text) :
    text ∈ formula.parameters ∧ ∀ other ∈ pointNames, names.get? other ≠ some text := by
  refine ⟨List.mem_of_find?_eq_some missing, fun other known found => ?_⟩
  have lacks : names.givesValue text = false := by simpa using List.find?_some missing
  rw [(names.gives_value_iff text).mpr ⟨other, known, found⟩] at lacks
  cases lacks

theorem value_at_ok_iff {session changed : Session} {initial step : String}
    (done : session.compile initial step = .ok changed) (point : Point) {markup : String}
    (member : markup ∈ [initial, step]) :
    (∃ value, changed.valueAt markup point = .ok value) ↔
      ∀ text ∈ (parsed session.settings markup).tree.parameters,
        ∃ other ∈ pointNames, session.settings.names.get? other = some text := by
  rw [← unvalued_eq_none]
  rcases value_at_outcome done point member with ⟨bound, value, made⟩ | ⟨text, missing, made⟩
  · rw [made]
    exact iff_of_true ⟨value, rfl⟩ bound
  · simp [made, missing]

theorem value_at_error {session changed : Session} {initial step : String}
    (done : session.compile initial step = .ok changed) {point : Point} {markup : String}
    (member : markup ∈ [initial, step]) {fault : EvalFault} (failed : changed.valueAt markup point = .error fault) :
    ∃ text ∈ (parsed session.settings markup).tree.parameters,
      (∀ other ∈ pointNames, session.settings.names.get? other ≠ some text) ∧ fault = .unbound text := by
  rcases value_at_outcome done point member with ⟨-, value, made⟩ | ⟨text, missing, made⟩
  · cases failed.symm.trans made
  · obtain ⟨occurs, lacks⟩ := unvalued_eq_some missing
    exact ⟨text, occurs, lacks, Except.error.inj (failed.symm.trans made)⟩

theorem parsed_name {settings : Settings} {name text : String} (spelled : Spelled name)
    (reserved : settings.names.get? name = some text) :
    parsed settings name = ⟨.symbol ⟨.parameter, some text, 0⟩, true, none⟩ := by
  obtain ⟨shader, ⟨grouping, implicit⟩, names⟩ := settings
  rw [parsed, scan_name spelled reserved]
  let operand : Grammar.Derivation implicit (.level .operand) [⟨.parameter, some text, 0⟩] := .name (.inr rfl)
  exact Formula.parse_of_derivation grouping (.product (.negation (.power operand.alone)))

theorem name_compiles (settings : Settings) {name text : String} (spelled : Spelled name)
    (reserved : settings.names.get? name = some text) :
    ∃ changed, (new settings).compile name name = .ok changed := by
  refine compile_done _ ((first_fault_eq_none _ _ _).mpr ?_)
  have complete : (scan settings.names name).failure = none := by rw [scan_name spelled reserved]
  have read := parsed_name spelled reserved
  refine ⟨complete, complete, ?_⟩
  simp [new, read, Formula.literals]

-- Everything that compiles can be evaluated exactly if each reserved name that a formula can say has the
-- text of a name with a value. Nothing but such a name stops the evaluation of a compiled formula.
theorem compiled_has_value_iff (settings : Settings) :
    ((∀ session changed : Session, ∀ initial step, session.settings = settings →
        session.compile initial step = .ok changed → ∀ point,
          (∃ value, changed.valueAt initial point = .ok value) ∧ ∃ value, changed.valueAt step point = .ok value) ↔
      ∀ name text, Spelled name → settings.names.get? name = some text →
        ∃ other ∈ pointNames, settings.names.get? other = some text) ∧
    ∀ session changed : Session, ∀ initial step, session.settings = settings →
      session.compile initial step = .ok changed → ∀ point, ∀ markup ∈ [initial, step],
        ((∃ value, changed.valueAt markup point = .ok value) ↔
          ∀ text ∈ (parsed settings markup).tree.parameters,
            ∃ other ∈ pointNames, settings.names.get? other = some text) ∧
        ∀ fault, changed.valueAt markup point = .error fault →
          ∃ text ∈ (parsed settings markup).tree.parameters,
            (∀ other ∈ pointNames, settings.names.get? other ≠ some text) ∧ fault = .unbound text := by
  refine ⟨⟨fun evaluates name text spelled reserved => ?_, fun covers => ?_⟩, ?_⟩
  · obtain ⟨changed, done⟩ := name_compiles settings spelled reserved
    have value := (evaluates _ changed name name rfl done ⟨.zero, .zero, 0, .zero⟩).1
    have valued := (value_at_ok_iff done _ (List.mem_cons_self ..)).mp value text
    simp only [new, parsed_name spelled reserved] at valued
    exact valued (List.mem_singleton.mpr rfl)
  · rintro session changed initial step rfl done point
    have valued : ∀ markup ∈ [initial, step], ∃ value, changed.valueAt markup point = .ok value := by
      intro markup member
      refine (value_at_ok_iff done point member).mpr fun text occurs => ?_
      obtain ⟨token, inside, parameter, rfl⟩ := Formula.parameters_mem (parsed_written _ markup) occurs
      obtain ⟨name, spelled, reserved⟩ := scan_spelled inside parameter
      exact covers name token.text spelled reserved
    exact ⟨valued initial (by simp), valued step (by simp)⟩
  · rintro session changed initial step rfl done point markup member
    exact ⟨value_at_ok_iff done point member, fun fault => value_at_error done member⟩

-- The name `w` stands for a complex constant: the shader has it, the evaluator does not.
theorem compiled_constant_unbound :
    let settings : Settings :=
      { Settings.standard with names := Dictionary.standard.insert "w" "vec2<f32>(0.5, 0.0)" }
    ∃ changed, (new settings).compile "x" "z+w" = .ok changed ∧
      changed.shader.map Shader.stepCode = some "(z) + (vec2<f32>(0.5, 0.0))" ∧
      ∀ point, changed.valueAt "z+w" point = .error (.unbound "vec2<f32>(0.5, 0.0)") := by
  intro settings
  have missing : (parsed settings "z+w").tree.unvalued settings.names = some "vec2<f32>(0.5, 0.0)" := by
    decide +kernel
  have compiled : (∃ changed, (new settings).compile "x" "z+w" = .ok changed) ∧
      ((new settings).perform (.compile "x" "z+w")).session.shader.map Shader.stepCode =
        some "(z) + (vec2<f32>(0.5, 0.0))" :=
    ⟨compile_done _ (by decide +kernel), by decide +kernel⟩
  obtain ⟨⟨changed, done⟩, text⟩ := compiled
  simp only [perform, done, commit] at text
  refine ⟨changed, done, text, fun point => ?_⟩
  rcases value_at_outcome done point (List.mem_cons_of_mem _ (List.mem_singleton.mpr rfl)) with
    ⟨bound, -⟩ | ⟨other, found, failed⟩
  · cases bound.symm.trans missing
  · rw [failed, Option.some.inj (found.symm.trans missing)]

end Session

end EscapeTime
