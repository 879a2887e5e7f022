import EscapeTime.Proofs.Formula.Code
import EscapeTime.Proofs.Reconcile
import EscapeTime.Session

set_option autoImplicit false

namespace EscapeTime.Session

def parsed (settings : Settings) (markup : String) : Parse :=
  Formula.parse settings.reading (Markup.scan settings.names markup).tokens

def lexFault (settings : Settings) (markup : String) : Option Error :=
  (Markup.scan settings.names markup).failure.map Markup.UnknownCommand.error

def parseFault (settings : Settings) (markup source : String) : Option Error :=
  (parsed settings markup).message.map fun message => .parse message source

def rangeFault (settings : Settings) (markup : String) : Option Error :=
  (parsed settings markup).tree.oversized.map fun value =>
    .compile (CodeFault.outOfRange value.text value.offset).message

-- Each stage is stated by itself; the first that fails gives the error.
def firstFault (settings : Settings) (initial step : String) : Option Error :=
  (lexFault settings initial).or <|
    (parseFault settings initial "initial value").or <|
    (lexFault settings step).or <|
    (parseFault settings step "iteration step").or <|
    (rangeFault settings initial).or (rangeFault settings step)

theorem message_eq_none (mode : ReadMode) (tokens : List Token) :
    (Formula.parse mode tokens).message = none ↔ (Formula.parse mode tokens).valid = true := by
  simp [Formula.parse]

theorem read_formula_outcome (settings : Settings) (markup source : String) :
    (lexFault settings markup = none ∧ parseFault settings markup source = none ∧
      readFormula settings markup source = .ok (parsed settings markup).tree) ∨
    ∃ error, (lexFault settings markup).or (parseFault settings markup source) = some error ∧
      readFormula settings markup source = .error error := by
  cases failed : (Markup.scan settings.names markup).failure with
  | some failure =>
      refine .inr ⟨failure.error, by rw [lexFault, failed]; rfl, ?_⟩
      simp only [readFormula, failed]
  | none =>
      have lexed : lexFault settings markup = none := by rw [lexFault, failed]; rfl
      have read : readFormula settings markup source = (parsed settings markup).result source := by
        simp only [readFormula, failed, parsed]
      rw [lexed, read, parseFault, Parse.result]
      cases told : (parsed settings markup).message with
      | none => exact .inl ⟨rfl, rfl, if_pos ((message_eq_none _ _).mp told)⟩
      | some message =>
          have invalid : ¬ (parsed settings markup).valid = true := by
            intro valid
            cases told.symm.trans ((message_eq_none _ _).mpr valid)
          exact .inr ⟨.parse message source, rfl, if_neg invalid⟩

theorem parsed_written (settings : Settings) (markup : String) :
    Formula.Written (Markup.scan settings.names markup).tokens (parsed settings markup).tree :=
  Formula.parse_written _ _

theorem parsed_is_valid {settings : Settings} {markup source : String}
    (fine : parseFault settings markup source = none) : (parsed settings markup).tree.isValid = true := by
  have valid := (message_eq_none _ _).mp (Option.map_eq_none_iff.mp fine)
  rwa [Formula.parse_valid_eq] at valid

theorem allocate_ok (table : Variables) {initial step : Formula} (initialValid : initial.isValid = true)
    (stepValid : step.isValid = true) :
    table.allocate initial step =
      .ok (table.carry (Variables.firstOccurrences (initial.identifiers ++ step.identifiers))
        (Variables.first_occurrences_nodup _)) := by
  have initialFine := (Formula.first_fault_eq_none initial).mpr initialValid
  have stepFine := (Formula.first_fault_eq_none step).mpr stepValid
  rw [Variables.allocate_eq, initialFine, stepFine]
  rfl

theorem parsed_code (settings : Settings) (markup source : String) {table : Variables}
    (fine : parseFault settings markup source = none)
    (covered : ∀ name ∈ (parsed settings markup).tree.identifiers, name ∈ table.names) :
    (rangeFault settings markup = none ∧ ∃ expr, (parsed settings markup).tree.code table = .ok expr) ∨
      ∃ fault, rangeFault settings markup = some fault.error ∧
        (parsed settings markup).tree.code table = .error fault := by
  rcases Formula.code_outcome (parsed_written settings markup) (fun _ => Markup.scan_carries)
      (parsed_is_valid fine) covered with ⟨fits, made⟩ | ⟨value, large, made⟩
  · exact .inl ⟨by rw [rangeFault, fits]; rfl, made⟩
  · exact .inr ⟨_, by rw [rangeFault, large]; rfl, made⟩

def renewed (settings : Settings) (table : Variables) (initial step : String) : Variables :=
  table.carry
    (Variables.firstOccurrences
      ((parsed settings initial).tree.identifiers ++ (parsed settings step).tree.identifiers))
    (Variables.first_occurrences_nodup _)

theorem renewed_covers (settings : Settings) (table : Variables) (initial step name : String) :
    name ∈ (renewed settings table initial step).names ↔
      name ∈ (parsed settings initial).tree.identifiers ∨ name ∈ (parsed settings step).tree.identifiers := by
  rw [renewed, Variables.names_carry, Variables.mem_first_occurrences, List.mem_append]

theorem build_outcome (settings : Settings) (table : Variables) (initial step : String) :
    (firstFault settings initial step = none ∧ ∃ initialCode stepCode,
      (parsed settings initial).tree.code (renewed settings table initial step) = .ok initialCode ∧
      (parsed settings step).tree.code (renewed settings table initial step) = .ok stepCode ∧
      build settings table initial step =
        .ok (renewed settings table initial step,
          assemble settings.shader (renewed settings table initial step) initialCode.render stepCode.render)) ∨
    ∃ error, firstFault settings initial step = some error ∧
      build settings table initial step = .error error := by
  unfold firstFault build
  rcases read_formula_outcome settings initial "initial value" with
    ⟨lexed, fine, read⟩ | ⟨error, failed, read⟩
  · rw [lexed, fine, read]
    rcases read_formula_outcome settings step "iteration step" with
      ⟨stepLexed, stepFine, stepRead⟩ | ⟨error, failed, stepRead⟩
    · have allocated : table.allocate _ _ = .ok (renewed settings table initial step) :=
        allocate_ok table (parsed_is_valid fine) (parsed_is_valid stepFine)
      rw [stepLexed, stepFine, stepRead]
      rcases parsed_code settings initial "initial value" fine
          (fun name member => (renewed_covers settings table initial step name).mpr (.inl member)) with
        ⟨fits, initialCode, made⟩ | ⟨fault, large, made⟩
      · rcases parsed_code settings step "iteration step" stepFine
            (fun name member => (renewed_covers settings table initial step name).mpr (.inr member)) with
          ⟨stepFits, stepCode, stepMade⟩ | ⟨fault, large, stepMade⟩
        · refine .inl ⟨by rw [fits, stepFits]; rfl, initialCode, stepCode, made, stepMade, ?_⟩
          simp only [bind, Except.bind, allocated, made, stepMade]
          rfl
        · refine .inr ⟨fault.error, by rw [fits, large]; rfl, ?_⟩
          simp only [bind, Except.bind, allocated, made, stepMade]
          rfl
      · refine .inr ⟨fault.error, by rw [large]; rfl, ?_⟩
        simp only [bind, Except.bind, allocated, made]
        rfl
    · refine .inr ⟨error, ?_, by rw [stepRead]; rfl⟩
      rw [Option.none_or, Option.none_or, ← Option.or_assoc, failed, Option.some_or]
  · refine .inr ⟨error, ?_, by rw [read]; rfl⟩
    rw [← Option.or_assoc, failed, Option.some_or]

theorem compile_eq (session : Session) (initial step : String) :
    session.compile initial step =
      (build session.settings session.table initial step).map fun result =>
        { session with table := result.1, shader := some result.2 } := by
  rw [compile]
  cases build session.settings session.table initial step <;> rfl

theorem compile_error_iff (session : Session) (initial step : String) (error : Error) :
    session.compile initial step = .error error ↔ firstFault session.settings initial step = some error := by
  rw [compile_eq]
  rcases build_outcome session.settings session.table initial step with
    ⟨fine, initialCode, stepCode, -, -, built⟩ | ⟨other, failed, built⟩
  · rw [fine, built]
    simp [Except.map]
  · rw [failed, built]
    simp [Except.map]

theorem compile_done (session : Session) {initial step : String}
    (fine : firstFault session.settings initial step = none) : ∃ changed, session.compile initial step = .ok changed := by
  cases done : session.compile initial step with
  | ok changed => exact ⟨changed, rfl⟩
  | error error => cases fine.symm.trans ((compile_error_iff session initial step error).mp done)

theorem first_fault_of_ok {session changed : Session} {initial step : String}
    (done : session.compile initial step = .ok changed) : firstFault session.settings initial step = none := by
  refine Option.eq_none_iff_forall_ne_some.mpr fun error failed => ?_
  cases done.symm.trans ((compile_error_iff session initial step error).mpr failed)

theorem compile_ok {session changed : Session} {initial step : String}
    (done : session.compile initial step = .ok changed) :
    changed.settings = session.settings ∧ changed.table = renewed session.settings session.table initial step ∧
      changed.shader ≠ none := by
  rw [compile_eq] at done
  rcases build_outcome session.settings session.table initial step with
    ⟨-, initialCode, stepCode, -, -, built⟩ | ⟨error, -, built⟩
  · rw [built] at done
    obtain rfl := Except.ok.inj done
    exact ⟨rfl, rfl, Option.some_ne_none _⟩
  · rw [built] at done
    cases done

theorem set_variable_ok {session changed : Session} {name : String} {real imag : Float32}
    (done : session.setVariable name real imag = .ok changed) :
    changed = { session with table := changed.table } ∧ session.table.set? name real imag = some changed.table := by
  rw [setVariable, Variables.assign] at done
  cases set : session.table.set? name real imag with
  | none =>
      rw [set] at done
      cases done
  | some table =>
      rw [set] at done
      obtain rfl := Except.ok.inj done
      exact ⟨rfl, rfl⟩

theorem oversized_eq_none (formula : Formula) :
    formula.oversized = none ↔ ∀ value ∈ formula.literals, value.fitsSingle = true := by
  simp [Formula.oversized]

theorem first_fault_eq_none (settings : Settings) (initial step : String) :
    firstFault settings initial step = none ↔
      (Markup.scan settings.names initial).failure = none ∧
      (Markup.scan settings.names step).failure = none ∧
      (parsed settings initial).valid = true ∧ (parsed settings step).valid = true ∧
      ∀ value ∈ (parsed settings initial).tree.literals ++ (parsed settings step).tree.literals,
        value.fitsSingle = true := by
  simp only [firstFault, Option.or_eq_none_iff, lexFault, parseFault, rangeFault, Option.map_eq_none_iff,
    oversized_eq_none, List.mem_append, parsed, message_eq_none, or_imp, forall_and]
  constructor
  · rintro ⟨lexed, valid, stepLexed, stepValid, fit⟩
    exact ⟨lexed, stepLexed, valid, stepValid, fit⟩
  · rintro ⟨lexed, stepLexed, valid, stepValid, fit⟩
    exact ⟨lexed, valid, stepLexed, stepValid, fit⟩

-- Errors that a gap in the table or a misplaced token would cause.
def Internal (error : Error) : Prop :=
  (∃ fault : CodeFault, (∀ text offset, fault ≠ .outOfRange text offset) ∧ error = fault.error) ∨
    ∃ message, error = .parse message "variable allocation"

theorem head_append {text : String} {first : Char} (more : String)
    (starts : text.toList.head? = some first) : (text ++ more).toList.head? = some first := by
  rw [String.toList_append, List.head?_append, starts, Option.some_or]

theorem out_of_range_head (text : String) (offset : Nat) :
    (CodeFault.outOfRange text offset).message.toList.head? = some 'n' :=
  head_append _ (head_append _ (head_append _ (head_append _ (by decide))))

theorem unexpected_head (kind : Kind) (role : Role) (offset : Nat) :
    (CodeFault.unexpected kind role offset).message.toList.head? ≠ some 'n' := by
  have different : kind.name.toList.head? ≠ some 'n' := by cases kind <;> decide
  have present : kind.name.toList.head?.isSome = true := by cases kind <;> decide
  obtain ⟨first, starts⟩ := Option.isSome_iff_exists.mp present
  have head : (CodeFault.unexpected kind role offset).message.toList.head? = some first :=
    head_append _ (head_append _ (head_append _ (head_append _ (head_append _ starts))))
  rwa [head, ← starts]

-- Each kind of fault has a message that starts with a letter of its own.
theorem out_of_range_of_message {fault : CodeFault} {text : String} {offset : Nat}
    (same : fault.message = (CodeFault.outOfRange text offset).message) :
    ∃ text offset, fault = .outOfRange text offset := by
  have head : fault.message.toList.head? = some 'n' := by rw [same, out_of_range_head]
  cases fault with
  | outOfRange text offset => exact ⟨text, offset, rfl⟩
  | noSlot name =>
      have other : (CodeFault.noSlot name).message.toList.head? = some 'v' :=
        head_append _ (head_append _ (by decide))
      rw [other] at head
      cases head
  | badNumber text offset =>
      have other : (CodeFault.badNumber text offset).message.toList.head? = some 'i' :=
        head_append _ (head_append _ (head_append _ (by decide)))
      rw [other] at head
      cases head
  | unexpected kind role offset => exact absurd head (unexpected_head kind role offset)
  | invalid message =>
      have other : (CodeFault.invalid message).message.toList.head? = some 'c' :=
        head_append _ (by decide)
      rw [other] at head
      cases head

theorem first_fault_cases {settings : Settings} {initial step : String} {error : Error}
    (failed : firstFault settings initial step = some error) :
    (∃ command offset, error = .unknownCommand command offset) ∨
    (∃ message, error = .parse message "initial value") ∨
    (∃ message, error = .parse message "iteration step") ∨
    ∃ text offset, error = .compile (CodeFault.outOfRange text offset).message := by
  simp only [firstFault, lexFault, parseFault, rangeFault, Option.or_eq_some_iff,
    Option.map_eq_some_iff] at failed
  rcases failed with ⟨failure, -, rfl⟩ | ⟨-, ⟨message, -, rfl⟩ | ⟨-, ⟨failure, -, rfl⟩ |
    ⟨-, ⟨message, -, rfl⟩ | ⟨-, ⟨value, -, rfl⟩ | ⟨-, value, -, rfl⟩⟩⟩⟩⟩
  · exact .inl ⟨_, _, rfl⟩
  · exact .inr (.inl ⟨message, rfl⟩)
  · exact .inl ⟨_, _, rfl⟩
  · exact .inr (.inr (.inl ⟨message, rfl⟩))
  · exact .inr (.inr (.inr ⟨_, _, rfl⟩))
  · exact .inr (.inr (.inr ⟨_, _, rfl⟩))

theorem first_fault_not_internal {settings : Settings} {initial step : String} {error : Error}
    (failed : firstFault settings initial step = some error) : ¬ Internal error := by
  rintro (⟨fault, different, rfl⟩ | ⟨message, rfl⟩)
  · rcases first_fault_cases failed with ⟨_, _, same⟩ | ⟨_, same⟩ | ⟨_, same⟩ | ⟨text, offset, same⟩
    · cases same
    · cases same
    · cases same
    · obtain ⟨text, offset, rfl⟩ := out_of_range_of_message (Error.compile.inj same)
      exact different text offset rfl
  · rcases first_fault_cases failed with ⟨_, _, same⟩ | ⟨_, same⟩ | ⟨_, same⟩ | ⟨_, _, same⟩
    · cases same
    · exact absurd (Error.parse.inj same).2 (by decide)
    · exact absurd (Error.parse.inj same).2 (by decide)
    · cases same

-- Compiling fails for the reasons above and for no other, and a failure changes nothing.
theorem compile_fails_exactly (session : Session) (initial step : String) :
    ((∃ changed, session.compile initial step = .ok changed) ↔
      (Markup.scan session.settings.names initial).failure = none ∧
      (Markup.scan session.settings.names step).failure = none ∧
      (parsed session.settings initial).valid = true ∧ (parsed session.settings step).valid = true ∧
      ∀ value ∈ (parsed session.settings initial).tree.literals ++
          (parsed session.settings step).tree.literals, value.fitsSingle = true) ∧
    (∀ error, session.compile initial step = .error error ↔
      firstFault session.settings initial step = some error) ∧
    (∀ error, session.compile initial step = .error error →
      session.perform (.compile initial step) = ⟨session, some error⟩) ∧
    ∀ error, session.compile initial step = .error error → ¬ Internal error := by
  refine ⟨?_, compile_error_iff session initial step, ?_, ?_⟩
  · rw [← first_fault_eq_none]
    cases outcome : session.compile initial step with
    | ok changed =>
        refine ⟨fun _ => ?_, fun _ => ⟨changed, rfl⟩⟩
        refine Option.eq_none_iff_forall_ne_some.mpr fun error failed => ?_
        cases outcome.symm.trans ((compile_error_iff session initial step error).mpr failed)
    | error error =>
        have failed := (compile_error_iff session initial step error).mp outcome
        rw [failed]
        constructor
        · rintro ⟨changed, done⟩
          cases done
        · intro fine
          cases fine
  · intro error failed
    simp only [perform, commit, failed]
  · intro error failed
    exact first_fault_not_internal ((compile_error_iff session initial step error).mp failed)

end EscapeTime.Session
