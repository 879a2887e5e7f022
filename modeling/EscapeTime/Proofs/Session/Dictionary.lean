import EscapeTime.Proofs.Markup.Reserved
import EscapeTime.Proofs.Session.Compile

set_option autoImplicit false

namespace EscapeTime

def Settings.unreserved (settings : Settings) : Settings :=
  { settings with names := .empty }

structure Parse.Alike (first second : Parse) : Prop where
  valid : first.valid = second.valid
  message : first.message = second.message
  trees : first.tree.anonymous = second.tree.anonymous

theorem Formula.parse_alike (mode : ReadMode) (first second : Dictionary) (source : String) :
    (parse mode (Markup.scan first source).tokens).Alike (parse mode (Markup.scan second source).tokens) := by
  rw [Markup.scan_reserve first, Markup.scan_reserve second]
  generalize Markup.scan .empty source = plain
  have written := parse_written mode plain.tokens
  simp only [Markup.Scan.rename, parse_rename]
  exact ⟨rfl, rfl, (anonymous_rename _ written).trans (anonymous_rename _ written).symm⟩

namespace Session

theorem parsed_reserve (settings : Settings) (markup : String) :
    parsed settings markup =
      { parsed settings.unreserved markup with
        tree := (parsed settings.unreserved markup).tree.rename (.reserve settings.names) } := by
  rw [parsed, Markup.scan_reserve]
  exact Formula.parse_rename _ _ _

theorem identifiers_parsed (settings : Settings) (markup : String) :
    (parsed settings markup).tree.identifiers =
      (parsed settings.unreserved markup).tree.identifiers.filter fun name =>
        (settings.names.reserved? name).isNone := by
  rw [parsed_reserve]
  exact Formula.identifiers_reserve _ _

theorem lex_fault_unreserved (settings : Settings) (markup : String) :
    lexFault settings markup = lexFault settings.unreserved markup := by
  rw [lexFault, Markup.scan_reserve]
  rfl

theorem parse_fault_unreserved (settings : Settings) (markup source : String) :
    parseFault settings markup source = parseFault settings.unreserved markup source := by
  rw [parseFault, parsed_reserve]
  rfl

theorem range_fault_unreserved (settings : Settings) (markup : String) :
    rangeFault settings markup = rangeFault settings.unreserved markup := by
  rw [rangeFault, rangeFault, Formula.oversized, Formula.oversized, parsed_reserve,
    Formula.literals_rename _ (parsed_written settings.unreserved markup)]

theorem first_fault_unreserved (settings : Settings) (initial step : String) :
    firstFault settings initial step = firstFault settings.unreserved initial step := by
  rw [firstFault, firstFault, lex_fault_unreserved, lex_fault_unreserved settings step, parse_fault_unreserved,
    parse_fault_unreserved settings step, range_fault_unreserved, range_fault_unreserved settings step]

theorem compile_alike {session other : Session} (same : session.settings.unreserved = other.settings.unreserved)
    (initial step : String) :
    (∃ error, session.compile initial step = .error error ∧ other.compile initial step = .error error) ∨
      ∃ changed otherChanged, session.compile initial step = .ok changed ∧
        other.compile initial step = .ok otherChanged := by
  have faults : firstFault session.settings initial step = firstFault other.settings initial step := by
    rw [first_fault_unreserved, same, ← first_fault_unreserved]
  cases outcome : session.compile initial step with
  | error error =>
      have failed := (compile_error_iff session initial step error).mp outcome
      exact .inl ⟨error, rfl, (compile_error_iff other initial step error).mpr (faults ▸ failed)⟩
  | ok changed =>
      cases otherOutcome : other.compile initial step with
      | ok otherChanged => exact .inr ⟨changed, otherChanged, rfl, rfl⟩
      | error error =>
          have failed := (compile_error_iff other initial step error).mp otherOutcome
          cases outcome.symm.trans ((compile_error_iff session initial step error).mpr (faults ▸ failed))

-- A dictionary decides what names mean and nothing else about formulas. No message shows a name: the only
-- one that shows a token shows what a product stopped at, and a name would have been a further factor.
theorem dictionary_keeps_structure (first second : Dictionary) :
    (∀ source, (Markup.scan first source).Alike (Markup.scan second source)) ∧
    (∀ mode source, (Formula.parse mode (Markup.scan first source).tokens).Alike
      (Formula.parse mode (Markup.scan second source).tokens)) ∧
    ∀ (shader : ShaderSettings) (mode : ReadMode) (table otherTable : Variables)
      (current otherCurrent : Option Shader) (initial step : String),
      let session : Session := ⟨⟨shader, mode, first⟩, table, current⟩
      let other : Session := ⟨⟨shader, mode, second⟩, otherTable, otherCurrent⟩
      (∃ error, session.compile initial step = .error error ∧ other.compile initial step = .error error) ∨
        ∃ changed otherChanged, session.compile initial step = .ok changed ∧
          other.compile initial step = .ok otherChanged := by
  refine ⟨Markup.scan_alike first second, fun mode => Formula.parse_alike mode first second, ?_⟩
  intro shader mode table otherTable current otherCurrent initial step session other
  have same : session.settings.unreserved = other.settings.unreserved := rfl
  exact compile_alike same initial step

end Session

end EscapeTime
