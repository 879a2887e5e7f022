import EscapeTime.Proofs.Decimal.Reading
import EscapeTime.Proofs.Formula.Written
import EscapeTime.Proofs.Layout
import EscapeTime.Proofs.Markup.Carried

set_option autoImplicit false

namespace EscapeTime

-- The text is a number whose double-precision value stays finite in single precision.
def Token.fitsSingle (token : Token) : Bool :=
  match Decimal.readFloat? token.text with
  | some number => Binary.isFinite32 (Binary.narrow number)
  | none => false

namespace Formula

def literals : Formula → List Token
  | unary _ inner => inner.literals
  | binary left _ right => left.literals ++ right.literals
  | literal value => [value]
  | symbol _ => []
  | invalid _ => []

def oversized (formula : Formula) : Option Token :=
  formula.literals.find? fun value => !value.fitsSingle

theorem numeral_reads {text : List Char} (numeral : Markup.Numeral text) :
    ∃ number, Decimal.readFloat? (String.ofList text) = some number := by
  cases numeral with
  | whole present all =>
      obtain ⟨c, tail, rfl⟩ := List.exists_cons_of_ne_nil present
      rw [Decimal.read_float?_digit tail (all c (List.mem_cons_self ..)), Decimal.of_chars?_whole present all]
      exact ⟨_, rfl⟩
  | pointed present all rest =>
      obtain ⟨c, tail, rfl⟩ := List.exists_cons_of_ne_nil present
      rw [List.cons_append, Decimal.read_float?_digit _ (all c (List.mem_cons_self ..)),
        ← List.cons_append, Decimal.of_chars?_pointed present all rest]
      exact ⟨_, rfl⟩

theorem literal_reads {names : Dictionary} {value : Token} (literal : value.kind.isLiteral = true)
    (carries : Markup.Carries names value.kind value.value) :
    ∃ number, Decimal.readFloat? value.text = some number := by
  rcases (Kind.is_literal_iff _).mp literal with kind | kind <;> rw [kind] at carries <;>
    obtain ⟨text, carried, numeral⟩ := carries <;> rw [Token.text, carried] <;>
    exact numeral_reads numeral

theorem unary_code_ok {op : Token} (kind : op.kind.isUnary = true) (inner : Wgsl.Expr) :
    ∃ expr, unaryCode op inner = .ok expr := by
  unfold unaryCode
  cases shape : op.kind <;> simp_all [Kind.isUnary, Kind.isFunction]

theorem binary_code_ok {op : Token} (kind : op.kind.isBinary = true) (left right : Wgsl.Expr) :
    ∃ expr, binaryCode left op right = .ok expr := by
  unfold binaryCode
  cases shape : op.kind <;> simp_all [Kind.isBinary]

theorem literal_code_outcome {names : Dictionary} {value : Token} (literal : value.kind.isLiteral = true)
    (carries : Markup.Carries names value.kind value.value) :
    (value.fitsSingle = true ∧ ∃ expr, literalCode value = .ok expr) ∨
      (value.fitsSingle = false ∧ literalCode value = .error (.outOfRange value.text value.offset)) := by
  obtain ⟨number, read⟩ := literal_reads literal carries
  by_cases finite : Binary.isFinite32 (Binary.narrow number) = true
  · refine .inl ⟨by simp [Token.fitsSingle, read, finite], ?_⟩
    rcases (Kind.is_literal_iff _).mp literal with kind | kind <;>
      simp [literalCode, literalNumber, read, finite, kind, bind, Except.bind]
  · refine .inr ⟨by simp [Token.fitsSingle, read, finite], ?_⟩
    simp [literalCode, literalNumber, read, finite, bind, Except.bind]

theorem symbol_code_ok {table : Variables} {name : Token} (named : name.kind.isName = true)
    (covered : ∀ text ∈ (symbol name).identifiers, text ∈ table.names) :
    ∃ expr, symbolCode table name = .ok expr := by
  rcases (Kind.is_name_iff _).mp named with kind | kind
  · have member := covered name.text (by simp [identifiers, kind])
    obtain ⟨slot, found⟩ := Option.isSome_iff_exists.mp (Variables.get?_is_some.mpr member)
    exact ⟨.uniform (Wgsl.slotField slot.id), by rw [symbolCode, kind]; simp only [found]⟩
  · exact ⟨_, by rw [symbolCode, kind]⟩

-- The generator meets the operands before their operator and the left one first, so the literal that
-- stops it is the leftmost of those that are too large.
theorem code_outcome {names : Dictionary} {tokens : List Token} {table : Variables} {formula : Formula}
    (written : Written tokens formula)
    (carried : ∀ token ∈ tokens, Markup.Carries names token.kind token.value)
    (valid : formula.isValid = true) (covered : ∀ name ∈ formula.identifiers, name ∈ table.names) :
    (formula.oversized = none ∧ ∃ expr, formula.code table = .ok expr) ∨
      ∃ value, formula.oversized = some value ∧
        formula.code table = .error (.outOfRange value.text value.offset) := by
  induction written with
  | unary kind _ ih =>
      rcases ih valid covered with ⟨fits, inner, made⟩ | ⟨value, large, made⟩
      · obtain ⟨expr, done⟩ := unary_code_ok kind inner
        exact .inl ⟨fits, expr, by rw [code, made]; exact done⟩
      · exact .inr ⟨value, large, by rw [code, made]; rfl⟩
  | binary kind _ _ first second =>
      obtain ⟨leftValid, rightValid⟩ := Bool.and_eq_true_iff.mp valid
      rcases first leftValid fun name member => covered name (List.mem_append_left _ member) with
        ⟨leftFits, left, leftMade⟩ | ⟨value, large, made⟩
      · rcases second rightValid fun name member => covered name (List.mem_append_right _ member) with
          ⟨rightFits, right, rightMade⟩ | ⟨value, large, made⟩
        · obtain ⟨expr, done⟩ := binary_code_ok kind left right
          refine .inl ⟨?_, expr, by rw [code, leftMade, rightMade]; exact done⟩
          rw [oversized, literals, List.find?_append]
          exact Option.or_eq_none_iff.mpr ⟨leftFits, rightFits⟩
        · refine .inr ⟨value, ?_, by rw [code, leftMade, made]; rfl⟩
          rw [oversized, literals, List.find?_append]
          exact Option.or_eq_some_iff.mpr (.inr ⟨leftFits, large⟩)
      · refine .inr ⟨value, ?_, by rw [code, made]; rfl⟩
        rw [oversized, literals, List.find?_append]
        exact Option.or_eq_some_iff.mpr (.inl large)
  | literal kind member =>
      rcases literal_code_outcome kind (carried _ member) with ⟨fits, made⟩ | ⟨large, made⟩
      · exact .inl ⟨by simp [oversized, literals, fits], made⟩
      · exact .inr ⟨_, by simp [oversized, literals, large], made⟩
  | symbol kind _ => exact .inl ⟨rfl, symbol_code_ok kind covered⟩
  | invalid message => cases valid

end Formula

end EscapeTime
