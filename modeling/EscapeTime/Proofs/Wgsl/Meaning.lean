import EscapeTime.Formula.Code
import EscapeTime.Formula.Value
import EscapeTime.Proofs.Binary.Packed
import EscapeTime.Proofs.Decimal.Order
import EscapeTime.Proofs.Decimal.Pointed
import EscapeTime.Proofs.Wgsl.Grammar

set_option autoImplicit false

namespace EscapeTime.Wgsl

open Environment (Point)
open Option (bind_eq_some_iff map_eq_some_iff)

inductive Value where
  | scalar (number : Float)
  | vector (number : Complex)
  | uniforms
deriving DecidableEq

def unaryMeaning? : String → Option (Complex → Complex)
  | "complex_sqrt" => some Complex.sqrt
  | "complex_sin" => some Complex.sin
  | "complex_cos" => some Complex.cos
  | "complex_tan" => some Complex.tan
  | "complex_log" => some Complex.log
  | "complex_ln" => some Complex.ln
  | _ => none

def binaryMeaning? : String → Option (Complex → Complex → Complex)
  | "complex_mult" => some Complex.mul
  | "complex_div" => some Complex.div
  | "complex_pow" => some Complex.pow
  | _ => none

def slotValue (slot : Slot) : Complex :=
  ⟨Binary.widen slot.real, Binary.widen slot.imag⟩

def fieldValue? (table : Variables) (point : Point) : String → Option Complex
  | "t" => some (.real point.time)
  | "c" => some point.c
  | field => (table.entries.find? fun entry => slotField entry.2.id = field).map fun entry => slotValue entry.2

def nameValue? (point : Point) : String → Option Value
  | "x" => some (.vector point.x)
  | "z" => some (.vector point.z)
  | "uniforms" => some .uniforms
  | _ => none

namespace Value

def negate? : Value → Option Value
  | scalar x => some (.scalar (-x))
  | vector x => some (.vector x.neg)
  | uniforms => none

-- Operators work on both parts of a vector.
def combine? (onScalars : Float → Float → Float) (onVectors : Complex → Complex → Complex) :
    Value → Value → Option Value
  | scalar x, scalar y => some (.scalar (onScalars x y))
  | vector x, vector y => some (.vector (onVectors x y))
  | _, _ => none

def unary? (operation : Complex → Complex) : Value → Option Value
  | vector x => some (.vector (operation x))
  | _ => none

def binary? (operation : Complex → Complex → Complex) : Value → Value → Option Value
  | vector x, vector y => some (.vector (operation x y))
  | _, _ => none

def pair? : Value → Value → Option Value
  | scalar x, scalar y => some (.vector ⟨x, y⟩)
  | _, _ => none

def field? (table : Variables) (point : Point) (name : String) : Value → Option Value
  | uniforms => (fieldValue? table point name).map .vector
  | _ => none

end Value

def Term.value? (table : Variables) (point : Point) : Term → Option Value
  | number text => (Decimal.readFloat? text).map .scalar
  | name text => nameValue? point text
  | field whole part => (whole.value? table point).bind (Value.field? table point part)
  | negate inner => (inner.value? table point).bind Value.negate?
  | add left right => do
      let x ← left.value? table point
      let y ← right.value? table point
      x.combine? (· + ·) Complex.add y
  | subtract left right => do
      let x ← left.value? table point
      let y ← right.value? table point
      x.combine? (· - ·) Complex.sub y
  | call function argument => do
      let operation ← unaryMeaning? function
      let x ← argument.value? table point
      x.unary? operation
  | callPair function first second => do
      let operation ← binaryMeaning? function
      let x ← first.value? table point
      let y ← second.value? table point
      x.binary? operation y
  | vector first second => do
      let x ← first.value? table point
      let y ← second.value? table point
      x.pair? y

def ReadsAs (text : String) (term : Term) : Prop :=
  ∃ lexemes, lex text.toList = some lexemes ∧ Reads .sum lexemes term

-- Text that is read as an expression with this value, wherever it stands.
def Means (table : Variables) (point : Point) (text : String) (value : Value) : Prop :=
  ∃ lexemes term, Lexes text.toList lexemes ∧ Reads .sum lexemes term ∧ term.value? table point = some value

section Expressions

variable {table : Variables} {point : Point}

theorem Means.reading {text : String} {value : Value} (means : Means table point text value) :
    (∃ term, ReadsAs text term) ∧ ∀ term, ReadsAs text term → term.value? table point = some value := by
  obtain ⟨lexemes, term, lexed, reads, valued⟩ := means
  have whole : lex text.toList = some lexemes := by
    have ended := lexed [] (by simp [Apart])
    rwa [List.append_nil, lex_nil, Option.map_some, List.append_nil] at ended
  refine ⟨⟨term, lexemes, whole, reads⟩, ?_⟩
  rintro other ⟨otherLexemes, otherWhole, otherReads⟩
  obtain rfl := Option.some.inj (whole.symm.trans otherWhole)
  rw [otherReads.unique reads, valued]

theorem means_group {text : String} {value : Value} (inner : Means table point text value) :
    ∃ lexemes term, (∀ rest, lex ('(' :: (text.toList ++ ')' :: rest)) = (lex rest).map (lexemes ++ ·)) ∧
      Reads .operand lexemes term ∧ term.value? table point = some value := by
  obtain ⟨lexemes, term, lexed, reads, valued⟩ := inner
  exact ⟨_, term, lex_group lexed, .group reads, valued⟩

theorem means_negate {text : String} {value : Complex} (inner : Means table point text (.vector value)) :
    Means table point ("-(" ++ text ++ ")") (.vector value.neg) := by
  obtain ⟨lexemes, term, lexed, reads, valued⟩ := means_group inner
  refine ⟨.mark '-' :: lexemes, .negate term, ?_, .signed (.negate (.operand reads)),
    bind_eq_some_iff.mpr ⟨_, valued, rfl⟩⟩
  intro rest _
  have chars : ("-(" ++ text ++ ")").toList ++ rest = '-' :: '(' :: (text.toList ++ ')' :: rest) := by simp
  rw [chars, lex_mark_before _ (by decide) (by decide), lexed, Option.map_map]
  rfl

-- Sums and differences: both operands stand in parentheses, so nothing of them joins the operator.
theorem means_operation {text left right : String} {first second result : Complex} (symbol : Char)
    (known : symbol ∈ marks) (apart : operators.contains (symbol, ' ') = false) (operation : Term → Term → Term)
    (spelled : text.toList =
      '(' :: (left.toList ++ ')' :: ' ' :: symbol :: ' ' :: '(' :: (right.toList ++ [')'])))
    (reading : ∀ {lexemes others term other}, Reads .sum lexemes term → Reads .signed others other →
      Reads .sum (lexemes ++ .mark symbol :: others) (operation term other))
    (valued : ∀ {term other}, Term.value? table point term = some (.vector first) →
      Term.value? table point other = some (.vector second) →
      (operation term other).value? table point = some (.vector result))
    (before : Means table point left (.vector first)) (after : Means table point right (.vector second)) :
    Means table point text (.vector result) := by
  obtain ⟨lexemes, term, lexed, reads, value⟩ := means_group before
  obtain ⟨others, other, otherLexed, otherReads, otherValue⟩ := means_group after
  refine ⟨lexemes ++ .mark symbol :: others, operation term other, ?_,
    reading (.signed (.operand reads)) (.operand otherReads), valued value otherValue⟩
  intro rest _
  rw [spelled]
  simp only [List.cons_append, List.append_assoc, List.nil_append]
  rw [lexed, lex_blank, lex_mark_before _ known apart, lex_blank, otherLexed, Option.map_map, Option.map_map]
  congr 1

theorem means_add {left right : String} {first second : Complex} (before : Means table point left (.vector first))
    (after : Means table point right (.vector second)) :
    Means table point ("(" ++ left ++ ") + (" ++ right ++ ")") (.vector (first.add second)) := by
  refine means_operation '+' (by decide) (by decide) .add (by simp) .add ?_ before after
  exact fun value otherValue => bind_eq_some_iff.mpr ⟨_, value, bind_eq_some_iff.mpr ⟨_, otherValue, rfl⟩⟩

theorem means_subtract {left right : String} {first second : Complex}
    (before : Means table point left (.vector first)) (after : Means table point right (.vector second)) :
    Means table point ("(" ++ left ++ ") - (" ++ right ++ ")") (.vector (first.sub second)) := by
  refine means_operation '-' (by decide) (by decide) .subtract (by simp) .subtract ?_ before after
  exact fun value otherValue => bind_eq_some_iff.mpr ⟨_, value, bind_eq_some_iff.mpr ⟨_, otherValue, rfl⟩⟩

theorem unary_function_is_word (function : UnaryFunction) : isWord function.name.toList = true := by
  cases function <;> decide

theorem binary_function_is_word (function : BinaryFunction) : isWord function.name.toList = true := by
  cases function <;> decide

theorem means_call {text : String} {value : Complex} (function : UnaryFunction) {operation : Complex → Complex}
    (known : unaryMeaning? function.name = some operation) (inner : Means table point text (.vector value)) :
    Means table point (function.name ++ "(" ++ text ++ ")") (.vector (operation value)) := by
  obtain ⟨lexemes, term, lexed, reads, valued⟩ := inner
  refine ⟨.name function.name :: .mark '(' :: lexemes ++ [.mark ')'], .call function.name term, ?_,
    .signed (.operand (.call _ reads)), bind_eq_some_iff.mpr ⟨_, known, bind_eq_some_iff.mpr ⟨_, valued, rfl⟩⟩⟩
  intro rest _
  have chars : (function.name ++ "(" ++ text ++ ")").toList ++ rest =
      function.name.toList ++ '(' :: (text.toList ++ ')' :: rest) := by simp
  rw [chars, lex_word _ _ (unary_function_is_word function) (apart_of_mark (by decide)), lex_group lexed, Option.map_map]
  rfl

theorem means_call_pair {left right : String} {first second : Complex} (function : BinaryFunction)
    {operation : Complex → Complex → Complex} (known : binaryMeaning? function.name = some operation)
    (before : Means table point left (.vector first)) (after : Means table point right (.vector second)) :
    Means table point (function.name ++ "(" ++ left ++ ", " ++ right ++ ")") (.vector (operation first second)) := by
  obtain ⟨lexemes, term, lexed, reads, valued⟩ := before
  obtain ⟨others, other, otherLexed, otherReads, otherValued⟩ := after
  refine ⟨.name function.name :: .mark '(' :: lexemes ++ .mark ',' :: others ++ [.mark ')'],
    .callPair function.name term other, ?_, .signed (.operand (.callPair _ reads otherReads)),
    bind_eq_some_iff.mpr ⟨_, known, bind_eq_some_iff.mpr ⟨_, valued, bind_eq_some_iff.mpr ⟨_, otherValued, rfl⟩⟩⟩⟩
  intro rest _
  have chars : (function.name ++ "(" ++ left ++ ", " ++ right ++ ")").toList ++ rest =
      function.name.toList ++ '(' :: (left.toList ++ ',' :: ' ' :: (right.toList ++ ')' :: rest)) := by simp
  rw [chars, lex_word _ _ (binary_function_is_word function) (apart_of_mark (by decide)), lex_pair lexed otherLexed,
    Option.map_map]
  rfl

theorem means_constant {re im : String} {x y : Float} (before : Means table point re (.scalar x))
    (after : Means table point im (.scalar y)) :
    Means table point ("vec2<f32>(" ++ re ++ ", " ++ im ++ ")") (.vector ⟨x, y⟩) := by
  obtain ⟨lexemes, term, lexed, reads, valued⟩ := before
  obtain ⟨others, other, otherLexed, otherReads, otherValued⟩ := after
  refine ⟨_, .vector term other, ?_, .signed (.operand (.vector reads otherReads)),
    bind_eq_some_iff.mpr ⟨_, valued, bind_eq_some_iff.mpr ⟨_, otherValued, rfl⟩⟩⟩
  intro rest _
  have chars : ("vec2<f32>(" ++ re ++ ", " ++ im ++ ")").toList ++ rest =
      "vec2".toList ++ '<' :: 'f' :: ("32".toList ++ '>' :: '(' ::
        (re.toList ++ ',' :: ' ' :: (im.toList ++ ')' :: rest))) := by simp
  have typeName : ∀ rest, lex ('f' :: ("32".toList ++ '>' :: rest)) = (lex ('>' :: rest)).map (.name "f32" :: ·) :=
    fun rest => lex_word "f32" _ (by decide) (apart_of_mark (by decide))
  rw [chars, lex_word _ _ (by decide) (apart_of_mark (by decide)), lex_mark_before _ (by decide) (by decide), typeName,
    lex_mark_before _ (by decide) (by decide), lex_pair lexed otherLexed]
  simp only [Option.map_map]
  rfl

theorem means_name {word : String} {value : Value} (proper : isWord word.toList = true)
    (known : nameValue? point word = some value) : Means table point word value :=
  ⟨[.name word], .name word, fun rest apart => lex_word word rest proper apart, .signed (.operand (.name word)), known⟩

theorem means_uniform {field : String} {value : Complex} (proper : isWord field.toList = true)
    (known : fieldValue? table point field = some value) :
    Means table point ("uniforms." ++ field) (.vector value) := by
  refine ⟨[.name "uniforms", .mark '.', .name field], .field (.name "uniforms") field, ?_,
    .signed (.operand (.field field (.name "uniforms"))), ?_⟩
  · intro rest apart
    have chars : ("uniforms." ++ field).toList ++ rest = "uniforms".toList ++ '.' :: (field.toList ++ rest) := by
      simp
    rw [chars, lex_word _ _ (by decide) (apart_of_mark (by decide)), lex_solid _ (by decide), lex_word _ _ proper apart]
    simp only [Option.map_map]
    rfl
  · exact bind_eq_some_iff.mpr ⟨_, rfl, map_eq_some_iff.mpr ⟨value, known, rfl⟩⟩

theorem lexes_pointed (decimal : Decimal) : Lexes decimal.pointed.toList [.number decimal.pointed] := by
  obtain ⟨whole, fraction, text, pointed⟩ := decimal.pointed_chars
  intro rest apart
  rw [text, lex_numeral pointed.present pointed.wholeDigits pointed.fractionDigits apart, ← text,
    String.ofList_toList]
  rfl

theorem means_pointed (decimal : Decimal) :
    Means table point decimal.pointed (.scalar (Binary.ofMagnitude64 false (decimal.nearest .binary64))) := by
  refine ⟨[.number decimal.pointed], .number decimal.pointed, lexes_pointed decimal, .signed (.operand (.number _)), ?_⟩
  exact map_eq_some_iff.mpr ⟨_, Decimal.read_float?_pointed decimal, rfl⟩

theorem means_negative {decimal : Decimal} (finite : decimal.nearest .binary64 < Format.binary64.infinity) :
    Means table point ("-" ++ decimal.pointed)
      (.scalar (Binary.ofMagnitude64 true (decimal.nearest .binary64))) := by
  refine ⟨[.mark '-', .number decimal.pointed], .negate (.number decimal.pointed), ?_,
    .signed (.negate (.operand (.number _))), ?_⟩
  · have plain := lexes_pointed decimal
    obtain ⟨whole, fraction, text, pointed⟩ := decimal.pointed_chars
    rw [String.toList_append]
    rw [text] at plain ⊢
    cases whole with
    | nil => exact absurd rfl pointed.present
    | cons first whole => exact lexes_minus (pointed.wholeDigits first (List.mem_cons_self ..)) plain
  · rw [← Binary.neg_of_magnitude64 finite]
    exact bind_eq_some_iff.mpr ⟨_, map_eq_some_iff.mpr ⟨_, Decimal.read_float?_pointed decimal, rfl⟩, rfl⟩

theorem number_eq {x : Float} (finite : Binary.magnitude64 x < Format.binary64.infinity) :
    ∃ decimal : Decimal, decimal.nearest .binary64 = Binary.magnitude64 x ∧
      number x = if Binary.isNegative64 x then "-" ++ decimal.pointed else decimal.pointed := by
  by_cases zero : Binary.magnitude64 x = 0
  · refine ⟨⟨0, 0⟩, zero.symm, ?_⟩
    have text : Decimal.pointed ⟨0, 0⟩ = numberStyle.zero := by decide
    rw [text, number, Decimal.Style.write64, Decimal.Style.write, if_neg (by omega), if_neg (by omega), if_pos zero]
  · refine ⟨Decimal.shortest .binary64 numberStyle.tie (Binary.magnitude64 x),
      Decimal.shortest_nearest (Decimal.exact_nearest Format.binary64_within_reach finite), ?_⟩
    rw [number, Decimal.Style.write64, Decimal.Style.write, if_neg (by omega), if_neg (by omega), if_neg zero]
    rfl

theorem means_number {x : Float} (finite : Binary.magnitude64 x < Format.binary64.infinity) :
    Means table point (number x) (.scalar x) := by
  obtain ⟨decimal, rounded, text⟩ := number_eq finite
  have whole := Binary.of_magnitude64_magnitude64 x
  rw [← rounded] at whole finite
  cases negative : Binary.isNegative64 x with
  | false =>
      rw [negative] at whole text
      rw [text, ← whole]
      exact means_pointed decimal
  | true =>
      rw [negative] at whole text
      rw [text, ← whole]
      exact means_negative finite

end Expressions

end EscapeTime.Wgsl
