import EscapeTime.Proofs.Wgsl.Meaning

set_option autoImplicit false

namespace EscapeTime

namespace Wgsl

theorem slot_field_chars (id : Nat) : (slotField id).toList = 'u' :: Nat.toDigits 10 id := by
  have lead : "u".toList = ['u'] := rfl
  rw [slotField, String.toList_append, Nat.toString_eq_ofList_toDigits, lead, String.toList_ofList, List.singleton_append]

theorem slot_field_injective {first second : Nat} (same : slotField first = slotField second) : first = second := by
  have chars := congrArg String.toList same
  rw [slot_field_chars, slot_field_chars] at chars
  have digits := (List.cons.inj chars).2
  rw [← Decimal.of_digits_digits first, ← Decimal.of_digits_digits second, Decimal.digits, Decimal.digits, digits]

theorem slot_field_is_word (id : Nat) : isWord (slotField id).toList = true := by
  rw [slot_field_chars]
  have digits : (Nat.toDigits 10 id).all isNameChar = true := by
    rw [List.all_eq_true]
    intro c member
    have digit := Decimal.digits_is_digit id c member
    simp [isNameChar, Char.isAlphanum, digit]
  rw [isWord, digits]
  rfl

theorem field_value?_slot {table : Variables} (distinct : (table.entries.map fun entry => entry.2.id).Nodup)
    (point : Environment.Point) {name : String} {slot : Slot} (found : table.get? name = some slot) :
    fieldValue? table point (slotField slot.id) = some (slotValue slot) := by
  have member : (name, slot) ∈ table.entries := by
    obtain ⟨before, after, split, -⟩ := List.lookup_eq_some_iff.mp found
    rw [split]
    simp
  have search : (table.entries.find? fun entry => slotField entry.2.id = slotField slot.id) = some (name, slot) := by
    have present : (table.entries.find? fun entry => slotField entry.2.id = slotField slot.id).isSome = true := by
      rw [List.find?_isSome]
      exact ⟨(name, slot), member, by simp⟩
    obtain ⟨entry, hit⟩ := Option.isSome_iff_exists.mp present
    have same : entry.2.id = slot.id := slot_field_injective (by simpa using List.find?_some hit)
    rw [hit, List.inj_on_of_nodup_map distinct (List.mem_of_find?_eq_some hit) member same]
  have other : ∀ field : String, field.toList.head? ≠ some 'u' → slotField slot.id ≠ field := by
    intro field different equal
    rw [← equal, slot_field_chars] at different
    exact different rfl
  unfold fieldValue?
  split
  · rename_i equal
    exact absurd equal (other "t" (by decide))
  · rename_i equal
    exact absurd equal (other "c" (by decide))
  · rw [search, Option.map_some]

end Wgsl

namespace Formula

open Wgsl

def parameters : Formula → List String
  | unary _ inner => inner.parameters
  | binary left _ right => left.parameters ++ right.parameters
  | literal _ => []
  | symbol name => if name.kind = .parameter then [name.text] else []
  | invalid _ => []

theorem bind_ok {α β : Type} {first : Except CodeFault α} {next : α → Except CodeFault β} {result : β}
    (done : (first >>= next) = .ok result) : ∃ middle, first = .ok middle ∧ next middle = .ok result := by
  cases first with
  | error fault => cases done
  | ok middle => exact ⟨middle, rfl, done⟩

section Meaning

variable {table : Variables} {point : Environment.Point}

theorem unary_preserved {op : Token} {inner expr : Expr} {value : Complex} (made : unaryCode op inner = .ok expr)
    (means : Means table point inner.render (.vector value)) :
    ∃ result, unaryValue op.kind value = .ok result ∧ Means table point expr.render (.vector result) := by
  unfold unaryCode at made
  split at made
  case h_8 => cases made
  all_goals
    rename_i kind
    obtain rfl := Except.ok.inj made
    rw [kind]
  · exact ⟨_, rfl, means_negate means⟩
  · exact ⟨_, rfl, means_call .sqrt rfl means⟩
  · exact ⟨_, rfl, means_call .sin rfl means⟩
  · exact ⟨_, rfl, means_call .cos rfl means⟩
  · exact ⟨_, rfl, means_call .tan rfl means⟩
  · exact ⟨_, rfl, means_call .log rfl means⟩
  · exact ⟨_, rfl, means_call .ln rfl means⟩

theorem binary_preserved {op : Token} {left right expr : Expr} {first second : Complex}
    (made : binaryCode left op right = .ok expr) (before : Means table point left.render (.vector first))
    (after : Means table point right.render (.vector second)) :
    ∃ result, binaryValue first op.kind second = .ok result ∧ Means table point expr.render (.vector result) := by
  unfold binaryCode at made
  split at made
  case h_6 => cases made
  all_goals
    rename_i kind
    obtain rfl := Except.ok.inj made
    rw [kind]
  · exact ⟨_, rfl, means_add before after⟩
  · exact ⟨_, rfl, means_subtract before after⟩
  · exact ⟨_, rfl, means_call_pair .mult rfl before after⟩
  · exact ⟨_, rfl, means_call_pair .div rfl before after⟩
  · exact ⟨_, rfl, means_call_pair .pow rfl before after⟩

theorem means_zero : Means table point "0.0" (.scalar 0) := by
  have zero : Binary.ofMagnitude64 false (Decimal.nearest .binary64 ⟨0, 0⟩) = 0 := by decide
  exact zero ▸ means_pointed ⟨0, 0⟩

theorem means_one : Means table point "1.0" (.scalar 1) := by
  have one : Binary.ofMagnitude64 false (Decimal.nearest .binary64 ⟨1, 0⟩) = 1 := by decide +kernel
  exact one ▸ means_pointed ⟨1, 0⟩

theorem literal_number_ok {value : Token} {number : Float} (made : literalNumber value = .ok number) :
    Decimal.readFloat? value.text = some number ∧ Binary.magnitude64 number < Format.binary64.infinity := by
  unfold literalNumber at made
  cases read : Decimal.readFloat? value.text with
  | none =>
      rw [read] at made
      cases made
  | some found =>
      simp only [read] at made
      split at made
      · rename_i finite
        obtain rfl := Except.ok.inj made
        exact ⟨rfl, Binary.finite_of_narrow finite⟩
      · cases made

theorem literal_preserved {value : Token} {expr : Expr} (made : literalCode value = .ok expr) :
    ∃ result, literalValue value = .ok result ∧ Means table point expr.render (.vector result) := by
  obtain ⟨number, read, made⟩ := bind_ok made
  obtain ⟨text, finite⟩ := literal_number_ok read
  split at made
  · rename_i kind
    obtain rfl := Except.ok.inj made
    refine ⟨.real number, ?_, means_constant (means_number finite) means_zero⟩
    rw [literalValue, text]
    simp only [kind]
    rfl
  · rename_i kind
    obtain rfl := Except.ok.inj made
    refine ⟨⟨0, number⟩, ?_, means_constant means_zero (means_number finite)⟩
    rw [literalValue, text]
    simp only [kind]
    rfl
  · cases made

theorem standard_entries : Dictionary.standard.entries =
    [("c", "c"), ("i", "vec2<f32>(0.0, 1.0)"), ("t", "t"), ("x", "x"), ("z", "z")] := by decide

theorem standard_parameters (table : Variables) (point : Environment.Point) :
    (Environment.ofPoint table .standard point).parameters =
      [("z", point.z), ("x", point.x), ("t", .real point.time), ("vec2<f32>(0.0, 1.0)", .unit), ("c", point.c)] :=
  rfl

theorem parameter_preserved {text : String} (reserved : ∃ name, (name, text) ∈ Dictionary.standard.entries) :
    ∃ value, (Environment.ofPoint table .standard point).parameter? text = some value ∧
      Means table point (parameterCode text).render (.vector value) := by
  obtain ⟨name, member⟩ := reserved
  rw [Environment.parameter?, standard_parameters, parameterCode]
  simp only [standard_entries, List.mem_cons, Prod.mk.injEq, List.not_mem_nil, or_false] at member
  rcases member with ⟨-, rfl⟩ | ⟨-, rfl⟩ | ⟨-, rfl⟩ | ⟨-, rfl⟩ | ⟨-, rfl⟩
  · rw [if_pos (by decide)]
    exact ⟨point.c, by simp [List.lookup], means_uniform (by decide) rfl⟩
  · have unit : "vec2<f32>(" ++ "0.0" ++ ", " ++ "1.0" ++ ")" = "vec2<f32>(0.0, 1.0)" := by decide
    rw [if_neg (by decide)]
    exact ⟨.unit, by simp [List.lookup], unit ▸ means_constant means_zero means_one⟩
  · rw [if_pos (by decide)]
    exact ⟨.real point.time, by simp [List.lookup], means_uniform (by decide) rfl⟩
  · rw [if_neg (by decide)]
    exact ⟨point.x, by simp [List.lookup], means_name (by decide) rfl⟩
  · rw [if_neg (by decide)]
    exact ⟨point.z, by simp [List.lookup], means_name (by decide) rfl⟩

theorem symbol_preserved (distinct : (table.entries.map fun entry => entry.2.id).Nodup) {name : Token} {expr : Expr}
    (made : symbolCode table name = .ok expr)
    (reserved : name.kind = .parameter → ∃ key, (key, name.text) ∈ Dictionary.standard.entries) :
    ∃ value, symbolValue (.ofPoint table .standard point) name = .ok value ∧
      Means table point expr.render (.vector value) := by
  unfold symbolCode at made
  split at made
  · rename_i kind
    cases found : table.get? name.text with
    | none =>
        rw [found] at made
        cases made
    | some slot =>
        rw [found] at made
        obtain rfl := Except.ok.inj made
        refine ⟨slotValue slot, ?_, means_uniform (slot_field_is_word slot.id) (field_value?_slot distinct point found)⟩
        have own : (Environment.ofPoint table .standard point).table = table := rfl
        rw [symbolValue, if_neg (by simp [kind]), own, found]
        rfl
  · rename_i kind
    obtain rfl := Except.ok.inj made
    obtain ⟨value, bound, means⟩ := parameter_preserved (reserved kind)
    exact ⟨value, by rw [symbolValue, if_pos kind, bound], means⟩
  · cases made

theorem preserved (distinct : (table.entries.map fun entry => entry.2.id).Nodup) {formula : Formula} {expr : Expr}
    (made : formula.code table = .ok expr)
    (reserved : ∀ text ∈ formula.parameters, ∃ name, (name, text) ∈ Dictionary.standard.entries) :
    ∃ value, formula.value (.ofPoint table .standard point) = .ok value ∧
      Means table point expr.render (.vector value) := by
  induction formula generalizing expr with
  | unary op inner ih =>
      obtain ⟨innerExpr, innerMade, made⟩ := bind_ok made
      obtain ⟨value, valued, means⟩ := ih innerMade reserved
      obtain ⟨result, computed, meaning⟩ := unary_preserved made means
      refine ⟨result, ?_, meaning⟩
      rw [Formula.value, valued]
      exact computed
  | binary left op right before after =>
      obtain ⟨leftExpr, leftMade, rest⟩ := bind_ok made
      obtain ⟨rightExpr, rightMade, made⟩ := bind_ok rest
      obtain ⟨first, valued, means⟩ :=
        before leftMade fun text member => reserved text (List.mem_append_left _ member)
      obtain ⟨second, otherValued, otherMeans⟩ :=
        after rightMade fun text member => reserved text (List.mem_append_right _ member)
      obtain ⟨result, computed, meaning⟩ := binary_preserved made means otherMeans
      refine ⟨result, ?_, meaning⟩
      rw [Formula.value, valued, otherValued]
      exact computed
  | literal value => exact literal_preserved made
  | symbol name =>
      refine symbol_preserved distinct made fun kind => reserved name.text ?_
      rw [parameters, if_pos kind]
      exact List.mem_singleton_self _
  | invalid message => cases made

end Meaning

-- Evaluating cannot fail where there is an expression, and the text has a reading and no other.
theorem code_preserves_value (table : Variables) (distinct : (table.entries.map fun entry => entry.2.id).Nodup)
    (formula : Formula) (expr : Expr) (made : formula.code table = .ok expr)
    (reserved : ∀ text ∈ formula.parameters, ∃ name, (name, text) ∈ Dictionary.standard.entries)
    (point : Environment.Point) :
    ∃ value, formula.value (.ofPoint table .standard point) = .ok value ∧
      (∃ term, ReadsAs expr.render term) ∧
      ∀ term, ReadsAs expr.render term → term.value? table point = some (.vector value) := by
  obtain ⟨value, valued, means⟩ := preserved distinct made reserved
  exact ⟨value, valued, means.reading⟩

-- The slots are numbered against the order of the names, and the numeral has a sign.
theorem code_preserves_value_sine :
    let table : Variables := ⟨[("a", ⟨1, 0.5, 0⟩), ("b", ⟨0, 2, -1⟩)], by decide⟩
    let formula : Formula :=
      .binary (.binary (.symbol ⟨.identifier, some "b", 0⟩) ⟨.dot, none, 1⟩ (.symbol ⟨.parameter, some "z", 2⟩))
        ⟨.minus, none, 3⟩
        (.unary ⟨.sin, none, 4⟩
          (.binary (.literal ⟨.imaginary, some "-2.5", 5⟩) ⟨.plus, none, 8⟩ (.symbol ⟨.parameter, some "t", 9⟩)))
    let expr : Expr :=
      .subtract (.binary .mult (.uniform "u0") (.verbatim "z"))
        (.unary .sin (.add (.constant "0.0" "-2.5") (.uniform "t")))
    let point : Environment.Point := ⟨⟨0.25, 0⟩, ⟨1, -1⟩, 2, .zero⟩
    (table.entries.map fun entry => entry.2.id).Nodup ∧ formula.code table = .ok expr ∧
      (∀ text ∈ formula.parameters, ∃ name, (name, text) ∈ Dictionary.standard.entries) ∧
      ∃ value, formula.value (.ofPoint table .standard point) = .ok value ∧
        (∃ term, ReadsAs expr.render term) ∧
        ∀ term, ReadsAs expr.render term → term.value? table point = some (.vector value) := by
  intro table formula expr point
  have distinct : (table.entries.map fun entry => entry.2.id).Nodup := by decide
  have made : formula.code table = .ok expr := by decide +kernel
  have reserved : ∀ text ∈ formula.parameters, ∃ name, (name, text) ∈ Dictionary.standard.entries := by
    intro text member
    have listed : text = "z" ∨ text = "t" := by simpa [formula, parameters, Token.text] using member
    rw [standard_entries]
    rcases listed with rfl | rfl
    · exact ⟨"z", by simp⟩
    · exact ⟨"t", by simp⟩
  exact ⟨distinct, made, reserved, code_preserves_value table distinct formula expr made reserved point⟩

end Formula

end EscapeTime
