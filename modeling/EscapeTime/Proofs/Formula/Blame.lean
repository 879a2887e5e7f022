import EscapeTime.Proofs.Decimal.Pointed
import EscapeTime.Proofs.Formula.FirstFault

set_option autoImplicit false

namespace EscapeTime

def Blames (message : String) (position : Nat) : Prop :=
  (∃ offset : Nat, message =
    "invalid syntax at token " ++ toString position ++ " (character " ++ toString offset ++ ")") ∨
  (∃ offset : Nat, message =
    "expected closing delimiter at token " ++ toString position ++ " (character " ++ toString offset ++ ")") ∨
  ∃ token : String, message = "unexpected " ++ token ++ " at token " ++ toString position

def BlamesEnd (message : String) : Prop :=
  (∃ count : Nat, message = "invalid syntax at end of input (token " ++ toString count ++ ")") ∨
  message = "expected closing delimiter at end of input"

namespace Fault

theorem digits_before {xs ys s t : List Char} {a b : Char} (left : ∀ c ∈ xs, c.isDigit = true)
    (right : ∀ c ∈ ys, c.isDigit = true) (leftEnds : a.isDigit = false) (rightEnds : b.isDigit = false)
    (same : xs ++ a :: s = ys ++ b :: t) : xs = ys := by
  have digits := congrArg (List.takeWhile Char.isDigit) same
  rw [List.takeWhile_append_of_pos left, List.takeWhile_append_of_pos right] at digits
  simpa [leftEnds, rightEnds] using digits

theorem digits_injective {j k : Nat} (same : Nat.toDigits 10 j = Nat.toDigits 10 k) : j = k := by
  rw [← Decimal.of_digits_digits j, ← Decimal.of_digits_digits k, Decimal.digits, Decimal.digits, same]

theorem number_before {j k : Nat} {s t : List Char}
    (same : Nat.toDigits 10 j ++ ' ' :: s = Nat.toDigits 10 k ++ ' ' :: t) : j = k :=
  digits_injective (digits_before (Decimal.digits_is_digit j) (Decimal.digits_is_digit k) rfl rfl same)

theorem number_behind {j k : Nat} {s t : List Char}
    (same : s ++ ' ' :: Nat.toDigits 10 j = t ++ ' ' :: Nat.toDigits 10 k) : j = k := by
  have reversed := congrArg List.reverse same
  simp only [List.reverse_append, List.reverse_cons, List.append_assoc, List.singleton_append] at reversed
  refine digits_injective (List.reverse_injective (digits_before ?_ ?_ rfl rfl reversed)) <;>
    exact fun c member => Decimal.digits_is_digit _ c (List.mem_reverse.mp member)

-- The three forms start with different words, and the number stands between characters that are not digits.
-- The equations of `message` are slow to make, so that it is opened with delta.
theorem position_of_blames {fault : Fault} {k : Nat} (blames : Blames fault.message k) :
    fault.position? = some k := by
  delta message at blames
  obtain ⟨_, same⟩ | ⟨_, same⟩ | ⟨text, same⟩ := blames
  · cases fault with
    | misplaced position _ => exact congrArg some (number_before (by simpa using congrArg String.toList same))
    | _ => simpa using congrArg String.toList same
  · cases fault with
    | unclosed position _ => exact congrArg some (number_before (by simpa using congrArg String.toList same))
    | _ => simpa using congrArg String.toList same
  · cases fault with
    | trailing token position =>
        have chars : (token.display ++ " at token").toList ++ ' ' :: Nat.toDigits 10 position =
            (text ++ " at token").toList ++ ' ' :: Nat.toDigits 10 k := by
          simpa using congrArg String.toList same
        exact congrArg some (number_behind chars)
    | _ => simpa using congrArg String.toList same

theorem position_of_blames_end {fault : Fault} (blames : BlamesEnd fault.message) : fault.position? = none := by
  delta message at blames
  obtain ⟨_, same⟩ | same := blames
  all_goals
    cases fault with
    | missingOperand _ | unclosedAtEnd => rfl
    | _ => simpa using congrArg String.toList same

theorem blames_of_position {fault : Fault} {k : Nat} (position : fault.position? = some k) :
    Blames fault.message k := by
  cases fault with
  | misplaced _ offset =>
      obtain rfl := Option.some.inj position
      exact .inl ⟨offset, rfl⟩
  | unclosed _ offset =>
      obtain rfl := Option.some.inj position
      exact .inr (.inl ⟨offset, rfl⟩)
  | trailing token _ =>
      obtain rfl := Option.some.inj position
      exact .inr (.inr ⟨token.display, rfl⟩)
  | _ => cases position

theorem blames_end_of_position {fault : Fault} (position : fault.position? = none) : BlamesEnd fault.message := by
  cases fault with
  | missingOperand count => exact .inl ⟨count, rfl⟩
  | unclosedAtEnd => exact .inr rfl
  | _ => cases position

end Fault

namespace Formula

open Grammar

variable {implicit : ImplicitFactor} {tokens : List Token} {fault : Fault}

theorem read_all_fault (found : (readAll ⟨.strict, implicit⟩ tokens).fault = some fault) :
    ∃ whole, Descent ⟨.strict, implicit⟩ tokens.length (.level .sum tokens) whole ∧
      (whole.fault = some fault ∨ whole.fault = none ∧ ∃ token tail, whole.rest = token :: tail ∧
        fault = .trailing token (tokens.length - whole.rest.length)) := by
  refine ⟨_, read_descent ⟨.strict, implicit⟩ tokens.length .sum tokens, ?_⟩
  rw [readAll] at found
  generalize (read ⟨.strict, implicit⟩ tokens.length .sum tokens).val = whole at found ⊢
  obtain ⟨tree, early, rest⟩ := whole
  cases rest with
  | nil => exact .inl found
  | cons token tail =>
      cases early with
      | some other => exact .inl found
      | none => exact .inr ⟨rfl, token, tail, rfl, (Option.some.inj found).symm⟩

-- The fault of the whole text stands in front of `spot`. What is left behind a formula is blamed too.
theorem fault_stands (found : (readAll ⟨.strict, implicit⟩ tokens).fault = some fault) :
    ∃ read spot, tokens = read ++ spot ∧ fault.position? = spot.head?.map (fun _ => tokens.length - spot.length) ∧
      (∃ more, (spot = [] → more ≠ []) ∧ Nonempty (Derivation implicit (.level .sum) (read ++ more))) ∧
      ∀ token tail, spot = token :: tail →
        ∀ more, IsEmpty (Derivation implicit (.level .sum) (read ++ token :: more)) := by
  obtain ⟨whole, descent, early | ⟨fine, token, tail, next, rfl⟩⟩ := read_all_fault found
  · obtain ⟨read, spot, split, place, ⟨more, present, completed⟩, refused⟩ := blocked_of_descent descent trivial early
    refine ⟨read, spot, split, place, ⟨more, fun _ => present, completed⟩, fun token tail next more => ⟨?_⟩⟩
    intro derivation
    exact refused token tail next more 0 _ (reads_derivation derivation 0) rfl
  · obtain ⟨read, known, split, again⟩ := read_settled descent fine
    refine ⟨read, whole.rest, split, ?_, ⟨[], ?_, ?_⟩, fun token tail next more => ⟨?_⟩⟩
    · rw [next]
      rfl
    · rw [next]
      exact fun ended => nomatch ended
    · rwa [List.append_nil]
    · intro derivation
      have same := (reads_derivation derivation 0).unique (again token tail next 0 more)
      cases congrArg Reading.rest same

theorem blamed_token {k : Nat} (found : (readAll ⟨.strict, implicit⟩ tokens).fault = some fault)
    (position : fault.position? = some k) :
    k < tokens.length ∧ (∃ more, Nonempty (Derivation implicit (.level .sum) (tokens.take k ++ more))) ∧
      ∀ other, Nonempty (Derivation implicit (.level .sum) other) →
        ¬ (tokens.take (k + 1)).map Token.kind <+: other.map Token.kind := by
  obtain ⟨read, spot, split, place, ⟨more, -, completed⟩, refused⟩ := fault_stands found
  rw [position] at place
  cases spot with
  | nil => cases place
  | cons token tail =>
      have count : k = read.length := by
        rw [Option.some.inj place, split, List.length_append, Nat.add_sub_cancel]
      subst count split
      rw [List.take_left, List.take_length_add_append, List.take_succ_cons, List.take_zero]
      refine ⟨by simp, ⟨more, completed⟩, ?_⟩
      rintro other ⟨derivation⟩ ⟨back, same⟩
      -- What follows in `other` follows the blamed token as well.
      obtain ⟨front, behind, rfl, first, -⟩ := List.map_eq_append_iff.mp same.symm
      have alike : (read ++ token :: behind).map Token.kind = (front ++ behind).map Token.kind := by
        simp [first]
      obtain ⟨again⟩ := derivation.alike alike
      exact (refused token tail rfl behind).false again

theorem blamed_end (found : (readAll ⟨.strict, implicit⟩ tokens).fault = some fault)
    (position : fault.position? = none) :
    ∃ more, more ≠ [] ∧ Nonempty (Derivation implicit (.level .sum) (tokens ++ more)) := by
  obtain ⟨read, spot, split, place, ⟨more, present, completed⟩, -⟩ := fault_stands found
  rw [position] at place
  cases spot with
  | nil => exact ⟨more, present rfl, by rwa [split, List.append_nil]⟩
  | cons token tail => cases place

theorem valid_iff_derivation : (parse ⟨.strict, implicit⟩ tokens).valid = true ↔
    Nonempty (Derivation implicit (.level .sum) tokens) := by
  refine ⟨derivation_of_valid, ?_⟩
  rintro ⟨derivation⟩
  rw [parse_of_derivation .strict derivation]

theorem strict_message_points (implicit : ImplicitFactor) (tokens : List Token)
    (invalid : (parse ⟨.strict, implicit⟩ tokens).valid = false) :
    ∃ message, (parse ⟨.strict, implicit⟩ tokens).message = some message ∧
      ((∃ k, Blames message k) ∨ BlamesEnd message) ∧
      (∀ k, Blames message k → k < tokens.length ∧
        (∃ more, (parse ⟨.strict, implicit⟩ (tokens.take k ++ more)).valid = true) ∧
        ∀ other, (parse ⟨.strict, implicit⟩ other).valid = true →
          ¬ (tokens.take (k + 1)).map Token.kind <+: other.map Token.kind) ∧
      (BlamesEnd message → ∃ more, more ≠ [] ∧ (parse ⟨.strict, implicit⟩ (tokens ++ more)).valid = true) := by
  cases found : (readAll ⟨.strict, implicit⟩ tokens).fault with
  | none => simp [parse, found] at invalid
  | some fault =>
      simp only [valid_iff_derivation]
      refine ⟨fault.message, by rw [parse, found]; rfl, ?_, fun k blames => ?_, fun blames => ?_⟩
      · cases position : fault.position? with
        | some k => exact .inl ⟨k, Fault.blames_of_position position⟩
        | none => exact .inr (Fault.blames_end_of_position position)
      · exact blamed_token found (Fault.position_of_blames blames)
      · exact blamed_end found (Fault.position_of_blames_end blames)

-- In (z+)2 an operand is missing before the closing parenthesis.
def unfinishedSum : List Token :=
  [⟨.leftParen, none, 0⟩, ⟨.identifier, some "z", 1⟩, ⟨.plus, none, 2⟩, ⟨.rightParen, none, 3⟩, ⟨.real, some "2", 4⟩]

theorem strict_message_points_unfinished_sum :
    (parse ⟨.strict, .exponent⟩ unfinishedSum).message = some "invalid syntax at token 3 (character 3)" ∧
      (∃ more, (parse ⟨.strict, .exponent⟩ (unfinishedSum.take 3 ++ more)).valid = true) ∧
      ∀ other, (parse ⟨.strict, .exponent⟩ other).valid = true →
        ¬ [.leftParen, .identifier, .plus, .rightParen] <+: other.map Token.kind := by
  have shown : (parse ⟨.strict, .exponent⟩ unfinishedSum).message = some "invalid syntax at token 3 (character 3)" := by
    decide +kernel
  obtain ⟨message, known, -, points, -⟩ := strict_message_points .exponent unfinishedSum (by decide +kernel)
  obtain rfl := Option.some.inj (shown.symm.trans known)
  obtain ⟨-, completes, refuses⟩ := points 3 (.inl ⟨3, by decide +kernel⟩)
  exact ⟨shown, completes, refuses⟩

end Formula

end EscapeTime
