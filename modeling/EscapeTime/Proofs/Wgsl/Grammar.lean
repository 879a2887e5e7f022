import EscapeTime.Proofs.Wgsl.Lexeme

set_option autoImplicit false

namespace EscapeTime.Wgsl

inductive Term where
  | number (text : String)
  | name (text : String)
  | field (whole : Term) (name : String)
  | negate (inner : Term)
  | add (left right : Term)
  | subtract (left right : Term)
  | call (function : String) (argument : Term)
  | callPair (function : String) (first second : Term)
  | vector (first second : Term)
deriving DecidableEq

inductive Tier where
  | sum
  | signed
  | operand
deriving DecidableEq

inductive Reads : Tier → List Lexeme → Term → Prop where
  | signed {text : List Lexeme} {term : Term} (inner : Reads .signed text term) : Reads .sum text term
  | add {left right : List Lexeme} {first second : Term} (before : Reads .sum left first)
      (after : Reads .signed right second) : Reads .sum (left ++ .mark '+' :: right) (.add first second)
  | subtract {left right : List Lexeme} {first second : Term} (before : Reads .sum left first)
      (after : Reads .signed right second) : Reads .sum (left ++ .mark '-' :: right) (.subtract first second)
  | operand {text : List Lexeme} {term : Term} (inner : Reads .operand text term) : Reads .signed text term
  | negate {text : List Lexeme} {term : Term} (inner : Reads .signed text term) :
      Reads .signed (.mark '-' :: text) (.negate term)
  | field {text : List Lexeme} {term : Term} (name : String) (inner : Reads .operand text term) :
      Reads .operand (text ++ [.mark '.', .name name]) (.field term name)
  | number (text : String) : Reads .operand [.number text] (.number text)
  | name (text : String) : Reads .operand [.name text] (.name text)
  | group {text : List Lexeme} {term : Term} (inner : Reads .sum text term) :
      Reads .operand (.mark '(' :: text ++ [.mark ')']) term
  | call {text : List Lexeme} {term : Term} (function : String) (argument : Reads .sum text term) :
      Reads .operand (.name function :: .mark '(' :: text ++ [.mark ')']) (.call function term)
  | callPair {left right : List Lexeme} {first second : Term} (function : String)
      (before : Reads .sum left first) (after : Reads .sum right second) :
      Reads .operand (.name function :: .mark '(' :: left ++ .mark ',' :: right ++ [.mark ')'])
        (.callPair function first second)
  | vector {left right : List Lexeme} {first second : Term} (before : Reads .sum left first)
      (after : Reads .sum right second) :
      Reads .operand
        (.name "vec2" :: .mark '<' :: .name "f32" :: .mark '>' :: .mark '(' :: left ++ .mark ',' :: right ++
          [.mark ')'])
        (.vector first second)

inductive Frame where
  | negate
  | add (left : Term)
  | subtract (left : Term)
  | group
  | call (function : String)
  | callPair (function : String) (first : Term)
  | vectorFirst
  | vectorSecond (first : Term)

inductive Phase where
  | operand
  | done (term : Term)
  | dot (term : Term)
  | angle
  | angleType
  | angleEnd

structure Reader where
  phase : Phase
  stack : List Frame

def settleSigns : Term → List Frame → Term × List Frame
  | term, .negate :: stack => settleSigns (.negate term) stack
  | term, stack => (term, stack)

-- A sign binds closer than a sum, and sums are taken from the left, so at most one is open.
def settle (term : Term) (stack : List Frame) : Term × List Frame :=
  match settleSigns term stack with
  | (right, .add left :: stack) => (.add left right, stack)
  | (right, .subtract left :: stack) => (.subtract left right, stack)
  | settled => settled

-- What a mark does behind an expression that nothing more can be taken into.
def goOn : Char → Term × List Frame → Option Reader
  | '+', (left, stack) => some ⟨.operand, .add left :: stack⟩
  | '-', (left, stack) => some ⟨.operand, .subtract left :: stack⟩
  | ',', (first, .call function :: stack) => some ⟨.operand, .callPair function first :: stack⟩
  | ',', (first, .vectorFirst :: stack) => some ⟨.operand, .vectorSecond first :: stack⟩
  | ')', (inner, .group :: stack) => some ⟨.done inner, stack⟩
  | ')', (argument, .call function :: stack) => some ⟨.done (.call function argument), stack⟩
  | ')', (second, .callPair function first :: stack) => some ⟨.done (.callPair function first second), stack⟩
  | ')', (second, .vectorSecond first :: stack) => some ⟨.done (.vector first second), stack⟩
  | _, _ => none

def Reader.step (reader : Reader) (lexeme : Lexeme) : Option Reader :=
  match reader.phase, lexeme with
  | .operand, .number text => some ⟨.done (.number text), reader.stack⟩
  | .operand, .name text => some ⟨.done (.name text), reader.stack⟩
  | .operand, .mark '(' => some ⟨.operand, .group :: reader.stack⟩
  | .operand, .mark '-' => some ⟨.operand, .negate :: reader.stack⟩
  | .done term, .mark '.' => some ⟨.dot term, reader.stack⟩
  | .done term, .mark '(' =>
      match term with
      | .name function => some ⟨.operand, .call function :: reader.stack⟩
      | _ => none
  | .done term, .mark '<' => if term = .name "vec2" then some ⟨.angle, reader.stack⟩ else none
  | .done term, .mark symbol => goOn symbol (settle term reader.stack)
  | .dot term, .name name => some ⟨.done (.field term name), reader.stack⟩
  | .angle, .name _ => some ⟨.angleType, reader.stack⟩
  | .angleType, .mark '>' => some ⟨.angleEnd, reader.stack⟩
  | .angleEnd, .mark '(' => some ⟨.operand, .vectorFirst :: reader.stack⟩
  | _, _ => none

def Reader.run (reader : Reader) (text : List Lexeme) : Option Reader :=
  text.foldlM Reader.step reader

theorem run_cons {reader next : Reader} {lexeme : Lexeme} (text : List Lexeme)
    (stepped : reader.step lexeme = some next) : reader.run (lexeme :: text) = next.run text := by
  rw [Reader.run, List.foldlM_cons, stepped]
  rfl

theorem run_append {reader next : Reader} {before : List Lexeme} (after : List Lexeme)
    (reached : reader.run before = some next) : reader.run (before ++ after) = next.run after := by
  rw [Reader.run, List.foldlM_append]
  rw [Reader.run] at reached
  rw [reached]
  rfl

-- Where an expression of its own begins, neither a sign nor a sum is open.
def Fresh : List Frame → Prop
  | .negate :: _ => False
  | .add _ :: _ => False
  | .subtract _ :: _ => False
  | _ => True

theorem settle_signs_fresh {stack : List Frame} (fresh : Fresh stack) (term : Term) :
    settleSigns term stack = (term, stack) := by
  cases stack with
  | nil => rfl
  | cons frame stack => cases frame <;> first | rfl | exact absurd fresh id

theorem settle_fresh {stack : List Frame} (fresh : Fresh stack) (term : Term) :
    settle term stack = (term, stack) := by
  rw [settle, settle_signs_fresh fresh]
  cases stack with
  | nil => rfl
  | cons frame stack => cases frame <;> first | rfl | exact absurd fresh id

def Tier.Found (text : List Lexeme) (term : Term) : Tier → Prop
  | .operand => ∀ stack, Reader.run ⟨.operand, stack⟩ text = some ⟨.done term, stack⟩
  | .signed => ∀ stack, ∃ last rest, Reader.run ⟨.operand, stack⟩ text = some ⟨.done last, rest⟩ ∧
      settleSigns last rest = settleSigns term stack
  | .sum => ∀ stack, Fresh stack → ∃ last rest, Reader.run ⟨.operand, stack⟩ text = some ⟨.done last, rest⟩ ∧
      settle last rest = (term, stack)

theorem run_sum {text : List Lexeme} {term : Term} (found : Tier.sum.Found text term) (stack : List Frame)
    (fresh : Fresh stack) {symbol : Char} {next : Reader} (more : List Lexeme)
    (ends : ∀ last rest, Reader.step ⟨.done last, rest⟩ (.mark symbol) = goOn symbol (settle last rest))
    (goes : goOn symbol (term, stack) = some next) :
    Reader.run ⟨.operand, stack⟩ (text ++ .mark symbol :: more) = next.run more := by
  obtain ⟨last, rest, reached, settled⟩ := found stack fresh
  rw [run_append _ reached, run_cons more]
  rw [ends, settled, goes]

theorem found_operation {left right : List Lexeme} {first second whole : Term} {symbol : Char} {frame : Frame}
    (before : Tier.sum.Found left first) (after : Tier.signed.Found right second)
    (ends : ∀ last rest, Reader.step ⟨.done last, rest⟩ (.mark symbol) = goOn symbol (settle last rest))
    (opens : ∀ stack, goOn symbol (first, stack) = some ⟨.operand, frame :: stack⟩)
    (closes : ∀ last stack, settleSigns last (frame :: stack) = (last, frame :: stack))
    (joins : ∀ last rest stack, settleSigns last rest = (second, frame :: stack) → settle last rest = (whole, stack)) :
    Tier.sum.Found (left ++ .mark symbol :: right) whole := by
  intro stack fresh
  obtain ⟨last, rest, reached, settled⟩ := after (frame :: stack)
  refine ⟨last, rest, ?_, joins last rest stack (settled.trans (closes second stack))⟩
  rw [run_sum before stack fresh right ends (opens stack)]
  exact reached

theorem Reads.found {tier : Tier} {text : List Lexeme} {term : Term} (reads : Reads tier text term) :
    tier.Found text term := by
  induction reads with
  | signed _ ih =>
      intro stack fresh
      obtain ⟨last, rest, reached, settled⟩ := ih stack
      refine ⟨last, rest, reached, ?_⟩
      rw [settle, settled, ← settle, settle_fresh fresh]
  | @add left right first second _ _ before after =>
      refine found_operation before after (fun _ _ => rfl) (fun _ => rfl) (fun _ _ => rfl) ?_
      intro last rest stack settled
      rw [settle, settled]
  | @subtract left right first second _ _ before after =>
      refine found_operation before after (fun _ _ => rfl) (fun _ => rfl) (fun _ _ => rfl) ?_
      intro last rest stack settled
      rw [settle, settled]
  | operand _ ih => exact fun stack => ⟨_, stack, ih stack, rfl⟩
  | negate _ ih =>
      intro stack
      obtain ⟨last, rest, reached, settled⟩ := ih (.negate :: stack)
      exact ⟨last, rest, (run_cons _ rfl).trans reached, settled⟩
  | field name _ ih =>
      intro stack
      rw [run_append _ (ih stack)]
      rfl
  | number text => exact fun stack => rfl
  | name text => exact fun stack => rfl
  | group _ ih =>
      intro stack
      rw [List.cons_append, run_cons _ rfl, run_sum ih (.group :: stack) trivial [] (fun _ _ => rfl) rfl]
      rfl
  | call function _ ih =>
      intro stack
      rw [List.cons_append, List.cons_append, run_cons _ rfl, run_cons _ rfl,
        run_sum ih (.call function :: stack) trivial [] (fun _ _ => rfl) rfl]
      rfl
  | @callPair left right first second function _ _ before after =>
      intro stack
      rw [List.append_assoc, List.cons_append, List.cons_append, run_cons _ rfl, run_cons _ rfl, List.cons_append,
        run_sum before (.call function :: stack) trivial _ (fun _ _ => rfl) rfl,
        run_sum after (.callPair function first :: stack) trivial [] (fun _ _ => rfl) rfl]
      rfl
  | @vector left right first second _ _ before after =>
      intro stack
      have opened : ∀ text, Reader.run ⟨.operand, stack⟩
          (.name "vec2" :: .mark '<' :: .name "f32" :: .mark '>' :: .mark '(' :: text) =
            Reader.run ⟨.operand, .vectorFirst :: stack⟩ text := fun _ => rfl
      simp only [List.append_assoc, List.cons_append]
      rw [opened, run_sum before (.vectorFirst :: stack) trivial _ (fun _ _ => rfl) rfl,
        run_sum after (.vectorSecond first :: stack) trivial [] (fun _ _ => rfl) rfl]
      rfl

theorem Reads.unique {text : List Lexeme} {first second : Term} (one : Reads .sum text first)
    (other : Reads .sum text second) : first = second := by
  obtain ⟨last, rest, reached, settled⟩ := one.found [] trivial
  obtain ⟨otherLast, otherRest, otherReached, otherSettled⟩ := other.found [] trivial
  obtain ⟨rfl, rfl⟩ : last = otherLast ∧ rest = otherRest := by
    have same := reached.symm.trans otherReached
    simpa using same
  exact congrArg Prod.fst (settled.symm.trans otherSettled)

end EscapeTime.Wgsl
