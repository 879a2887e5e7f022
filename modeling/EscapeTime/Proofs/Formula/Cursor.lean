import EscapeTime.Proofs.Formula.Written

/- Reading with a single cursor that moves over the tokens. Nothing here shows that it ends: how deep calls are nested
is limited from outside, and a walk that goes deeper halts. Every use of a token is checked too: to take one at
the end of the list, or to look at a position that has none, halts the walk. With a depth in proportion to the
tokens the walk over any list comes to its end, and what it gives is the parse. -/

set_option autoImplicit false

namespace EscapeTime

structure Cursor where
  position : Nat
  valid : Bool
  message : Option String

inductive Halt where
  | tooDeep
  | took (position : Nat)
  | looked (position : Nat)

abbrev Walk := StateT Cursor (Except Halt)

namespace Walk

section Program

variable (mode : ReadMode) (tokens : List Token)

def atEnd : Walk Bool := do
  return tokens.length ≤ (← get).position

def peek : Walk (Option Token) := do
  return tokens[(← get).position]?

def sees (kinds : Kind → Bool) : Walk Bool := do
  return (← peek tokens).any fun token => kinds token.kind

def look (position : Nat) : Walk Token :=
  match tokens[position]? with
  | some token => pure token
  | none => throw (.looked position)

def advance : Walk Token := do
  let cursor ← get
  if tokens.length ≤ cursor.position then throw (.took cursor.position)
  else
    let token ← look tokens (min cursor.position (tokens.length - 1))
    set { cursor with position := cursor.position + 1 }
    return token

def fail (fault : Fault) : Walk Formula := do
  modify fun cursor => { cursor with valid := false, message := cursor.message.or (some fault.message) }
  return .invalid fault.message

def close (inner : Formula) : Walk Formula := do
  match mode.grouping with
  | .lenient =>
      if ← atEnd tokens then return inner
      else
        let _ ← advance tokens
        return inner
  | .strict =>
      if ← sees tokens (· = .rightParen) then
        let _ ← advance tokens
        return inner
      else
        match ← peek tokens with
        | some token => fail (.unclosed (← get).position token.offset)
        | none => fail .unclosedAtEnd

def round (reader : Level → Walk Formula) (left : Formula) : Walk Formula := do
  let first ← look tokens (← get).position
  return .binary left ⟨.dot, none, first.offset⟩ (← reader (mode.implicit.level first.kind))

def goOn (reader : Level → Walk Formula) (whole : Formula) : Walk Formula := do
  if ← sees tokens (fun kind => mode.implicit = .exponent ∧ kind = .dot) then
    let op ← advance tokens
    return .binary whole op (← reader .product)
  else return whole

mutual

def read (depth : Nat) (level : Level) : Walk Formula :=
  match depth, level with
  | 0, _ => throw .tooDeep
  | depth + 1, .sum => do
      let left ← read depth .product
      if ← sees tokens (fun kind => kind = .plus ∨ kind = .minus) then
        let op ← advance tokens
        return .binary left op (← read depth .sum)
      else return left
  | depth + 1, .product => do
      let left ← read depth .negation
      if ← sees tokens (· = .dot) then
        let op ← advance tokens
        return .binary left op (← read depth .product)
      else if ← sees tokens Kind.startsFactor then
        goOn mode tokens (read depth) (← rounds depth left)
      else return left
  | depth + 1, .negation => do
      if ← sees tokens (· = .minus) then
        let op ← advance tokens
        return .unary op (← read depth .negation)
      else read depth .power
  | depth + 1, .power => do
      let base ← read depth .quotient
      if ← sees tokens (· = .caret) then
        let op ← advance tokens
        return .binary base op (← read depth .power)
      else return base
  | depth + 1, .quotient => do
      if ← sees tokens (· = .fraction) then
        let op ← advance tokens
        let numerator ← read depth .quotient
        return .binary numerator op (← read depth .quotient)
      else read depth .call
  | depth + 1, .call => do
      if ← sees tokens Kind.isFunction then
        let op ← advance tokens
        return .unary op (← read depth .call)
      else read depth .operand
  | depth + 1, .operand => do
      match ← peek tokens with
      | none => fail (.missingOperand (← get).position)
      | some token =>
          if token.kind.isLiteral then return .literal (← advance tokens)
          else if token.kind.isName then return .symbol (← advance tokens)
          else if token.kind = .leftParen then
            let _ ← advance tokens
            close mode tokens (← read depth .sum)
          else
            let position := (← get).position
            fail (.misplaced position (← look tokens position).offset)

def rounds (depth : Nat) (left : Formula) : Walk Formula :=
  match depth with
  | 0 => throw .tooDeep
  | depth + 1 => do
      if ← sees tokens Kind.startsFactor then rounds depth (← round mode tokens (read depth) left)
      else return left

end

def finish (tree : Formula) : Walk Formula := do
  if ← atEnd tokens then return tree
  else
    match mode.grouping with
    | .lenient => return tree
    | .strict =>
        let position := (← get).position
        fail (.trailing (← look tokens position) position)

def parse (depth : Nat) : Walk Parse := do
  let tree ← finish mode tokens (← read mode tokens depth .sum)
  let cursor ← get
  return ⟨tree, cursor.valid, cursor.message⟩

end Program

def Gives {α : Type} (walk : Walk α) (start : Cursor) (value : α) (final : Cursor) : Prop :=
  walk.run start = .ok (value, final)

theorem gives_bind_iff {α β : Type} {walk : Walk α} {next : α → Walk β} {start final : Cursor} {value : β} :
    (walk >>= next).Gives start value final ↔
      ∃ first middle, walk.Gives start first middle ∧ (next first).Gives middle value final := by
  simp only [Gives, StateT.run_bind]
  cases outcome : walk.run start with
  | error halt => simp [bind, Except.bind]
  | ok result => simp [bind, Except.bind, Prod.ext_iff, and_assoc]

theorem Gives.bind {α β : Type} {walk : Walk α} {next : α → Walk β} {start middle final : Cursor} {first : α}
    {value : β} (before : walk.Gives start first middle) (behind : (next first).Gives middle value final) :
    (walk >>= next).Gives start value final :=
  gives_bind_iff.mpr ⟨first, middle, before, behind⟩

end Walk

namespace Cursor

def start : Cursor := ⟨0, true, none⟩

def next (cursor : Cursor) : Cursor :=
  { cursor with position := cursor.position + 1 }

def faulty (cursor : Cursor) (fault : Fault) : Cursor :=
  { cursor with valid := false, message := cursor.message.or (some fault.message) }

-- Where a cursor is after a reading: the position is told by what the reading has left of `total` tokens.
def after (cursor : Cursor) (total : Nat) (reading : Reading) : Cursor where
  position := total - reading.rest.length
  valid := cursor.valid && reading.fault.isNone
  message := cursor.message.or (reading.fault.map Fault.message)

structure At (cursor : Cursor) (tokens ahead : List Token) : Prop where
  suffix : ahead <:+ tokens
  position : cursor.position + ahead.length = tokens.length

variable {cursor : Cursor} {tokens ahead rest : List Token} {token : Token}

theorem At.peek (place : cursor.At tokens ahead) : tokens[cursor.position]? = ahead.head? := by
  obtain ⟨⟨front, rfl⟩, position⟩ := place
  have here : cursor.position = front.length := by
    rw [List.length_append] at position
    omega
  rw [here, List.getElem?_append_right (Nat.le_refl _), Nat.sub_self, List.head?_eq_getElem?]

theorem At.ends_iff (place : cursor.At tokens ahead) : tokens.length ≤ cursor.position ↔ ahead = [] := by
  rw [← place.position, ← List.length_eq_zero_iff]
  omega

theorem At.next (place : cursor.At tokens (token :: rest)) : cursor.next.At tokens rest where
  suffix := (List.suffix_cons token rest).trans place.suffix
  position := by
    have position := place.position
    rw [List.length_cons] at position
    simp only [Cursor.next]
    omega

theorem at_drop (within : cursor.position ≤ tokens.length) :
    cursor.At tokens (tokens.drop cursor.position) where
  suffix := List.drop_suffix _ _
  position := by
    rw [List.length_drop]
    omega

theorem at_cons (here : tokens[cursor.position]? = some token) :
    cursor.At tokens (token :: tokens.drop (cursor.position + 1)) := by
  obtain ⟨within, rfl⟩ := List.getElem?_eq_some_iff.mp here
  rw [← List.drop_eq_getElem_cons within]
  exact at_drop (Nat.le_of_lt within)

theorem after_at (cursor : Cursor) {reading : Reading} (suffix : reading.rest <:+ tokens) :
    (cursor.after tokens.length reading).At tokens reading.rest where
  suffix := suffix
  position := Nat.sub_add_cancel suffix.length_le

theorem after_binary (cursor : Cursor) (total : Nat) (left : Reading) (op : Token) (right : Reading) :
    (cursor.after total left).after total right = cursor.after total (left.binary op right) := by
  simp [after, Reading.binary, Option.map_or, Option.or_assoc, Bool.and_assoc]

theorem after_fail (cursor : Cursor) (total : Nat) (inner : Reading) (fault : Fault) :
    (cursor.after total inner).faulty fault = cursor.after total (inner.fail fault) := by
  simp [after, faulty, Reading.fail]

theorem At.after_invalid (place : cursor.At tokens ahead) (fault : Fault) :
    cursor.faulty fault = cursor.after tokens.length (.invalid fault ahead) := by
  simp [after, faulty, Reading.invalid, ← place.position]

theorem At.after_clean (place : cursor.At tokens rest) (tree : Formula) :
    cursor = cursor.after tokens.length ⟨tree, none, rest⟩ := by
  simp [after, ← place.position]

theorem next_after {inner : Reading} (suffix : inner.rest <:+ tokens) (ahead : inner.rest = token :: rest) :
    (cursor.after tokens.length inner).next = cursor.after tokens.length { inner with rest } := by
  have length := suffix.length_le
  rw [ahead, List.length_cons] at length
  simp only [after, next, ahead, List.length_cons, mk.injEq, and_true]
  omega

end Cursor

namespace Walk

variable {mode : ReadMode} {tokens ahead rest : List Token} {token : Token} {cursor : Cursor}

theorem get_gives (cursor : Cursor) : (get : Walk Cursor).Gives cursor cursor cursor := rfl

theorem pure_gives {α : Type} (value : α) (cursor : Cursor) : (pure value : Walk α).Gives cursor value cursor := rfl

theorem at_end_gives (place : cursor.At tokens ahead) : (atEnd tokens).Gives cursor ahead.isEmpty cursor := by
  have ends : decide (tokens.length ≤ cursor.position) = ahead.isEmpty := by
    rw [Bool.eq_iff_iff, decide_eq_true_iff, place.ends_iff, List.isEmpty_iff]
  rw [← ends]
  rfl

theorem peek_gives (place : cursor.At tokens ahead) : (peek tokens).Gives cursor ahead.head? cursor := by
  rw [← place.peek]
  rfl

theorem sees_gives (place : cursor.At tokens ahead) (kinds : Kind → Bool) :
    (sees tokens kinds).Gives cursor (ahead.head?.any fun token => kinds token.kind) cursor :=
  (peek_gives place).bind rfl

theorem look_gives (place : cursor.At tokens (token :: rest)) :
    (look tokens cursor.position).Gives cursor token cursor := by
  rw [look, place.peek]
  rfl

-- A token is taken exactly where there is one, and the cursor moves by one.
theorem advance_gives_iff {final : Cursor} :
    (advance tokens).Gives cursor token final ↔ tokens[cursor.position]? = some token ∧ final = cursor.next := by
  have clamped (inside : ¬ tokens.length ≤ cursor.position) :
      min cursor.position (tokens.length - 1) = cursor.position := by omega
  constructor
  · intro gives
    obtain ⟨_, _, ⟨⟩, taken⟩ := gives_bind_iff.mp gives
    split at taken
    · cases taken
    · rename_i inside
      rw [clamped inside] at taken
      obtain ⟨seen, _, looked, moved⟩ := gives_bind_iff.mp taken
      rw [look] at looked
      split at looked
      · rename_i found
        cases looked
        cases moved
        exact ⟨found, rfl⟩
      · cases looked
  · rintro ⟨here, rfl⟩
    have place := Cursor.at_cons here
    have inside : ¬ tokens.length ≤ cursor.position := by simp [place.ends_iff]
    refine (get_gives cursor).bind ?_
    rw [if_neg inside, clamped inside]
    exact (look_gives place).bind rfl

theorem advance_gives (place : cursor.At tokens (token :: rest)) :
    (advance tokens).Gives cursor token cursor.next :=
  advance_gives_iff.mpr ⟨place.peek, rfl⟩

theorem fail_gives (fault : Fault) (cursor : Cursor) :
    (fail fault).Gives cursor (.invalid fault.message) (cursor.faulty fault) :=
  rfl

section Branch

variable {α : Type} {yes no : Walk α} {kinds : Kind → Bool} {value : α} {final : Cursor}

theorem branch_taken (place : cursor.At tokens (token :: rest)) (holds : kinds token.kind = true)
    (gives : yes.Gives cursor value final) :
    (do if ← sees tokens kinds then yes else no).Gives cursor value final := by
  refine (sees_gives place kinds).bind ?_
  rwa [List.head?_cons, Option.any_some, if_pos holds]

theorem branch_passed (place : cursor.At tokens ahead) (ends : ∀ op ∈ ahead.head?, kinds op.kind = false)
    (gives : no.Gives cursor value final) :
    (do if ← sees tokens kinds then yes else no).Gives cursor value final := by
  refine (sees_gives place kinds).bind ?_
  have unseen : ahead.head?.any (fun op => kinds op.kind) = false := by
    cases first : ahead.head? with
    | none => rfl
    | some op => exact ends op first
  rwa [if_neg (Bool.eq_false_iff.mp unseen)]

end Branch

theorem close_gives {inner : Reading} (place : (cursor.after tokens.length inner).At tokens inner.rest) :
    (close mode tokens inner.tree).Gives (cursor.after tokens.length inner)
      (inner.close mode.grouping tokens.length).tree
      (cursor.after tokens.length (inner.close mode.grouping tokens.length)) := by
  obtain ⟨grouping, implicit⟩ := mode
  obtain ⟨tree, fault, rest⟩ := inner
  cases grouping with
  | lenient =>
      refine (at_end_gives place).bind ?_
      cases rest with
      | nil => rfl
      | cons token rest =>
          refine (advance_gives place).bind ?_
          rw [Cursor.next_after place.suffix rfl]
          rfl
  | strict =>
      cases rest with
      | nil =>
          refine branch_passed place (Formula.ahead_of_nil rfl _) ((peek_gives place).bind ?_)
          exact cursor.after_fail _ _ _ ▸ fail_gives _ _
      | cons token rest =>
          by_cases closes : token.kind = .rightParen
          · refine branch_taken place (decide_eq_true closes) ((advance_gives place).bind ?_)
            rw [Cursor.next_after place.suffix rfl]
            simp only [Reading.close, closes, if_true]
            rfl
          · refine branch_passed place (Formula.ahead_of_cons rfl (decide_eq_false closes)) ((peek_gives place).bind ?_)
            refine (get_gives _).bind ?_
            simp only [Reading.close, closes, if_false]
            exact cursor.after_fail _ _ _ ▸ fail_gives _ _

theorem joins {more : Walk Formula} {left right : Reading}
    (place : (cursor.after tokens.length left).At tokens (token :: rest))
    (second : more.Gives (cursor.after tokens.length left).next right.tree
      ((cursor.after tokens.length left).after tokens.length right)) :
    (do let op ← advance tokens; return .binary left.tree op (← more) : Walk Formula).Gives
      (cursor.after tokens.length left) (left.binary token right).tree
      (cursor.after tokens.length (left.binary token right)) := by
  rw [← cursor.after_binary]
  exact (advance_gives place).bind (second.bind rfl)

theorem applies {more : Walk Formula} {inner : Reading} (place : cursor.At tokens (token :: rest))
    (first : more.Gives cursor.next inner.tree (cursor.after tokens.length inner)) :
    (do let op ← advance tokens; return .unary op (← more) : Walk Formula).Gives cursor
      (inner.unary token).tree (cursor.after tokens.length (inner.unary token)) :=
  (advance_gives place).bind (first.bind rfl)

theorem leaf_gives (leaf : Token → Formula) (place : cursor.At tokens (token :: rest)) :
    (do return leaf (← advance tokens) : Walk Formula).Gives cursor (leaf token)
      (cursor.after tokens.length ⟨leaf token, none, rest⟩) := by
  refine (advance_gives place).bind ?_
  exact place.next.after_clean (leaf token) ▸ pure_gives _ _

theorem round_gives {reader : Level → Walk Formula} {final : Cursor} {factor : Formula} (left : Formula)
    (place : cursor.At tokens (token :: rest))
    (first : (reader (mode.implicit.level token.kind)).Gives cursor factor final) :
    (round mode tokens reader left).Gives cursor (.binary left ⟨.dot, none, token.offset⟩ factor) final :=
  (get_gives cursor).bind ((look_gives place).bind (first.bind rfl))

theorem rounds_of_round {left tree whole : Formula} {middle final : Cursor} {depth : Nat}
    {next : Formula → Walk Formula} (place : cursor.At tokens (token :: rest))
    (factor : token.kind.startsFactor = true)
    (first : (round mode tokens (read mode tokens depth) left).Gives cursor tree middle)
    (second : (rounds mode tokens depth tree >>= next).Gives middle whole final) :
    (rounds mode tokens (depth + 1) left >>= next).Gives cursor whole final := by
  obtain ⟨factors, behind, turned, ended⟩ := gives_bind_iff.mp second
  refine Gives.bind ?_ ended
  rw [rounds]
  exact branch_taken place factor (first.bind turned)

theorem arrives {level : Level} {reading : Reading}
    (descent : Formula.Descent mode tokens.length (.level level ahead) reading) (place : cursor.At tokens ahead) :
    (cursor.after tokens.length reading).At tokens reading.rest :=
  cursor.after_at ((Formula.rest_suffix descent).trans place.suffix)

theorem fewer {total : Nat} {level : Level} {reading : Reading}
    (descent : Formula.Descent mode total (.level level ahead) reading) (next : reading.rest = token :: rest) :
    rest.length < ahead.length := by
  have length := (Formula.rest_suffix descent).length_le
  rwa [next, List.length_cons] at length

theorem fewer_factor {total : Nat} {right : Reading} (factor : token.kind.startsFactor = true)
    (descent : Formula.Descent mode total (.level (mode.implicit.level token.kind) (token :: rest)) right) :
    right.rest.length < (token :: rest).length := by
  rw [← Formula.read_of_descent descent]
  exact Reading.lt_of_starts (mode.implicit.level_starts factor) (Formula.read mode total _ _).property

theorem deep_tighter {count depth : Nat} {tight loose : Level} (ranks : tight.rank < loose.rank)
    (deep : 8 * count + loose.rank ≤ depth) : 8 * count + tight.rank < depth :=
  Nat.lt_of_lt_of_le (Nat.add_lt_add_left ranks _) deep

theorem deep_fewer {count less depth : Nat} (level : Level) (fewer : less < count) (deep : 8 * count ≤ depth) :
    8 * less + level.rank < depth := by
  have bound : level.rank < 8 := by cases level <;> decide
  omega

-- A task of the descent and what it reads, walked from any cursor that stands before the task's tokens. Between
-- two tokens calls go through each level once at most.
def Follows (mode : ReadMode) (tokens : List Token) : Formula.Task → Reading → Prop
  | .level level ahead, reading => ∀ (start : Cursor) (depth : Nat), start.At tokens ahead →
      8 * ahead.length + level.rank < depth →
      (read mode tokens depth level).Gives start reading.tree (start.after tokens.length reading)
  | .chain left, whole => ∀ (start : Cursor) (depth more : Nat),
      (start.after tokens.length left).At tokens left.rest →
      8 * left.rest.length + 5 < depth → 8 * left.rest.length ≤ more →
      (rounds mode tokens depth left.tree >>= goOn mode tokens (read mode tokens more)).Gives
        (start.after tokens.length left) whole.tree (start.after tokens.length whole)

theorem follows_level {level : Level} {reading : Reading}
    (step : ∀ (start : Cursor) (depth : Nat), start.At tokens ahead → 8 * ahead.length + level.rank ≤ depth →
      (read mode tokens (depth + 1) level).Gives start reading.tree (start.after tokens.length reading)) :
    Follows mode tokens (.level level ahead) reading
  | start, depth + 1, place, deep => step start depth place (Nat.le_of_lt_succ deep)

theorem follows_chain {left whole : Reading}
    (step : ∀ (start : Cursor) (depth more : Nat), (start.after tokens.length left).At tokens left.rest →
      8 * left.rest.length + 5 ≤ depth → 8 * left.rest.length ≤ more →
      (rounds mode tokens (depth + 1) left.tree >>= goOn mode tokens (read mode tokens more)).Gives
        (start.after tokens.length left) whole.tree (start.after tokens.length whole)) :
    Follows mode tokens (.chain left) whole
  | start, depth + 1, more, place, deep, further => step start depth more place (Nat.le_of_lt_succ deep) further

-- By induction on the descent: what a reading has left tells where the cursor stands, so each of its rules is a walk.
theorem follows {task : Formula.Task} {reading : Reading}
    (descent : Formula.Descent mode tokens.length task reading) : Follows mode tokens task reading := by
  induction descent with
  | sumEnds first ends ih =>
      refine follows_level fun start depth place deep => ?_
      rw [read]
      exact (ih start depth place (deep_tighter (by decide) deep)).bind
        (branch_passed (arrives first place) (by simpa using ends) rfl)
  | sumGoesOn first next sign _ ih more | productGoesOn first next sign _ ih more
  | powerGoesOn first next sign _ ih more =>
      refine follows_level fun start depth place deep => ?_
      have behind := next ▸ arrives first place
      have second := more _ depth behind.next (deep_fewer _ (fewer first next) (Nat.le_of_add_right_le deep))
      rw [read]
      exact (ih start depth place (deep_tighter (by decide) deep)).bind
        (branch_taken behind (decide_eq_true sign) (joins behind second))
  | productEnds first ends ih =>
      refine follows_level fun start depth place deep => ?_
      have behind := arrives first place
      rw [read]
      exact (ih start depth place (deep_tighter (by decide) deep)).bind
        (branch_passed behind (fun op head => decide_eq_false (ends op head).1)
          (branch_passed behind (fun op head => (ends op head).2) rfl))
  | @productChains _ _ _ _ op first next factor _ ih whole =>
      refine follows_level fun start depth place deep => ?_
      have behind := arrives first place
      have here := next ▸ behind
      have plain : op.kind ≠ .dot := fun sign => by
        rw [sign] at factor
        cases factor
      have left := ih start depth place (deep_tighter (by decide) deep)
      have length := (Formula.rest_suffix first).length_le
      simp only [Formula.Task.tokens, Level.rank] at length deep
      rw [read]
      exact left.bind
        (branch_passed here (Formula.ahead_of_cons rfl (decide_eq_false plain))
          (branch_taken here factor (whole start depth depth behind (by omega) (by omega))))
  | negationPasses ends _ ih | quotientPasses ends _ ih =>
      refine follows_level fun start depth place deep => ?_
      rw [read]
      exact branch_passed place (fun op head => decide_eq_false (ends op head))
        (ih start depth place (deep_tighter (by decide) deep))
  | negationGoesOn sign _ ih =>
      refine follows_level fun start depth place deep => ?_
      have inner := ih _ depth place.next (deep_fewer _ (Nat.lt_succ_self _) (Nat.le_of_add_right_le deep))
      rw [read]
      exact branch_taken place (decide_eq_true sign) (applies place inner)
  | powerEnds first ends ih =>
      refine follows_level fun start depth place deep => ?_
      rw [read]
      exact (ih start depth place (deep_tighter (by decide) deep)).bind
        (branch_passed (arrives first place) (fun op head => decide_eq_false (ends op head)) rfl)
  | quotientGoesOn sign first _ numerator denominator =>
      refine follows_level fun start depth place deep => ?_
      have above := numerator _ depth place.next (deep_fewer _ (Nat.lt_succ_self _) (Nat.le_of_add_right_le deep))
      have shorter := Nat.lt_succ_of_le (Formula.rest_suffix first).length_le
      have below := denominator _ depth (arrives first place.next) (deep_fewer _ shorter (Nat.le_of_add_right_le deep))
      rw [read, ← start.after_binary]
      exact branch_taken place (decide_eq_true sign) ((advance_gives place).bind (above.bind (below.bind rfl)))
  | callPasses ends _ ih =>
      refine follows_level fun start depth place deep => ?_
      rw [read]
      exact branch_passed place ends (ih start depth place (deep_tighter (by decide) deep))
  | callGoesOn function _ ih =>
      refine follows_level fun start depth place deep => ?_
      have inner := ih _ depth place.next (deep_fewer _ (Nat.lt_succ_self _) (Nat.le_of_add_right_le deep))
      rw [read]
      exact branch_taken place function (applies place inner)
  | literal literal =>
      refine follows_level fun start depth place deep => ?_
      rw [read]
      refine (peek_gives place).bind ?_
      dsimp only [List.head?_cons]
      rw [if_pos literal]
      exact leaf_gives .literal place
  | @symbol _ token named =>
      refine follows_level fun start depth place deep => ?_
      have plain : ¬ token.kind.isLiteral = true := by grind [Kind.is_literal_iff, Kind.is_name_iff]
      rw [read]
      refine (peek_gives place).bind ?_
      dsimp only [List.head?_cons]
      rw [if_neg plain, if_pos named]
      exact leaf_gives .symbol place
  | @group _ _ token opens first ih =>
      refine follows_level fun start depth place deep => ?_
      have plain : ¬ token.kind.isLiteral = true := by simp [opens, Kind.isLiteral]
      have nameless : ¬ token.kind.isName = true := by simp [opens, Kind.isName]
      have inner := ih _ depth place.next (deep_fewer _ (Nat.lt_succ_self _) (Nat.le_of_add_right_le deep))
      rw [read]
      refine (peek_gives place).bind ?_
      dsimp only [List.head?_cons]
      rw [if_neg plain, if_neg nameless, if_pos opens]
      exact (advance_gives place).bind (inner.bind (close_gives (arrives first place.next)))
  | missing =>
      refine follows_level fun start depth place deep => ?_
      rw [read]
      refine (peek_gives place).bind ((get_gives start).bind ?_)
      rw [← place.after_invalid, ← place.position]
      exact fail_gives _ start
  | @misplaced _ token ends =>
      refine follows_level fun start depth place deep => ?_
      have other : ¬ (token.kind.isLiteral = true ∨ token.kind.isName = true ∨ token.kind = .leftParen) := by
        rw [← Level.starts_operand_iff, ends]
        exact Bool.false_ne_true
      obtain ⟨plain, nameless, closed⟩ := not_or.mp other |>.imp_right not_or.mp
      rw [read]
      refine (peek_gives place).bind ?_
      dsimp only [List.head?_cons]
      rw [if_neg plain, if_neg nameless, if_neg closed]
      refine (get_gives start).bind ((look_gives place).bind ?_)
      rw [← place.after_invalid, ← place.position, Nat.add_sub_cancel_right]
      exact fail_gives _ start
  | chainEnds ends =>
      refine follows_chain fun start depth more place deep further => ?_
      rw [rounds]
      exact (branch_passed place (fun op head => (ends op head).1) (pure_gives _ _)).bind
        (branch_passed place (fun op head => decide_eq_false (ends op head).2) (pure_gives _ _))
  | @chainFactor left _ _ token _ next factor first _ right whole =>
      refine follows_chain fun start depth more place deep further => ?_
      have here := next ▸ place
      have behind := arrives first here
      have tight := mode.implicit.level_rank token.kind
      have shorter := fewer_factor factor first
      rw [next] at deep further
      have turned := round_gives left.tree here (right _ depth here (by omega))
      rw [start.after_binary] at behind turned
      refine rounds_of_round here factor turned (whole start depth more behind ?_ ?_) <;>
        simp only [Reading.factor, Reading.binary] <;> omega
  | @chainGoesOn _ _ op _ next exponent sign _ right =>
      refine follows_chain fun start depth more place deep further => ?_
      have here := next ▸ place
      have unstarted : op.kind.startsFactor = false := by rw [sign]; rfl
      rw [next] at further
      have second := right _ more here.next (deep_fewer _ (Nat.lt_succ_self _) further)
      rw [rounds]
      exact (branch_passed here (Formula.ahead_of_cons rfl unstarted) (pure_gives _ _)).bind
        (branch_taken here (decide_eq_true ⟨exponent, sign⟩) (joins here second))

-- The cursor moves by at least as many tokens as the level needs of those ahead.
theorem read_gives (mode : ReadMode) (level : Level) (place : cursor.At tokens ahead) :
    ∃ tree final, cursor.position + level.least ahead ≤ final.position ∧ final.position ≤ tokens.length ∧
      ∀ depth, 8 * (tokens.length + 1) ≤ depth → (read mode tokens depth level).Gives cursor tree final := by
  have walked := follows (Formula.read_descent mode tokens.length level ahead)
  have used := (Formula.read mode tokens.length level ahead).property
  have position := place.position
  refine ⟨_, _, ?_, Nat.sub_le _ _, fun depth deep => walked cursor depth place ?_⟩
  · simp only [Cursor.after]
    omega
  · exact deep_fewer level (Nat.lt_succ_of_le place.suffix.length_le) deep

theorem finish_gives {whole : Reading} (first : (Formula.read mode tokens.length .sum tokens).val = whole)
    (place : (cursor.after tokens.length whole).At tokens whole.rest) :
    (finish mode tokens whole.tree).Gives (cursor.after tokens.length whole) (Formula.readAll mode tokens).tree
      (cursor.after tokens.length (Formula.readAll mode tokens)) := by
  simp only [Formula.readAll, first]
  obtain ⟨grouping, implicit⟩ := mode
  obtain ⟨tree, fault, rest⟩ := whole
  refine (at_end_gives place).bind ?_
  cases rest with
  | nil => cases grouping <;> rfl
  | cons token rest =>
      cases grouping with
      | lenient => rfl
      | strict =>
          refine (get_gives _).bind ((look_gives place).bind ?_)
          exact cursor.after_fail _ _ _ ▸ fail_gives _ _

theorem parse_gives (mode : ReadMode) (tokens : List Token) {depth : Nat} (deep : 8 * (tokens.length + 1) ≤ depth) :
    (parse mode tokens depth).Gives .start (Formula.parse mode tokens)
      (Cursor.start.after tokens.length (Formula.readAll mode tokens)) := by
  have place : Cursor.start.At tokens tokens := ⟨List.suffix_refl tokens, Nat.zero_add _⟩
  have first := Formula.read_descent mode tokens.length .sum tokens
  have walked := follows first .start depth place (deep_fewer .sum (Nat.lt_succ_self _) deep)
  refine walked.bind ((finish_gives rfl (arrives first place)).bind ?_)
  exact (get_gives _).bind (pure_gives _ _)

theorem parse_stays_within (mode : ReadMode) (tokens : List Token) :
    (∃ final : Cursor, final.position ≤ tokens.length ∧
      ∀ depth, 8 * (tokens.length + 1) ≤ depth →
        (parse mode tokens depth).Gives .start (Formula.parse mode tokens) final) ∧
    (∀ (level : Level) (start : Cursor), start.position ≤ tokens.length →
      ∃ tree final, start.position ≤ final.position ∧ final.position ≤ tokens.length ∧
        ∀ depth, 8 * (tokens.length + 1) ≤ depth → (read mode tokens depth level).Gives start tree final) ∧
    (∀ (left : Formula) (start : Cursor) (token : Token),
      tokens[start.position]? = some token → token.kind.startsFactor = true →
      ∃ factor final, start.position < final.position ∧ final.position ≤ tokens.length ∧
        ∀ depth, 8 * (tokens.length + 1) ≤ depth →
          (round mode tokens (read mode tokens depth) left).Gives start
            (.binary left ⟨.dot, none, token.offset⟩ factor) final) := by
  refine ⟨⟨_, Nat.sub_le _ _, fun depth deep => parse_gives mode tokens deep⟩, ?_, ?_⟩
  · intro level start within
    obtain ⟨tree, final, moved, inside, gives⟩ := read_gives mode level (Cursor.at_drop within)
    exact ⟨tree, final, Nat.le_of_add_right_le moved, inside, gives⟩
  · intro left start token here factor
    have place := Cursor.at_cons here
    obtain ⟨tree, final, moved, inside, gives⟩ := read_gives mode (mode.implicit.level token.kind) place
    simp only [Level.least, mode.implicit.level_starts factor, if_true] at moved
    exact ⟨tree, final, moved, inside, fun depth deep => round_gives left place (gives depth deep)⟩

def unclosedFactor : List Token :=
  [⟨.identifier, some "a", 0⟩, ⟨.leftParen, none, 1⟩]

-- The second factor is an error, and still its round moves the cursor.
theorem parse_stays_within_unclosed_factor :
    let mode : ReadMode := ⟨.strict, .primary⟩
    let first : Formula := .symbol ⟨.identifier, some "a", 0⟩
    (∃ final : Cursor, final.position ≤ 2 ∧ (parse mode unclosedFactor 24).Gives .start
      ⟨.binary first ⟨.dot, none, 1⟩ (.invalid "expected closing delimiter at end of input"), false,
        some "invalid syntax at end of input (token 2)"⟩ final) ∧
    (∃ tree final, 1 ≤ final.position ∧ final.position ≤ 2 ∧
      (read mode unclosedFactor 24 .operand).Gives ⟨1, true, none⟩ tree final) ∧
    ∃ factor final, 1 < final.position ∧ final.position ≤ 2 ∧
      (round mode unclosedFactor (read mode unclosedFactor 24) first).Gives ⟨1, true, none⟩
        (.binary first ⟨.dot, none, 1⟩ factor) final := by
  intro mode first
  have value : Formula.parse mode unclosedFactor =
      ⟨.binary first ⟨.dot, none, 1⟩ (.invalid "expected closing delimiter at end of input"), false,
        some "invalid syntax at end of input (token 2)"⟩ := by
    decide +kernel
  obtain ⟨⟨final, inside, whole⟩, level, turn⟩ := parse_stays_within mode unclosedFactor
  obtain ⟨tree, behind, moved, within, operand⟩ := level .operand ⟨1, true, none⟩ (by decide)
  obtain ⟨factor, last, further, bounded, turned⟩ := turn first ⟨1, true, none⟩ ⟨.leftParen, none, 1⟩ rfl rfl
  exact ⟨⟨final, inside, value ▸ whole 24 (by decide)⟩, ⟨tree, behind, moved, within, operand 24 (by decide)⟩,
    factor, last, further, bounded, turned 24 (by decide)⟩

end Walk

end EscapeTime
