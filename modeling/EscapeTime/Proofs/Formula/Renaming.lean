import EscapeTime.Proofs.Formula.Code

set_option autoImplicit false

namespace EscapeTime

-- A change of names: it may give a name another kind and text, and touches nothing else.
structure Renaming where
  apply : Token → Token
  named : ∀ token, token.kind.isName = true → (apply token).kind.isName = true
  offset : ∀ token, (apply token).offset = token.offset
  others : ∀ token, token.kind.isName = false → apply token = token

def Formula.rename (change : Renaming) : Formula → Formula
  | unary op inner => unary (change.apply op) (inner.rename change)
  | binary left op right => binary (left.rename change) (change.apply op) (right.rename change)
  | literal value => literal (change.apply value)
  | symbol name => symbol (change.apply name)
  | invalid message => invalid message

def Reading.rename (change : Renaming) (reading : Reading) : Reading :=
  ⟨reading.tree.rename change, reading.fault, reading.rest.map change.apply⟩

def Formula.Task.rename (change : Renaming) : Task → Task
  | level depth tokens => level depth (tokens.map change.apply)
  | chain left => chain (left.rename change)

namespace Renaming

variable (change : Renaming)

-- What does not tell the two kinds of names apart cannot tell a token from the renamed one.
theorem keeps {α : Sort _} (test : Kind → α) (blind : test .identifier = test .parameter) (token : Token) :
    test (change.apply token).kind = test token.kind := by
  by_cases name : token.kind.isName = true
  · have renamed := change.named token name
    rcases (Kind.is_name_iff _).mp name with before | before <;>
      rcases (Kind.is_name_iff _).mp renamed with after | after <;> simp [before, after, blind]
  · rw [change.others token (Bool.eq_false_iff.mpr name)]

theorem ahead (condition : Kind → Prop) (blind : condition .identifier = condition .parameter) {tokens : List Token}
    (holds : ∀ op ∈ tokens.head?, condition op.kind) :
    ∀ op ∈ (tokens.map change.apply).head?, condition op.kind := by
  intro op member
  rw [List.head?_map] at member
  obtain ⟨token, first, rfl⟩ := Option.map_eq_some_iff.mp member
  rw [change.keeps condition blind]
  exact holds token first

theorem next {tokens rest : List Token} {token : Token} (next : tokens = token :: rest) :
    tokens.map change.apply = change.apply token :: rest.map change.apply := by
  rw [next, List.map_cons]

theorem factor_eq (left right : Reading) (token : Token) :
    (left.factor token.offset right).rename change =
      (left.rename change).factor (change.apply token).offset (right.rename change) := by
  have dot : change.apply ⟨.dot, none, token.offset⟩ = ⟨.dot, none, token.offset⟩ := change.others _ rfl
  simp only [Reading.factor, Reading.binary, Reading.rename, Formula.rename, dot, change.offset]

theorem close_eq (grouping : Grouping) (total : Nat) (inner : Reading) :
    (inner.close grouping total).rename change = (inner.rename change).close grouping total := by
  obtain ⟨tree, fault, rest⟩ := inner
  cases grouping with
  | lenient => simp [Reading.close, Reading.rename]
  | strict =>
      cases rest with
      | nil => rfl
      | cons token rest =>
          have closes := change.keeps (· = Kind.rightParen) (by simp) token
          by_cases right : token.kind = .rightParen
          · simp [Reading.close, Reading.rename, right, closes]
          · simp [Reading.close, Reading.rename, Reading.fail, Formula.rename, change.offset, right, closes]

end Renaming

namespace Formula

theorem Descent.rename (change : Renaming) {mode : ReadMode} {total : Nat} {task : Task} {reading : Reading}
    (descent : Descent mode total task reading) :
    Descent mode total (task.rename change) (reading.rename change) := by
  induction descent with
  | sumEnds _ ends first =>
      exact .sumEnds first (change.ahead (fun kind => kind ≠ .plus ∧ kind ≠ .minus) (by simp) ends)
  | sumGoesOn _ next sign _ first second =>
      refine .sumGoesOn first (change.next next) ?_ second
      rwa [change.keeps (fun kind => kind = .plus ∨ kind = .minus) (by simp)]
  | productEnds _ ends first =>
      exact .productEnds first
        (change.ahead (fun kind => kind ≠ .dot ∧ kind.startsFactor = false) (by simp [Kind.startsFactor]) ends)
  | productGoesOn _ next sign _ first second =>
      exact .productGoesOn first (change.next next) ((change.keeps (· = .dot) (by simp) _).mpr sign) second
  | productChains _ next factor _ first second =>
      exact .productChains first (change.next next) ((change.keeps Kind.startsFactor rfl _).trans factor) second
  | negationPasses ends _ first =>
      exact .negationPasses (change.ahead (· ≠ .minus) (by simp) ends) first
  | negationGoesOn sign _ first =>
      exact .negationGoesOn ((change.keeps (· = .minus) (by simp) _).mpr sign) first
  | powerEnds _ ends first =>
      exact .powerEnds first (change.ahead (· ≠ .caret) (by simp) ends)
  | powerGoesOn _ next sign _ first second =>
      exact .powerGoesOn first (change.next next) ((change.keeps (· = .caret) (by simp) _).mpr sign) second
  | quotientPasses ends _ first =>
      exact .quotientPasses (change.ahead (· ≠ .fraction) (by simp) ends) first
  | quotientGoesOn sign _ _ first second =>
      exact .quotientGoesOn ((change.keeps (· = .fraction) (by simp) _).mpr sign) first second
  | callPasses ends _ first =>
      exact .callPasses (change.ahead (fun kind => kind.isFunction = false) rfl ends) first
  | callGoesOn function _ first =>
      exact .callGoesOn ((change.keeps Kind.isFunction rfl _).trans function) first
  | literal literal =>
      exact .literal ((change.keeps Kind.isLiteral rfl _).trans literal)
  | symbol named =>
      exact .symbol ((change.keeps Kind.isName rfl _).trans named)
  | group opens _ first =>
      rw [change.close_eq]
      exact .group ((change.keeps (· = .leftParen) (by simp) _).mpr opens) first
  | missing => exact .missing
  | @misplaced rest token ends =>
      have moved : Descent mode total (.level .operand ((token :: rest).map change.apply)) _ :=
        .misplaced ((change.keeps Level.operand.starts rfl _).trans ends)
      rwa [change.offset, List.length_cons, List.length_map, ← List.length_cons] at moved
  | chainEnds ends =>
      exact .chainEnds (change.ahead
        (fun kind => kind.startsFactor = false ∧ ¬ (mode.implicit = .exponent ∧ kind = .dot))
        (by simp [Kind.startsFactor]) ends)
  | chainFactor next factor _ _ first second =>
      have moved := second
      rw [Task.rename, change.factor_eq] at moved
      refine .chainFactor (change.next next) ((change.keeps Kind.startsFactor rfl _).trans factor) ?_ moved
      rw [change.keeps mode.implicit.level (by cases mode.implicit <;> rfl)]
      exact first
  | chainGoesOn next exponent sign _ second =>
      exact .chainGoesOn (change.next next) exponent ((change.keeps (· = .dot) (by simp) _).mpr sign) second

theorem read_rename (change : Renaming) (mode : ReadMode) (total : Nat) (level : Level) (tokens : List Token) :
    (read mode total level (tokens.map change.apply)).val = (read mode total level tokens).val.rename change :=
  read_of_descent ((read_descent mode total level tokens).rename change)

-- Where a product or a looser level stops, no name stands: it would have been a further factor.
def Task.Multiplies : Task → Prop
  | level .sum _ | level .product _ | chain _ => True
  | level _ _ => False

theorem Descent.stops {mode : ReadMode} {total : Nat} {task : Task} {reading : Reading}
    (descent : Descent mode total task reading) (multiplies : task.Multiplies) :
    ∀ token ∈ reading.rest.head?, token.kind.startsFactor = false := by
  induction descent with
  | sumEnds _ _ first => exact first trivial
  | sumGoesOn _ _ _ _ _ second | productGoesOn _ _ _ _ _ second | productChains _ _ _ _ _ second
  | chainFactor _ _ _ _ _ second | chainGoesOn _ _ _ _ second => exact second trivial
  | productEnds _ ends _ => exact fun token member => (ends token member).2
  | chainEnds ends => exact fun token member => (ends token member).1
  | _ => cases multiplies

theorem read_all_rename (change : Renaming) (mode : ReadMode) (tokens : List Token) :
    readAll mode (tokens.map change.apply) = (readAll mode tokens).rename change := by
  have stops := (read_descent mode tokens.length .sum tokens).stops trivial
  simp only [readAll, List.length_map, read_rename]
  generalize (read mode tokens.length .sum tokens).val = whole at stops ⊢
  obtain ⟨tree, fault, rest⟩ := whole
  cases mode.grouping with
  | lenient => rfl
  | strict =>
      cases rest with
      | nil => rfl
      | cons token rest =>
          have other : token.kind.isName = false := by
            have last := stops token rfl
            rw [Bool.eq_false_iff]
            intro name
            rcases (Kind.is_name_iff _).mp name with same | same <;> simp [same, Kind.startsFactor] at last
          have fixed := change.others token other
          simp only [Reading.rename, Reading.fail, rename, List.map_cons, fixed, List.length_cons, List.length_map]

theorem parse_rename (change : Renaming) (mode : ReadMode) (tokens : List Token) :
    parse mode (tokens.map change.apply) =
      { parse mode tokens with tree := (parse mode tokens).tree.rename change } := by
  simp only [parse, read_all_rename]
  rfl

theorem literals_rename (change : Renaming) {tokens : List Token} {formula : Formula}
    (written : Written tokens formula) : (formula.rename change).literals = formula.literals := by
  induction written with
  | unary _ _ ih => exact ih
  | binary _ _ _ first second => rw [rename, literals, literals, first, second]
  | @literal value kind _ =>
      have other : value.kind.isName = false := by
        rcases (Kind.is_literal_iff _).mp kind with same | same <;> rw [same] <;> rfl
      rw [rename, change.others value other]
  | symbol _ _ => rfl
  | invalid _ => rfl

-- What no change of names touches: of a name only the place is left where it stands.
def anonymous : Formula → Formula
  | unary op inner => unary op inner.anonymous
  | binary left op right => binary left.anonymous op right.anonymous
  | literal value => literal value
  | symbol name => symbol ⟨.identifier, none, name.offset⟩
  | invalid message => invalid message

theorem anonymous_rename (change : Renaming) {tokens : List Token} {formula : Formula}
    (written : Written tokens formula) : (formula.rename change).anonymous = formula.anonymous := by
  induction written with
  | @unary op _ kind _ ih =>
      have other : op.kind.isName = false := by
        cases same : op.kind <;> simp_all [Kind.isUnary, Kind.isFunction, Kind.isName]
      rw [rename, change.others op other, anonymous, ih, anonymous]
  | @binary _ _ op kind _ _ first second =>
      have other : op.kind.isName = false := by
        cases same : op.kind <;> simp_all [Kind.isBinary, Kind.isName]
      rw [rename, change.others op other, anonymous, first, second, anonymous]
  | @literal value kind _ =>
      have other : value.kind.isName = false := by
        rcases (Kind.is_literal_iff _).mp kind with same | same <;> rw [same] <;> rfl
      rw [rename, change.others value other]
  | @symbol name _ _ => rw [rename, anonymous, change.offset, anonymous]
  | invalid _ => rfl

end Formula

end EscapeTime
