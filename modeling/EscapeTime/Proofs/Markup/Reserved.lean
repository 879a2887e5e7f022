import EscapeTime.Markup
import EscapeTime.Proofs.Formula.Renaming

set_option autoImplicit false

namespace EscapeTime

-- The text that a name stands for. A Greek name, with its backslash, is never looked up.
def Dictionary.reserved? (names : Dictionary) (written : String) : Option String :=
  if written.toList.head? = some '\\' then none else names.get? written

def Token.reserve (names : Dictionary) (token : Token) : Token :=
  match token.kind, names.reserved? token.text with
  | .identifier, some text => ⟨.parameter, some text, token.offset⟩
  | _, _ => token

theorem Token.reserve_eq_self (names : Dictionary) {token : Token}
    (free : token.kind = .identifier → names.reserved? token.text = none) : token.reserve names = token := by
  rw [reserve]
  split
  · rename_i kind found
    cases (free kind).symm.trans found
  · rfl

def Renaming.reserve (names : Dictionary) : Renaming where
  apply := Token.reserve names
  named token name := by
    rw [Token.reserve]
    split
    · rfl
    · exact name
  offset token := by
    rw [Token.reserve]
    split <;> rfl
  others token other := by
    refine Token.reserve_eq_self names fun identifier => ?_
    rw [identifier] at other
    cases other

theorem Formula.identifiers_reserve (names : Dictionary) (formula : Formula) :
    (formula.rename (.reserve names)).identifiers =
      formula.identifiers.filter fun name => (names.reserved? name).isNone := by
  induction formula with
  | unary op inner ih => exact ih
  | binary left op right first second => rw [rename, identifiers, identifiers, first, second, List.filter_append]
  | literal value => rfl
  | invalid message => rfl
  | symbol name =>
      by_cases identifier : name.kind = .identifier
      · cases reserved : names.reserved? name.text with
        | none =>
            have same : (Renaming.reserve names).apply name = name := Token.reserve_eq_self names fun _ => reserved
            simp [rename, identifiers, same, identifier, reserved]
        | some text =>
            have changed : (Renaming.reserve names).apply name = ⟨.parameter, some text, name.offset⟩ := by
              simp [Renaming.reserve, Token.reserve, identifier, reserved]
            simp [rename, identifiers, changed, identifier, reserved]
      · have same : (Renaming.reserve names).apply name = name :=
          Token.reserve_eq_self names fun kind => absurd kind identifier
        simp [rename, identifiers, same, identifier]

namespace Markup

def Scan.rename (change : Renaming) (scan : Scan) : Scan :=
  { scan with tokens := scan.tokens.map change.apply }

-- What a segment gives is the same under a dictionary and the empty one, up to the names it reserves.
def Agrees (names : Dictionary) (reserving plain : Lexeme × Nat) : Prop :=
  reserving.2 = plain.2 ∧ ∀ offset rest,
    Scan.prepend reserving.1 offset (Scan.rename (.reserve names) rest) =
      Scan.rename (.reserve names) (Scan.prepend plain.1 offset rest)

theorem agrees_fixed (names : Dictionary) {segment : Lexeme × Nat}
    (fixed : ∀ value, segment.1 = .token .identifier value → names.reserved? (value.getD "") = none) :
    Agrees names segment segment := by
  refine ⟨rfl, fun offset rest => ?_⟩
  obtain ⟨lexeme, width⟩ := segment
  cases lexeme with
  | skipped | stray _ | unknown _ => rfl
  | token kind value =>
      have same : (Renaming.reserve names).apply ⟨kind, value, offset⟩ = ⟨kind, value, offset⟩ := by
        refine Token.reserve_eq_self names fun identifier => fixed value ?_
        rw [← identifier]
      simp only [Scan.prepend, Scan.rename, List.map_cons, same]

theorem command_fixed (names : Dictionary) (source : List Char) : Agrees names (command source) (command source) := by
  refine agrees_fixed names fun value read => ?_
  unfold command at read
  split at read
  · rename_i entry found
    have keyword : ∀ entry ∈ commands, entry.2 ≠ .identifier := by decide
    exact absurd (Lexeme.token.inj read).1 (keyword entry (List.mem_of_find?_eq_some found))
  · split at read
    · obtain ⟨-, rfl⟩ := Lexeme.token.inj read
      simp [Dictionary.reserved?]
    · split at read <;> cases read

theorem numeral_fixed (names : Dictionary) (digit : Char) (source : List Char) :
    Agrees names (numeral digit source) (numeral digit source) := by
  refine agrees_fixed names fun value read => ?_
  unfold numeral at read
  dsimp only at read
  split at read <;> cases read

theorem name_reserve (names : Dictionary) {letter : Char} (alpha : letter.isAlpha = true) (source : List Char) :
    Agrees names (name names letter source) (name .empty letter source) := by
  have plain : letter ≠ '\\' := by
    rintro rfl
    cases alpha
  generalize written : String.ofList (letter :: source.take (subscriptWidth source)) = text
  have looked : names.reserved? text = names.get? text := by
    rw [Dictionary.reserved?, ← written, String.toList_ofList, List.head?_cons, if_neg]
    simpa using plain
  have missing : Dictionary.empty.get? text = none := rfl
  simp only [name, written, missing]
  cases found : names.get? text with
  | none => exact agrees_fixed names fun value read => by cases read; exact looked.trans found
  | some other =>
      refine ⟨rfl, fun offset rest => ?_⟩
      have changed : (Renaming.reserve names).apply ⟨.identifier, some text, offset⟩ = ⟨.parameter, some other, offset⟩ := by
        simp [Renaming.reserve, Token.reserve, Token.text, looked, found]
      simp only [Scan.prepend, Scan.rename, List.map_cons, changed]

theorem segment_reserve (names : Dictionary) (head : Char) (tail : List Char) :
    Agrees names (segment names head tail) (segment .empty head tail) := by
  unfold segment
  split
  · exact agrees_fixed names fun _ read => by cases read
  · cases sign : sign? head with
    | some kind =>
        refine agrees_fixed names fun value read => ?_
        obtain ⟨rfl, rfl⟩ := Lexeme.token.inj read
        unfold sign? at sign
        split at sign <;> cases sign
    | none =>
        dsimp only
        split
        · exact command_fixed names tail
        · split
          · exact numeral_fixed names head tail
          · split
            · rename_i alpha
              exact name_reserve names alpha tail
            · exact agrees_fixed names fun _ read => by cases read

theorem scan_from_reserve (names : Dictionary) (offset : Nat) (source : List Char) :
    scanFrom names offset source = (scanFrom .empty offset source).rename (.reserve names) := by
  induction offset, source using scanFrom.induct names with
  | case1 offset =>
      rw [scanFrom, scanFrom]
      rfl
  | case2 offset head tail lexeme width read ih =>
      obtain ⟨same, agrees⟩ := segment_reserve names head tail
      rw [scanFrom, scanFrom]
      rw [read] at same agrees ⊢
      dsimp only at same agrees ⊢
      rw [ih, agrees, ← same]

theorem scan_reserve (names : Dictionary) (source : String) :
    scan names source = (scan .empty source).rename (.reserve names) :=
  scan_from_reserve names 0 source.toList

-- The same segments give the same tokens, except that a name may be read as either kind of name.
structure Scan.Alike (first second : Scan) : Prop where
  warnings : first.warnings = second.warnings
  failure : first.failure = second.failure
  offsets : first.tokens.map Token.offset = second.tokens.map Token.offset
  tokens : ∀ pair ∈ first.tokens.zip second.tokens,
    pair.1 = pair.2 ∨ pair.1.kind.isName = true ∧ pair.2.kind.isName = true

theorem scan_alike (first second : Dictionary) (source : String) :
    (scan first source).Alike (scan second source) := by
  rw [scan_reserve first, scan_reserve second]
  generalize scan .empty source = plain
  refine ⟨rfl, rfl, ?_, ?_⟩
  · simp only [Scan.rename, List.map_map]
    refine List.map_congr_left fun token _ => ?_
    simp only [Function.comp_apply, Renaming.offset]
  · simp only [Scan.rename, List.zip_map', List.mem_map]
    rintro _ ⟨token, -, rfl⟩
    dsimp only
    by_cases name : token.kind.isName = true
    · exact .inr ⟨Renaming.named _ token name, Renaming.named _ token name⟩
    · have other := Bool.eq_false_iff.mpr name
      exact .inl ((Renaming.others _ token other).trans (Renaming.others _ token other).symm)

end Markup

end EscapeTime
