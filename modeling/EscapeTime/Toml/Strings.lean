import EscapeTime.Toml.Words

set_option autoImplicit false

namespace EscapeTime.Toml

def isPlain (c : Char) : Bool :=
  c == '\t' || (0x20 ≤ c.toNat && c.toNat ≠ 0x7f)

def hexEscape? (count : Nat) (text : List Char) : Option (Char × List Char) :=
  let digits := text.take count
  let code := ofDigitsIn 16 digits
  if digits.length = count ∧ digits.all (isDigitOf 16) ∧ code.isValidChar then
    some (Char.ofNat code, text.drop count)
  else none

def escape? : List Char → Option (Char × List Char)
  | [] => none
  | mark :: tail =>
      match mark with
      | 'b' => some ('\x08', tail)
      | 't' => some ('\t', tail)
      | 'n' => some ('\n', tail)
      | 'f' => some ('\x0c', tail)
      | 'r' => some ('\r', tail)
      | 'e' => some ('\x1b', tail)
      | '"' => some ('"', tail)
      | '\\' => some ('\\', tail)
      | 'x' => hexEscape? 2 tail
      | 'u' => hexEscape? 4 tail
      | 'U' => hexEscape? 8 tail
      | _ => none

theorem escape?_shorter {text rest : List Char} {c : Char} (read : escape? text = some (c, rest)) :
    rest.length < text.length := by
  have hex : ∀ {count : Nat} {tail : List Char},
      hexEscape? count tail = some (c, rest) → rest.length ≤ tail.length := by
    intro count tail read
    simp only [hexEscape?] at read
    split at read
    · cases read
      simp
    · cases read
  cases text with
  | nil => cases read
  | cons mark tail =>
      simp only [escape?] at read
      split at read
      all_goals first
        | (cases read; done)
        | (cases read; simp)
        | exact Nat.lt_succ_of_le (hex read)

def basicString? : List Char → Option (List Char × List Char)
  | [] => none
  | '"' :: tail => some ([], tail)
  | '\\' :: tail =>
      match read : escape? tail with
      | none => none
      | some (c, rest) =>
          have := escape?_shorter read
          (basicString? rest).map fun (value, rest) => (c :: value, rest)
  | c :: tail =>
      if isPlain c then (basicString? tail).map fun (value, rest) => (c :: value, rest) else none
termination_by text => text.length

def literalString? : List Char → Option (List Char × List Char)
  | [] => none
  | '\'' :: tail => some ([], tail)
  | c :: tail =>
      if isPlain c then (literalString? tail).map fun (value, rest) => (c :: value, rest) else none

def dropFirstLine : List Char → List Char
  | '\n' :: tail => tail
  | '\r' :: '\n' :: tail => tail
  | text => text

def quoteRun (quote : Char) (text : List Char) : Nat :=
  (text.takeWhile (· = quote)).length

-- At a run of three or more quotes the text ends; up to two of them belong to it.
def endRun? (quote : Char) (text : List Char) : Option (List Char × List Char) :=
  let run := min 5 (quoteRun quote text)
  if 3 ≤ run then some (List.replicate (run - 3) quote, text.drop run) else none

def skipLines : List Char → List Char
  | '\r' :: '\n' :: tail => skipLines tail
  | c :: tail => if c = ' ' ∨ c = '\t' ∨ c = '\n' then skipLines tail else c :: tail
  | [] => []

def joinLines? (text : List Char) : Option (List Char) :=
  match text.dropWhile fun c => c == ' ' || c == '\t' with
  | '\n' :: tail => some (skipLines tail)
  | '\r' :: '\n' :: tail => some (skipLines tail)
  | _ => none

theorem drop_while_length_le (p : Char → Bool) (text : List Char) :
    (text.dropWhile p).length ≤ text.length :=
  (List.dropWhile_sublist p).length_le

theorem skip_lines_length_le (text : List Char) : (skipLines text).length ≤ text.length := by
  induction text using skipLines.induct with
  | case1 tail ih =>
      simp only [skipLines, List.length_cons]
      omega
  | case2 c tail other blank ih =>
      simp only [skipLines, blank, if_true, List.length_cons]
      omega
  | case3 c tail other solid => simp [skipLines, solid]
  | case4 => simp [skipLines]

theorem join_lines?_shorter {text rest : List Char} (read : joinLines? text = some rest) :
    rest.length < text.length := by
  have whole := drop_while_length_le (fun c => c == ' ' || c == '\t') text
  simp only [joinLines?] at read
  split at read
  · rename_i tail same
    cases read
    have := skip_lines_length_le tail
    simp only [same, List.length_cons] at whole
    omega
  · rename_i tail same
    cases read
    have := skip_lines_length_le tail
    simp only [same, List.length_cons] at whole
    omega
  · cases read

def longBasicString? : List Char → Option (List Char × List Char)
  | [] => none
  | '\\' :: tail =>
      match joined : joinLines? tail with
      | some rest =>
          have := join_lines?_shorter joined
          longBasicString? rest
      | none =>
          match read : escape? tail with
          | none => none
          | some (c, rest) =>
              have := escape?_shorter read
              (longBasicString? rest).map fun (value, rest) => (c :: value, rest)
  | '\r' :: '\n' :: tail =>
      (longBasicString? tail).map fun (value, rest) => ('\r' :: '\n' :: value, rest)
  | c :: tail =>
      match endRun? '"' (c :: tail) with
      | some done => some done
      | none =>
          if isPlain c || c == '\n' then
            (longBasicString? tail).map fun (value, rest) => (c :: value, rest)
          else none
termination_by text => text.length

def longLiteralString? : List Char → Option (List Char × List Char)
  | [] => none
  | '\r' :: '\n' :: tail =>
      (longLiteralString? tail).map fun (value, rest) => ('\r' :: '\n' :: value, rest)
  | c :: tail =>
      match endRun? '\'' (c :: tail) with
      | some done => some done
      | none =>
          if isPlain c || c == '\n' then
            (longLiteralString? tail).map fun (value, rest) => (c :: value, rest)
          else none

def readString? : List Char → Option (String × List Char)
  | '"' :: '"' :: '"' :: tail =>
      (longBasicString? (dropFirstLine tail)).map fun (value, rest) => (String.ofList value, rest)
  | '"' :: tail => (basicString? tail).map fun (value, rest) => (String.ofList value, rest)
  | '\'' :: '\'' :: '\'' :: tail =>
      (longLiteralString? (dropFirstLine tail)).map fun (value, rest) => (String.ofList value, rest)
  | '\'' :: tail => (literalString? tail).map fun (value, rest) => (String.ofList value, rest)
  | _ => none

end EscapeTime.Toml
