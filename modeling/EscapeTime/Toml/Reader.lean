import EscapeTime.Toml.Strings
import EscapeTime.Toml.Table

set_option autoImplicit false

namespace EscapeTime.Toml

def skipBlanks (text : List Char) : List Char :=
  text.dropWhile fun c => c == ' ' || c == '\t'

def skipGap? : (inComment : Bool) → List Char → Option (List Char)
  | _, [] => some []
  | _, '\n' :: tail => skipGap? false tail
  | _, '\r' :: '\n' :: tail => skipGap? false tail
  | true, c :: tail => if isPlain c then skipGap? true tail else none
  | false, c :: tail =>
      if c = ' ' ∨ c = '\t' then skipGap? false tail
      else if c = '#' then skipGap? true tail
      else some (c :: tail)

def endLine? : (inComment : Bool) → List Char → Option (List Char)
  | _, [] => some []
  | _, '\n' :: tail => some tail
  | _, '\r' :: '\n' :: tail => some tail
  | true, c :: tail => if isPlain c then endLine? true tail else none
  | false, c :: tail =>
      if c = ' ' ∨ c = '\t' then endLine? false tail
      else if c = '#' then endLine? true tail
      else none

def isBareChar (c : Char) : Bool :=
  c.isAlphanum || c == '_' || c == '-'

def readSimpleKey? (text : List Char) : Option (String × List Char) :=
  match text with
  | '"' :: tail => (basicString? tail).map fun (value, rest) => (String.ofList value, rest)
  | '\'' :: tail => (literalString? tail).map fun (value, rest) => (String.ofList value, rest)
  | text =>
      match text.takeWhile isBareChar with
      | [] => none
      | bare => some (String.ofList bare, text.dropWhile isBareChar)

def readParts? : (most : Nat) → List Char → Option (List String × List Char)
  | 0, _ => none
  | most + 1, text => do
      let (part, rest) ← readSimpleKey? (skipBlanks text)
      match skipBlanks rest with
      | '.' :: tail =>
          let (parts, rest) ← readParts? most tail
          return (part :: parts, rest)
      | rest => return ([part], rest)

-- Lists and tables between braces nest at most this deep, and no key has more parts.
def deepest : Nat := 80

def readKey? (text : List Char) : Option (List String × List Char) :=
  readParts? deepest text

def splitKey (parts : List String) : List String × String :=
  (parts.dropLast, parts.getLastD "")

mutual

def readValue? : (fuel depth : Nat) → List Char → Option (Datum × List Char)
  | 0, _, _ => none
  | fuel + 1, depth, text =>
      match text with
      | '[' :: tail =>
          match depth with
          | 0 => none
          | depth + 1 =>
              (readItems? fuel depth tail).map fun (items, rest) => (.list items, rest)
      | '{' :: tail =>
          match depth with
          | 0 => none
          | depth + 1 =>
              (readPairs? fuel depth [] tail).map fun (fields, rest) =>
                (.table (fieldData fields), rest)
      | '"' :: _ | '\'' :: _ => (readString? text).map fun (value, rest) => (.text value, rest)
      | text => readWord? text

def readItems? : (fuel depth : Nat) → List Char → Option (List Datum × List Char)
  | 0, _, _ => none
  | fuel + 1, depth, text => do
      match ← skipGap? false text with
      | ']' :: tail => return ([], tail)
      | text =>
          let (item, rest) ← readValue? fuel depth text
          match ← skipGap? false rest with
          | ',' :: tail =>
              let (items, rest) ← readItems? fuel depth tail
              return (item :: items, rest)
          | ']' :: tail => return ([item], tail)
          | _ => none

def readPairs? : (fuel depth : Nat) → Fields → List Char → Option (Fields × List Char)
  | 0, _, _, _ => none
  | fuel + 1, depth, fields, text => do
      match ← skipGap? false text with
      | '}' :: tail => return (fields, tail)
      | text =>
          let (parts, rest) ← readKey? text
          let '=' :: tail ← skipGap? false rest | none
          let (value, rest) ← readValue? fuel depth (← skipGap? false tail)
          let fields ← fields.assign (splitKey parts).1 (splitKey parts).2 value
          match ← skipGap? false rest with
          | ',' :: tail => readPairs? fuel depth fields tail
          | '}' :: tail => return (fields, tail)
          | _ => none

end

inductive Statement where
  | header (path : List String)
  | item (path : List String)
  | pair (path : List String) (value : Datum)

-- Reads a statement and the end of its line. No call needs more fuel than this for a text.
def readStatement? (text : List Char) : Option (Statement × List Char) := do
  let fuel := 2 * text.length + 2
  match text with
  | '[' :: '[' :: tail =>
      let (path, rest) ← readKey? tail
      let ']' :: ']' :: rest := rest | none
      return (.item path, ← endLine? false rest)
  | '[' :: tail =>
      let (path, rest) ← readKey? tail
      let ']' :: rest := rest | none
      return (.header path, ← endLine? false rest)
  | text =>
      let (path, rest) ← readKey? text
      let '=' :: tail := rest | none
      let (value, rest) ← readValue? fuel deepest (skipBlanks tail)
      return (.pair path value, ← endLine? false rest)

-- Reads all statements; each takes up at least one character.
def readStatements? : (fuel : Nat) → List Char → Option (List Statement)
  | 0, _ => none
  | fuel + 1, text => do
      match ← skipGap? false text with
      | [] => return []
      | text =>
          let (statement, rest) ← readStatement? text
          let statements ← readStatements? fuel rest
          return statement :: statements

structure Draft where
  fields : Fields
  header : List String

namespace Draft

def add? (draft : Draft) : Statement → Option Draft
  | .header path =>
      let (outer, key) := splitKey path
      (draft.fields.under outer (Fields.openTable key)).map fun fields => ⟨fields, path⟩
  | .item path =>
      let (outer, key) := splitKey path
      (draft.fields.under outer (Fields.openItem key)).map fun fields => ⟨fields, path⟩
  | .pair path value =>
      let (inner, key) := splitKey path
      (draft.fields.under draft.header (Fields.assign inner key value)).map fun fields =>
        ⟨fields, draft.header⟩

end Draft

def dropMark : List Char → List Char
  | '\ufeff' :: tail => tail
  | text => text

def read? (text : String) : Option Datum := do
  let source := dropMark text.toList
  let statements ← readStatements? (source.length + 1) source
  let draft ← statements.foldlM Draft.add? ⟨[], []⟩
  return .table (fieldData draft.fields)

end EscapeTime.Toml
