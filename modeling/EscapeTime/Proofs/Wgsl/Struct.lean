import EscapeTime.Proofs.Formula.Preservation
import EscapeTime.Wgsl.Program
import Mathlib.Data.List.SplitBy

set_option autoImplicit false

namespace EscapeTime.Wgsl

-- A comment ends with its line; the flag says whether the text starts inside one.
def uncomment : Bool → List Char → List Char
  | _, [] => []
  | true, '\n' :: rest => '\n' :: uncomment false rest
  | true, _ :: rest => uncomment true rest
  | false, '/' :: '/' :: rest => uncomment true rest
  | false, c :: rest => c :: uncomment false rest

-- Names and numerals are as long as they can be, any other character stands by itself, and blanks count
-- for nothing.
def words (text : List Char) : List String :=
  ((text.splitBy fun a b => isNameChar a && isNameChar b).filter fun word => !word.all Char.isWhitespace).map
    String.ofList

def fieldList? : List String → Option (List Field)
  | "\x7d" :: _ => some []
  | name :: ":" :: "f32" :: "," :: rest => (fieldList? rest).map (⟨name, .f32⟩ :: ·)
  | name :: ":" :: "vec2" :: "<" :: "f32" :: ">" :: "," :: rest => (fieldList? rest).map (⟨name, .vec2⟩ :: ·)
  | name :: ":" :: "vec4" :: "<" :: "f32" :: ">" :: "," :: rest => (fieldList? rest).map (⟨name, .vec4⟩ :: ·)
  | _ => none

def structFields? (name : String) : List String → Option (List Field)
  | [] => none
  | word :: rest =>
      if word = "struct" ∧ rest.take 2 = [name, "\x7b"] then fieldList? (rest.drop 2) else structFields? name rest

def declaredFields? (name source : String) : Option (List Field) :=
  structFields? name (words (uncomment false source.toList))

theorem uncomment_plain {text : List Char} (rest : List Char) (plain : '/' ∉ text) :
    uncomment false (text ++ rest) = text ++ uncomment false rest := by
  induction text with
  | nil => rfl
  | cons c text ih =>
      simp only [List.mem_cons, not_or] at plain
      rw [List.cons_append, List.cons_append, ← ih plain.2, uncomment]
      exact fun _ same _ => plain.1 same.symm

theorem uncomment_comment {comment : List Char} (rest : List Char) (line : '\n' ∉ comment) :
    uncomment false ('/' :: '/' :: (comment ++ '\n' :: rest)) = '\n' :: uncomment false rest := by
  rw [uncomment]
  induction comment with
  | nil => rfl
  | cons c comment ih =>
      simp only [List.mem_cons, not_or] at line
      rw [List.cons_append, uncomment, ih line.2]
      exact fun same => line.1 same.symm

theorem words_append {first second : List Char}
    (apart : ∀ a ∈ first.getLast?, ∀ b ∈ second.head?, (isNameChar a && isNameChar b) = false) :
    words (first ++ second) = words first ++ words second := by
  rw [words, List.splitBy_append apart, List.filter_append, List.map_append]
  rfl

-- Text that ends with no character of a name is cut off from what follows.
theorem words_behind {first : List Char} (second : List Char) (ends : first.getLast?.any isNameChar = false) :
    words (first ++ second) = words first ++ words second := by
  apply words_append
  intro a last b _
  rw [last, Option.any_some] at ends
  rw [ends, Bool.false_and]

theorem words_ahead (first : List Char) {second : List Char} (starts : second.head?.any isNameChar = false) :
    words (first ++ second) = words first ++ words second := by
  apply words_append
  intro a _ b next
  rw [next, Option.any_some] at starts
  rw [starts, Bool.and_false]

theorem name_char_solid {c : Char} (part : isNameChar c = true) : c.isWhitespace = false := by
  by_contra blank
  simp only [Char.isWhitespace, Bool.not_eq_false, Bool.or_eq_true, decide_eq_true_eq] at blank
  rcases blank with ((rfl | rfl) | rfl) | rfl <;> cases part

theorem words_word {word : List Char} (present : word ≠ []) (all : ∀ c ∈ word, isNameChar c = true) :
    words word = [String.ofList word] := by
  have joined : word.IsChain fun a b => (isNameChar a && isNameChar b) = true := by
    apply List.Pairwise.isChain
    apply List.pairwise_of_forall_mem_list
    intro a first b second
    rw [all a first, all b second]
    rfl
  rw [words, List.splitBy_of_isChain present joined]
  obtain ⟨c, rest, rfl⟩ := List.exists_cons_of_ne_nil present
  have solid := name_char_solid (all c (List.mem_cons_self ..))
  simp [solid]

theorem mem_words {text : List Char} {word : String} (member : word ∈ words text) :
    ∀ c ∈ word.toList, c ∈ text := by
  simp only [words, List.mem_map, List.mem_filter] at member
  obtain ⟨group, ⟨among, -⟩, rfl⟩ := member
  intro c inside
  rw [String.toList_ofList] at inside
  rw [← List.flatten_splitBy (fun a b => isNameChar a && isNameChar b) text]
  exact List.mem_flatten.mpr ⟨group, among, inside⟩

theorem is_word_chars {word : List Char} (proper : isWord word = true) :
    word ≠ [] ∧ ∀ c ∈ word, isNameChar c = true := by
  cases word with
  | nil => cases proper
  | cons first rest =>
      simp only [isWord, Bool.and_eq_true, List.all_eq_true, isNameStart, Bool.or_eq_true, decide_eq_true_eq] at proper
      obtain ⟨⟨-, start⟩, all⟩ := proper
      refine ⟨List.cons_ne_nil _ _, ?_⟩
      intro c member
      rcases List.mem_cons.mp member with rfl | member
      · rcases start with letter | rfl
        · simp [isNameChar, Char.isAlphanum, letter]
        · rfl
      · exact all c member

section Declarations

def typeWords : FieldType → List String
  | .f32 => ["f32"]
  | .vec2 => ["vec2", "<", "f32", ">"]
  | .vec4 => ["vec4", "<", "f32", ">"]

def fieldWords (field : Field) : List String :=
  field.name :: ":" :: typeWords field.type ++ [","]

def Proper (fields : List Field) : Prop :=
  ∀ field ∈ fields, isWord field.name.toList = true

theorem declaration_chars (field : Field) :
    field.declaration.toList =
      "    ".toList ++ (field.name.toList ++ (": " ++ field.type.name ++ ",\n").toList) := by
  simp [Field.declaration]

theorem words_declaration {field : Field} (proper : isWord field.name.toList = true) :
    words field.declaration.toList = fieldWords field := by
  obtain ⟨present, all⟩ := is_word_chars proper
  have typed : words (": " ++ field.type.name ++ ",\n").toList = ":" :: typeWords field.type ++ [","] := by
    cases field.type <;> decide
  have colon : (": " ++ field.type.name ++ ",\n").toList.head?.any isNameChar = false := by
    cases field.type <;> decide
  have blank : words "    ".toList = [] := by decide
  rw [declaration_chars, words_behind _ (by decide), words_ahead _ colon, words_word present all, typed, blank,
    String.ofList_toList]
  rfl

theorem declaration_ends (field : Field) : field.declaration.toList.getLast?.any isNameChar = false := by
  have last : (": " ++ field.type.name ++ ",\n").toList.getLast? = some '\n' := by
    cases field.type <;> decide
  rw [declaration_chars, List.getLast?_append, List.getLast?_append, last]
  rfl

theorem declaration_plain {field : Field} (proper : isWord field.name.toList = true) :
    '/' ∉ field.declaration.toList := by
  have typed : '/' ∉ (": " ++ field.type.name ++ ",\n").toList := by
    cases field.type <;> decide
  rw [declaration_chars, List.mem_append, List.mem_append, not_or, not_or]
  refine ⟨by decide, fun member => ?_, typed⟩
  exact absurd ((is_word_chars proper).2 '/' member) (by decide)

theorem words_declarations {fields : List Field} (proper : Proper fields) (rest : List Char) :
    words (fields.flatMap (fun field => field.declaration.toList) ++ rest) =
      fields.flatMap fieldWords ++ words rest := by
  induction fields with
  | nil => rfl
  | cons field fields ih =>
      obtain ⟨first, others⟩ := List.forall_mem_cons.mp proper
      rw [List.flatMap_cons, List.flatMap_cons, List.append_assoc, List.append_assoc,
        words_behind _ (declaration_ends field), words_declaration first, ih others]

theorem field_list?_field_words {fields : List Field} (proper : Proper fields) (rest : List String) :
    fieldList? (fields.flatMap fieldWords ++ "\x7d" :: rest) = some fields := by
  induction fields with
  | nil => rfl
  | cons field fields ih =>
      obtain ⟨first, others⟩ := List.forall_mem_cons.mp proper
      obtain ⟨name, type⟩ := field
      have brace : isWord "\x7d".toList = false := by decide
      have goesOn : name ≠ "\x7d" := by
        rintro rfl
        cases brace.symm.trans first
      cases type <;> simp [fieldWords, typeWords, fieldList?, ih others]

theorem struct_fields?_skip (name : String) {before : List String} (rest : List String)
    (none : "struct" ∉ before) : structFields? name (before ++ rest) = structFields? name rest := by
  induction before with
  | nil => rfl
  | cons word before ih =>
      simp only [List.mem_cons, not_or] at none
      rw [List.cons_append, structFields?, if_neg (fun opens => none.1 opens.1.symm), ih none.2]

end Declarations

def isNumeric (c : Char) : Bool :=
  c.isDigit || ['-', '.', 'N', 'a', 'i', 'n', 'f', 'u', ';'].contains c

theorem numeric_absent {text : List Char} (numeric : text.all isNumeric = true) {c : Char}
    (other : isNumeric c = false) : c ∉ text := by
  intro member
  cases other.symm.trans (List.all_eq_true.mp numeric c member)

theorem digits_numeric {text : List Char} (digits : ∀ c ∈ text, c.isDigit = true) : text.all isNumeric = true := by
  rw [List.all_eq_true]
  intro c member
  rw [isNumeric, digits c member, Bool.true_or]

theorem pointed_numeric (decimal : Decimal) : decimal.pointed.toList.all isNumeric = true := by
  obtain ⟨whole, fraction, text, pointed⟩ := decimal.pointed_chars
  rw [text, List.all_append, List.all_cons, digits_numeric pointed.wholeDigits, digits_numeric pointed.fractionDigits]
  rfl

theorem number_numeric (x : Float) : (number x).toList.all isNumeric = true := by
  have magnitude : (if Binary.magnitude64 x = 0 then numberStyle.zero else
      numberStyle.finite (Decimal.shortest .binary64 numberStyle.tie (Binary.magnitude64 x))).toList.all isNumeric =
        true := by
    split
    · decide
    · exact pointed_numeric _
  rw [number, Decimal.Style.write64, Decimal.Style.write]
  split
  · decide
  · split
    · split <;> decide
    · dsimp only
      split
      · rw [String.toList_append, List.all_append, magnitude]
        decide
      · exact magnitude

theorem count_numeric (n : Nat) : (toString n ++ "u;").toList.all isNumeric = true := by
  have unit : "u;".toList.all isNumeric = true := by decide
  have digits : (Nat.toDigits 10 n).all isNumeric = true := digits_numeric (Decimal.digits_is_digit n)
  rw [String.toList_append, List.all_append, unit, Nat.toString_eq_ofList_toDigits, String.toList_ofList, digits]
  rfl

theorem numeric_words {text : List Char} (numeric : text.all isNumeric = true) : "struct" ∉ words text :=
  fun member => numeric_absent numeric (by decide : isNumeric 's' = false) (mem_words member 's' (by decide))

-- The program starts with a comment and the bounds of the loop. The numbers in them are free, but no
-- number spells a keyword or starts a comment.
theorem constants_text (settings : ShaderSettings) :
    ∃ bounds, (constants settings).toList = '/' :: '/' :: (" Fractus Generated Shader".toList ++ '\n' :: bounds) ∧
      '/' ∉ bounds ∧ "struct" ∉ words bounds ∧ bounds.getLast?.any isNameChar = false := by
  have counted := count_numeric settings.maxIterations.toNat
  have radius := number_numeric (Binary.widen settings.escapeRadius * Binary.widen settings.escapeRadius)
  have slash : isNumeric '/' = false := by decide
  refine ⟨"const MAX_ITERATIONS: u32 = ".toList ++ ((toString settings.maxIterations.toNat ++ "u;").toList ++
    (('\n' :: "const ESCAPE_RADIUS_SQ: f32 = ".toList) ++
      ((number (Binary.widen settings.escapeRadius * Binary.widen settings.escapeRadius)).toList ++ [';', '\n']))),
    ?_, ?_, ?_, ?_⟩
  · have comment : "// Fractus Generated Shader".toList = '/' :: '/' :: " Fractus Generated Shader".toList := by
      decide +kernel
    have newline : "\n".toList = ['\n'] := by decide
    have semicolon : ";".toList = [';'] := by decide
    simp only [constants, lines, List.map_cons, List.map_nil, String.join_cons, String.join_nil,
      String.append_empty, String.toList_append, List.append_assoc, comment, newline, semicolon, List.cons_append,
      List.nil_append]
  · simp only [List.mem_append, not_or]
    exact ⟨by decide +kernel, numeric_absent counted slash, by decide +kernel, numeric_absent radius slash, by decide⟩
  · rw [words_behind _ (by decide +kernel), words_ahead _ rfl, words_behind _ (by decide +kernel), words_ahead _ rfl]
    simp only [List.mem_append, not_or]
    exact ⟨by decide +kernel, numeric_words counted, by decide +kernel, numeric_words radius, by decide⟩
  · simp only [List.getLast?_append]
    rfl

def structHead : List Char :=
  '\n' :: "struct Uniforms \x7b".toList ++ ['\n']

theorem uniform_struct_text (fields : List Field) :
    ∃ more, (uniformStruct fields).toList =
      structHead ++ (fields.flatMap (fun field => field.declaration.toList) ++ '}' :: more) := by
  have newline : "\n".toList = ['\n'] := by decide
  have brace : "\x7d;".toList = '}' :: [';'] := by decide
  refine ⟨';' :: ("\n" ++ "@group(0) @binding(0) var<uniform> uniforms: Uniforms;" ++ "\n").toList, ?_⟩
  simp only [uniformStruct, structHead, lines, List.map_cons, List.map_nil, String.join_cons, String.join_nil,
    String.append_empty, String.empty_append, String.toList_append, String.toList_join, newline, brace,
    List.flatMap_map, List.cons_append, List.nil_append, List.append_assoc]

theorem words_struct {fields : List Field} (proper : Proper fields) (rest : List Char) :
    words (structHead ++ (fields.flatMap (fun field => field.declaration.toList) ++ '}' :: rest)) =
      "struct" :: "Uniforms" :: "\x7b" :: (fields.flatMap fieldWords ++ "\x7d" :: words rest) := by
  have opens : words structHead = ["struct", "Uniforms", "\x7b"] := by decide +kernel
  have closes : words ['}'] = ["\x7d"] := by decide
  have closed : words ('}' :: rest) = "\x7d" :: words rest := by
    rw [← List.singleton_append, words_behind _ (by decide), closes, List.singleton_append]
  rw [words_behind _ (by decide +kernel), opens, words_declarations proper, closed]
  rfl

theorem struct_plain {fields : List Field} (proper : Proper fields) :
    '/' ∉ structHead ++ (fields.flatMap (fun field => field.declaration.toList) ++ ['}']) := by
  simp only [List.mem_append, List.mem_flatMap, not_or, not_exists, not_and]
  exact ⟨by decide +kernel, fun field member => declaration_plain (proper field member), by decide⟩

theorem declared_fields?_struct (settings : ShaderSettings) {fields : List Field} (proper : Proper fields)
    (after : String) :
    declaredFields? "Uniforms" (constants settings ++ uniformStruct fields ++ after) = some fields := by
  obtain ⟨bounds, opening, plain, quiet, ends⟩ := constants_text settings
  obtain ⟨more, text⟩ := uniform_struct_text fields
  have whole : (constants settings ++ uniformStruct fields ++ after).toList =
      '/' :: '/' :: (" Fractus Generated Shader".toList ++ '\n' ::
        ((bounds ++ (structHead ++ (fields.flatMap (fun field => field.declaration.toList) ++ ['}']))) ++
          (more ++ after.toList))) := by
    simp only [String.toList_append, opening, text, List.cons_append, List.nil_append, List.append_assoc]
  have apart : '/' ∉ bounds ++ (structHead ++ (fields.flatMap (fun field => field.declaration.toList) ++ ['}'])) := by
    rw [List.mem_append, not_or]
    exact ⟨plain, struct_plain proper⟩
  rw [declaredFields?, whole, uncomment_comment _ (by decide +kernel), uncomment_plain _ apart]
  simp only [List.append_assoc, List.singleton_append]
  rw [← List.singleton_append, words_behind _ (by decide), words_behind _ ends, words_struct proper,
    struct_fields?_skip _ _ (by decide), struct_fields?_skip _ _ quiet, structFields?, if_pos ⟨rfl, rfl⟩]
  exact field_list?_field_words proper _

theorem uniform_fields_proper (table : Variables) : Proper (uniformFields table) := by
  intro field member
  rcases List.mem_append.mp member with fixed | slot
  · have all : (frameFields.all fun field => isWord field.name.toList) = true := by decide
    exact List.all_eq_true.mp all field fixed
  · obtain ⟨entry, -, rfl⟩ := List.mem_map.mp slot
    exact slot_field_is_word entry.2.id

theorem declared_fields?_program (settings : ShaderSettings) (initial step : String) (table : Variables) :
    declaredFields? "Uniforms" (program settings initial step table) = some (uniformFields table) := by
  have text : program settings initial step table = constants settings ++ uniformStruct (uniformFields table) ++
      (vertexStage ++ (complexLibrary ++ (paletteFunction settings.palette ++ fragmentStage initial step))) := by
    simp only [program, String.append_assoc]
  rw [text]
  exact declared_fields?_struct settings (uniform_fields_proper table) _

end EscapeTime.Wgsl
