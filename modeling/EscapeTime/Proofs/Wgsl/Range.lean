import EscapeTime.Proofs.Binary.Product
import EscapeTime.Proofs.Decimal.Order
import EscapeTime.Proofs.Wgsl.Struct

set_option autoImplicit false

namespace EscapeTime.Wgsl

def isPointed (text : String) : Bool :=
  text.toList.contains '.' && text.toList.all fun c => c.isDigit || c = '.' || c = '-'

def fitsSingle (text : String) : Bool :=
  isPointed text &&
    match Decimal.ofChars? (Decimal.splitSign text.toList).2 with
    | some decimal => decimal.nearest .binary32 < Format.binary32.infinity
    | none => false

def Expr.numerals : Expr → List String
  | verbatim _ => []
  | uniform _ => []
  | constant re im => [re, im]
  | negate inner => inner.numerals
  | add left right => left.numerals ++ right.numerals
  | subtract left right => left.numerals ++ right.numerals
  | unary _ inner => inner.numerals
  | binary _ left right => left.numerals ++ right.numerals

section Text

theorem is_pointed_pointed (decimal : Decimal) : isPointed decimal.pointed = true := by
  obtain ⟨whole, fraction, text, pointed⟩ := decimal.pointed_chars
  rw [isPointed, text, Bool.and_eq_true, List.all_eq_true]
  refine ⟨by simp, fun c member => ?_⟩
  rcases List.mem_append.mp member with digit | member
  · simp [pointed.wholeDigits c digit]
  · rcases List.mem_cons.mp member with rfl | digit
    · rfl
    · simp [pointed.fractionDigits c digit]

theorem is_pointed_negative {text : String} (pointed : isPointed text = true) : isPointed ("-" ++ text) = true := by
  have sign : "-".toList = ['-'] := rfl
  rw [isPointed, Bool.and_eq_true] at pointed ⊢
  rw [String.toList_append, sign, List.singleton_append, List.all_cons, List.contains_cons, pointed.1, pointed.2]
  exact ⟨rfl, rfl⟩

-- A reader of the text gets a decimal of the value that was written.
theorem read_pointed (decimal : Decimal) :
    ∃ read, Decimal.ofChars? decimal.pointed.toList = some read ∧
      Decimal.splitSign decimal.pointed.toList = (false, decimal.pointed.toList) ∧ read.value = decimal.value := by
  obtain ⟨whole, fraction, text, pointed⟩ := decimal.pointed_chars
  have read := Decimal.of_chars?_pointed pointed.present pointed.wholeDigits pointed.fractionDigits
  cases whole with
  | nil => exact absurd rfl pointed.present
  | cons first rest =>
      rw [text]
      exact ⟨_, read, Decimal.split_sign_digit _ (pointed.wholeDigits first (List.mem_cons_self ..)), pointed.value⟩

theorem fits_single_pointed (decimal : Decimal) (negative : Bool) :
    fitsSingle (if negative then "-" ++ decimal.pointed else decimal.pointed) = true ↔
      decimal.value < Format.binary32.limit := by
  obtain ⟨read, found, unsigned, value⟩ := read_pointed decimal
  rw [← value, ← Decimal.nearest_lt_infinity_iff Format.binary32_within_reach]
  have pointed := is_pointed_pointed decimal
  cases negative with
  | false => simp [fitsSingle, pointed, unsigned, found]
  | true =>
      have signed : Decimal.splitSign ("-" ++ decimal.pointed).toList = (true, decimal.pointed.toList) := by
        rw [String.toList_append]
        rfl
      rw [if_pos rfl, fitsSingle, signed, is_pointed_negative pointed]
      simp [found]

-- The double-precision pattern of the limit of single precision.
def limitPattern : Nat := 0x47EFFFFFF0000000

theorem magnitude_limit_pattern : Format.binary64.magnitude limitPattern = Format.binary32.limit := by
  rw [Format.limit, Format.magnitude, Format.magnitude,
    show Format.binary64.significand limitPattern = (2 ^ 25 - 1) * 2 ^ 28 from rfl,
    show Format.binary64.exponent limitPattern = 75 from rfl,
    show Format.binary32.significand (Format.binary32.infinity - 1) = 2 ^ 24 - 1 from rfl,
    show Format.binary32.exponent (Format.binary32.infinity - 1) = 104 from rfl]
  norm_num

-- The decimal of a number may differ from it, but not across a number of double precision.
theorem fits_single_number {x : Float} (finite : Binary.magnitude64 x < Format.binary64.infinity)
    (less : Format.binary64.magnitude (Binary.magnitude64 x) < Format.binary32.limit) :
    fitsSingle (number x) = true := by
  obtain ⟨decimal, rounded, text⟩ := number_eq finite
  rw [text, fits_single_pointed]
  by_contra large
  have reached : limitPattern ≤ Binary.magnitude64 x := by
    rw [← rounded]
    refine Decimal.le_nearest_of_le_value Format.binary64_within_reach (by decide) ?_
    rw [magnitude_limit_pattern]
    exact not_lt.mp large
  have ordered := (Format.binary64.magnitude_le_iff (by decide) (lt_of_lt_of_le (by decide) reached)).mpr reached
  rw [magnitude_limit_pattern] at ordered
  exact absurd ordered (not_le.mpr less)

theorem le_of_fits_single_number {x : Float} (finite : Binary.magnitude64 x < Format.binary64.infinity)
    (fits : fitsSingle (number x) = true) : Binary.magnitude64 x ≤ limitPattern := by
  obtain ⟨decimal, rounded, text⟩ := number_eq finite
  rw [text, fits_single_pointed] at fits
  rw [← rounded]
  refine Decimal.nearest_le_of_value_le Format.binary64_within_reach (by decide) ?_
  rw [magnitude_limit_pattern]
  exact fits.le

theorem is_pointed_number {x : Float} (finite : Binary.magnitude64 x < Format.binary64.infinity) :
    isPointed (number x) = true := by
  obtain ⟨decimal, -, text⟩ := number_eq finite
  rw [text]
  split
  · exact is_pointed_negative (is_pointed_pointed decimal)
  · exact is_pointed_pointed decimal

end Text

section Literals

theorem less_of_narrow {x : Float} (finite : Binary.isFinite32 (Binary.narrow x) = true) :
    Format.binary64.magnitude (Binary.magnitude64 x) < Format.binary32.limit := by
  by_cases zero : Binary.magnitude64 x = 0
  · rw [zero, Format.magnitude_zero]
    exact Format.binary32.limit_pos
  · have bounded := Binary.finite_of_narrow finite
    have positive : 0 < (Format.binary64.ratio (Binary.magnitude64 x)).num :=
      Nat.pos_of_ne_zero (mt (Format.binary64.ratio_num_eq_zero_iff _).mp zero)
    rw [Format.magnitude_eq, ← Format.nearest_lt_infinity_iff .binary32 positive (Format.ratio_den_pos _ _) (by decide)
      (by decide)]
    have most : Format.binary32.nearest (Format.binary64.ratio (Binary.magnitude64 x)) ≤ Format.binary32.infinity := by
      rw [Format.nearest, if_neg positive.ne']
      exact Nat.min_le_left _ _
    refine lt_of_le_of_ne most fun top => ?_
    have high : ∀ negative, Binary.isFinite32 (Binary.ofMagnitude32 negative Format.binary32.infinity) = false := by
      decide
    rw [Binary.narrow, Format.convert, if_neg (by omega), if_neg (by omega), top, high] at finite
    cases finite

theorem literal_number_fits {value : Token} {x : Float} (made : Formula.literalNumber value = .ok x) :
    fitsSingle (number x) = true := by
  unfold Formula.literalNumber at made
  split at made
  · cases made
  · split at made
    · rename_i finite
      obtain rfl := Except.ok.inj made
      exact fits_single_number (Binary.finite_of_narrow finite) (less_of_narrow finite)
    · cases made

theorem literal_code_fits {value : Token} {expr : Expr} (made : Formula.literalCode value = .ok expr) :
    ∀ text ∈ expr.numerals, fitsSingle text = true := by
  obtain ⟨x, read, made⟩ := Formula.bind_ok made
  have fits := literal_number_fits read
  have zero : fitsSingle "0.0" = true := by decide
  split at made
  · obtain rfl := Except.ok.inj made
    simp [Expr.numerals, fits, zero]
  · obtain rfl := Except.ok.inj made
    simp [Expr.numerals, fits, zero]
  · cases made

theorem unary_code_numerals {op : Token} {inner expr : Expr} (made : Formula.unaryCode op inner = .ok expr) :
    expr.numerals = inner.numerals := by
  unfold Formula.unaryCode at made
  split at made <;> cases made <;> rfl

theorem binary_code_numerals {op : Token} {left right expr : Expr}
    (made : Formula.binaryCode left op right = .ok expr) : expr.numerals = left.numerals ++ right.numerals := by
  unfold Formula.binaryCode at made
  split at made <;> cases made <;> rfl

theorem symbol_code_numerals {table : Variables} {name : Token} {expr : Expr}
    (made : Formula.symbolCode table name = .ok expr) : expr.numerals = [] := by
  unfold Formula.symbolCode at made
  split at made
  · split at made <;> cases made
    rfl
  · obtain rfl := Except.ok.inj made
    rw [Formula.parameterCode]
    split <;> rfl
  · cases made

theorem code_fits {table : Variables} {formula : Formula} {expr : Expr} (made : formula.code table = .ok expr) :
    ∀ text ∈ expr.numerals, fitsSingle text = true := by
  induction formula generalizing expr with
  | unary op inner ih =>
      obtain ⟨operand, first, last⟩ := Formula.bind_ok made
      rw [unary_code_numerals last]
      exact ih first
  | binary left op right leftFits rightFits =>
      obtain ⟨first, leftMade, more⟩ := Formula.bind_ok made
      obtain ⟨second, rightMade, last⟩ := Formula.bind_ok more
      rw [binary_code_numerals last]
      intro text member
      rcases List.mem_append.mp member with member | member
      · exact leftFits leftMade text member
      · exact rightFits rightMade text member
  | literal value => exact literal_code_fits made
  | symbol name =>
      rw [symbol_code_numerals made]
      intro text member
      cases member
  | invalid message => cases made

end Literals

section Radius

def declared? (start source : List Char) : Option String :=
  ((source.splitOn '\n').find? fun line => start.isPrefixOf line).map fun line =>
    String.ofList ((line.drop start.length).takeWhile (· ≠ ';'))

def radiusStart : List Char :=
  "const ESCAPE_RADIUS_SQ: f32 = ".toList

theorem declared?_other {start line : List Char} (plain : '\n' ∉ line) (other : start.isPrefixOf line = false)
    (rest : List Char) : declared? start (line ++ '\n' :: rest) = declared? start rest := by
  rw [declared?, declared?, List.splitOn_append_cons_self_of_not_mem plain, List.find?_cons_of_neg (by simp [other])]

theorem declared?_here {start text : List Char} (plain : '\n' ∉ start ++ (text ++ [';'])) (whole : ';' ∉ text)
    (rest : List Char) :
    declared? start (start ++ (text ++ [';']) ++ '\n' :: rest) = some (String.ofList text) := by
  have begins : start.isPrefixOf (start ++ (text ++ [';'])) = true :=
    List.isPrefixOf_iff_prefix.mpr (List.prefix_append _ _)
  have ends : (text ++ [';']).takeWhile (fun c => decide (c ≠ ';')) = text := by
    have all : ∀ c ∈ text, decide (c ≠ ';') = true := by
      intro c member
      rw [decide_eq_true_eq]
      rintro rfl
      exact whole member
    rw [List.takeWhile_append_of_pos all]
    simp
  rw [declared?, List.splitOn_append_cons_self_of_not_mem plain, List.find?_cons_of_pos begins, Option.map_some,
    List.drop_left, ends]

theorem pointed_absent {text : String} (pointed : isPointed text = true) {c : Char} (other : c ∉ ['.', '-'])
    (letter : c.isDigit = false) : c ∉ text.toList := by
  intro member
  have known := List.all_eq_true.mp (Bool.and_eq_true_iff.mp pointed).2 c member
  simp_all

theorem constants_lines (settings : ShaderSettings) :
    constants settings =
      "// Fractus Generated Shader" ++ "\n" ++
        ("const MAX_ITERATIONS: u32 = " ++ (toString settings.maxIterations.toNat ++ "u;") ++ "\n" ++
          ("const ESCAPE_RADIUS_SQ: f32 = " ++
            (number (Binary.widen settings.escapeRadius * Binary.widen settings.escapeRadius) ++ ";") ++ "\n")) := by
  simp only [constants, lines, List.map_cons, List.map_nil, String.join_cons, String.join_nil, String.append_empty,
    String.append_assoc]

theorem radius_declared (settings : ShaderSettings) (initial step : String) (table : Variables)
    (pointed : isPointed (number (Binary.widen settings.escapeRadius * Binary.widen settings.escapeRadius)) = true) :
    declared? radiusStart (program settings initial step table).toList =
      some (number (Binary.widen settings.escapeRadius * Binary.widen settings.escapeRadius)) := by
  have counted := count_numeric settings.maxIterations.toNat
  have line : isNumeric '\n' = false := by decide
  have whole := pointed_absent pointed (by decide : ';' ∉ ['.', '-']) rfl
  have plain := pointed_absent pointed (by decide : '\n' ∉ ['.', '-']) rfl
  have newline : "\n".toList = ['\n'] := by decide
  have semicolon : ";".toList = [';'] := by decide
  have opening : ∀ text, radiusStart.isPrefixOf ("const MAX_ITERATIONS: u32 = ".toList ++ text) = false := by
    intro text
    rw [show "const MAX_ITERATIONS: u32 = ".toList = "const M".toList ++ "AX_ITERATIONS: u32 = ".toList by decide +kernel]
    rfl
  rw [program, constants_lines]
  simp only [String.append_assoc]
  generalize uniformStruct (uniformFields table) ++ (vertexStage ++ (complexLibrary ++
    (paletteFunction settings.palette ++ fragmentStage initial step))) = rest
  generalize number (Binary.widen settings.escapeRadius * Binary.widen settings.escapeRadius) = radius at *
  generalize toString settings.maxIterations.toNat = count at *
  have split : ("// Fractus Generated Shader" ++ ("\n" ++ ("const MAX_ITERATIONS: u32 = " ++ (count ++ ("u;" ++ ("\n" ++
      ("const ESCAPE_RADIUS_SQ: f32 = " ++ (radius ++ (";" ++ ("\n" ++ rest)))))))))).toList =
        "// Fractus Generated Shader".toList ++ '\n' ::
          (("const MAX_ITERATIONS: u32 = ".toList ++ (count ++ "u;").toList) ++ '\n' ::
            (radiusStart ++ (radius.toList ++ [';']) ++ '\n' :: rest.toList)) := by
    simp only [String.toList_append, newline, semicolon, List.append_assoc, List.cons_append, List.nil_append]
    rfl
  rw [split, declared?_other (by decide +kernel) (by decide +kernel), declared?_other ?_ (opening _),
    declared?_here ?_ whole, String.ofList_toList]
  · simp only [List.mem_append, not_or]
    exact ⟨by decide +kernel, plain, by decide⟩
  · rw [List.mem_append, not_or]
    exact ⟨by decide +kernel, numeric_absent counted line⟩

theorem magnitude64_square {radius : Float32} (finite : Binary.magnitude32 radius < Format.binary32.infinity) :
    Binary.magnitude64 (Binary.widen radius * Binary.widen radius) < Format.binary64.infinity ∧
      Format.binary64.magnitude (Binary.magnitude64 (Binary.widen radius * Binary.widen radius)) =
        Format.binary32.magnitude (Binary.magnitude32 radius) ^ 2 := by
  obtain ⟨square, bounded, bits, value⟩ := Binary.bits_square_widen finite
  have small : square < Format.binary64.signBit := bounded.trans (by decide)
  rw [Binary.magnitude64, bits, Nat.mod_eq_of_lt small]
  exact ⟨bounded, value⟩

theorem limit_eq : Format.binary32.limit = (2 ^ 25 - 1) * 2 ^ 103 := by
  rw [← magnitude_limit_pattern, Format.magnitude,
    show Format.binary64.significand limitPattern = (2 ^ 25 - 1) * 2 ^ 28 from rfl,
    show Format.binary64.exponent limitPattern = 75 from rfl]
  norm_num

-- The largest number below the bound leaves a gap to it, and the limit lies within the square of that gap.
theorem radius_fits_iff {radius : Float32} (finite : Binary.magnitude32 radius < Format.binary32.infinity) :
    fitsSingle (number (Binary.widen radius * Binary.widen radius)) = true ↔
      Format.binary32.magnitude (Binary.magnitude32 radius) < 2 ^ 64 := by
  obtain ⟨bounded, value⟩ := magnitude64_square finite
  have nonneg : 0 ≤ Format.binary32.magnitude (Binary.magnitude32 radius) := by
    rw [Format.magnitude]
    positivity
  constructor
  · intro fits
    have order := le_of_fits_single_number bounded fits
    by_contra large
    have squared : (2 : ℚ) ^ 128 ≤ Format.binary32.magnitude (Binary.magnitude32 radius) ^ 2 := by
      have root : (2 : ℚ) ^ 64 ≤ Format.binary32.magnitude (Binary.magnitude32 radius) := not_lt.mp large
      nlinarith
    have some : 0 < Binary.magnitude64 (Binary.widen radius * Binary.widen radius) := by
      apply Nat.pos_of_ne_zero
      intro zero
      rw [zero, Format.magnitude_zero] at value
      rw [← value] at squared
      norm_num at squared
    have below := (Format.binary64.magnitude_le_iff some (by decide)).mpr order
    rw [magnitude_limit_pattern, limit_eq, value] at below
    norm_num at below squared
    linarith
  · intro small
    refine fits_single_number bounded ?_
    have top : Format.binary32.magnitude 0x5f800000 = 2 ^ 64 := by
      rw [Format.magnitude, show Format.binary32.significand 0x5f800000 = 2 ^ 23 from rfl,
        show Format.binary32.exponent 0x5f800000 = 41 from rfl]
      norm_num
    have next : Format.binary32.magnitude 0x5f7fffff = (2 ^ 24 - 1) * 2 ^ 40 := by
      rw [Format.magnitude, show Format.binary32.significand 0x5f7fffff = 2 ^ 24 - 1 from rfl,
        show Format.binary32.exponent 0x5f7fffff = 40 from rfl]
      norm_num
    have most : Format.binary32.magnitude (Binary.magnitude32 radius) ≤ (2 ^ 24 - 1) * 2 ^ 40 := by
      by_cases zero : Binary.magnitude32 radius = 0
      · rw [zero, Format.magnitude_zero]
        norm_num
      · have positive := Nat.pos_of_ne_zero zero
        rw [← top, Format.binary32.magnitude_lt_iff positive (by decide)] at small
        rw [← next, Format.binary32.magnitude_le_iff positive (by decide)]
        omega
    rw [value, limit_eq]
    calc Format.binary32.magnitude (Binary.magnitude32 radius) ^ 2
        ≤ ((2 ^ 24 - 1) * 2 ^ 40) ^ 2 := by gcongr
      _ < (2 ^ 25 - 1) * 2 ^ 103 := by norm_num

end Radius

end EscapeTime.Wgsl
