import EscapeTime.Proofs.Toml.Document
import EscapeTime.Settings.Text

set_option autoImplicit false

namespace EscapeTime

namespace Dictionary

-- In increasing order every name goes to the end.
theorem place_end {name text : String} {entries : List (String × String)}
    (above : ∀ entry ∈ entries, entry.1 < name) : place name text entries = entries ++ [(name, text)] := by
  induction entries with
  | nil => rfl
  | cons entry tail ih =>
      have before := above entry (List.mem_cons_self ..)
      rw [place, if_neg (lt_asymm before), if_neg before.ne',
        ih fun entry member => above entry (List.mem_cons_of_mem _ member), List.cons_append]

theorem entries_foldl_insert (names : Dictionary) {entries : List (String × String)}
    (ordered : (names.entries ++ entries).Pairwise fun a b => a.1 < b.1) :
    (entries.foldl (fun dictionary entry => dictionary.insert entry.1 entry.2) names).entries =
      names.entries ++ entries := by
  induction entries generalizing names with
  | nil => simp
  | cons entry entries ih =>
      have placed : (names.insert entry.1 entry.2).entries = names.entries ++ [entry] :=
        place_end fun other member =>
          (List.pairwise_append.mp ordered).2.2 other member entry (List.mem_cons_self ..)
      have regrouped : names.entries ++ entry :: entries = (names.insert entry.1 entry.2).entries ++ entries := by
        rw [placed, List.append_assoc, List.singleton_append]
      rw [List.foldl_cons, ih _ (regrouped ▸ ordered), regrouped]

theorem of_list_entries (names : Dictionary) : ofList names.entries = names := by
  have same : (ofList names.entries).entries = [] ++ names.entries := entries_foldl_insert empty names.ordered
  obtain ⟨entries, ordered⟩ := names
  rw [mk.injEq]
  exact same

end Dictionary

def Color.settled (color : Color) : Color :=
  ⟨Toml.settled color.red, Toml.settled color.green, Toml.settled color.blue, Toml.settled color.alpha⟩

namespace Settings

open Toml

def Denotes {α : Type} (decode : Datum → Option α) (text : String) (value : α) : Prop :=
  ∃ datum, IsValue text.toList datum ∧ decode datum = some value

theorem denotes_count (count : UInt32) : Denotes count? (toString count.toNat) count := by
  have small : count.toNat < 2 ^ 32 := count.toNat_lt
  have digits : (toString count.toNat).toList = Decimal.digits count.toNat := String.toList_ofList
  refine ⟨.integer count.toNat, digits ▸ is_value_word (is_word_digits small), ?_⟩
  have inside : (0 : Int) ≤ count.toNat ∧ (count.toNat : Int) < Int.pow 2 32 := by
    norm_num
    omega
  rw [count?, if_pos inside, Int.toNat_natCast, UInt32.ofNat_toNat]

theorem denotes_number {x : Float32} (number : Binary.magnitude32 x ≤ Format.binary32.infinity) :
    Denotes single? (Toml.number x) (settled x) := by
  obtain ⟨y, word, narrowed⟩ := is_word_number number
  exact ⟨.float y, is_value_word word, congrArg some narrowed⟩

theorem denotes_grouping (grouping : Grouping) :
    Denotes (choice? .toml Grouping.ofName?) (quoteValue grouping.name) grouping := by
  refine ⟨.text grouping.name, is_value_text ?_, Grouping.of_name?_name grouping⟩
  cases grouping <;> decide

theorem denotes_implicit (implicit : ImplicitFactor) :
    Denotes (choice? .toml ImplicitFactor.ofName?) (quoteValue implicit.name) implicit := by
  refine ⟨.text implicit.name, is_value_text ?_, ImplicitFactor.of_name?_name implicit⟩
  cases implicit <;> decide

theorem denotes_palette {palette : Palette} (known : ∀ body, palette ≠ .custom body) :
    Denotes (palette? .toml) (quoteValue palette.name) palette := by
  cases palette with
  | custom body => exact absurd rfl (known body)
  | green | rainbow | viridis => exact ⟨_, is_value_text (by decide), rfl⟩

def colorValue (color : Color) : String :=
  let part := fun x => "    " ++ Toml.number x ++ ",\n"
  "[\n" ++ part color.red ++ part color.green ++ part color.blue ++ part color.alpha ++ "]"

theorem color_lines_eq (color : Color) : colorLines color = line ("non_escape_color = " ++ colorValue color) := by
  apply String.toList_inj.mp
  simp [colorLines, colorValue, line]

theorem denotes_color {color : Color}
    (numbers : ∀ x ∈ [color.red, color.green, color.blue, color.alpha], Binary.magnitude32 x ≤ Format.binary32.infinity) :
    Denotes (color? .toml) (colorValue color) color.settled := by
  obtain ⟨red, redWord, redBack⟩ := is_word_number (numbers color.red (by simp))
  obtain ⟨green, greenWord, greenBack⟩ := is_word_number (numbers color.green (by simp))
  obtain ⟨blue, blueWord, blueBack⟩ := is_word_number (numbers color.blue (by simp))
  obtain ⟨alpha, alphaWord, alphaBack⟩ := is_word_number (numbers color.alpha (by simp))
  let items : List (List Char × Datum) :=
    [((Toml.number color.red).toList, .float red), ((Toml.number color.green).toList, .float green),
      ((Toml.number color.blue).toList, .float blue), ((Toml.number color.alpha).toList, .float alpha)]
  have words : ∀ item ∈ items, IsWord item.1 item.2 := by simp [items, redWord, greenWord, blueWord, alphaWord]
  have layout : (colorValue color).toList = '[' :: '\n' :: (itemLines items ++ [']']) := by
    simp [colorValue, itemLines, items]
  refine ⟨.list (items.map (·.2)), layout ▸ is_value_list words, ?_⟩
  simp [items, color?, single?, redBack, greenBack, blueBack, alphaBack, Color.settled]

section Line

variable {key label text : String} {datum : Datum}

theorem is_statement_name (plain : PlainKey key) (isValue : IsValue text.toList datum) :
    IsStatement (line (quoteKey key ++ " = " ++ text)).toList (.pair [key] datum) := by
  have read : ∀ rest, readSimpleKey? ((quoteKey key).toList ++ ' ' :: rest) = some (key, ' ' :: rest) := by
    intro rest
    refine read_simple_key?_quote_key plain ?_
    rintro _ ⟨⟩
    rfl
  have first : ∃ c tail, (quoteKey key).toList = c :: tail ∧ isSolid c = true ∧ c ≠ '[' := by
    by_cases bare : key.toList ≠ [] ∧ ∀ c ∈ key.toList, isBareChar c = true
    · obtain ⟨c, tail, chars, first⟩ := IsBare.cases ⟨bare.1, bare.2⟩
      refine ⟨c, tail, by rw [quote_key_bare bare.1 bare.2, chars], is_solid_of first rfl, ?_⟩
      rintro rfl
      cases first
    · refine ⟨'"', _, by rw [quote_key_plain plain bare, ← List.append_nil (quoted _ _).toList, quoted_basic [] plain], rfl, ?_⟩
      decide
  have written : (line (quoteKey key ++ " = " ++ text)).toList =
      (quoteKey key).toList ++ ' ' :: '=' :: ' ' :: (text.toList ++ ['\n']) := by
    simp [line]
  rw [written]
  exact is_statement_pair first read isValue

theorem is_statement_line (bare : IsBare key) (layout : label = key ++ " = ") (isValue : IsValue text.toList datum) :
    IsStatement (line (label ++ text)).toList (.pair [key] datum) := by
  have statement := is_statement_name bare.plain_key isValue
  rwa [quote_key_bare bare.present bare.chars, ← layout] at statement

end Line

end Settings

end EscapeTime
