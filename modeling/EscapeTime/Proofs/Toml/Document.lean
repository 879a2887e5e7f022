import EscapeTime.Proofs.Toml.Statement

set_option autoImplicit false

namespace EscapeTime.Toml

inductive IsDocument : List Char → List Statement → Prop
  | nil : IsDocument [] []
  | blank {text : List Char} {statements : List Statement} (rest : IsDocument text statements) :
      IsDocument ('\n' :: text) statements
  | cons {text more : List Char} {statement : Statement} {statements : List Statement}
      (first : IsStatement text statement) (rest : IsDocument more statements) :
      IsDocument (text ++ more) (statement :: statements)

theorem IsStatement.document {text : List Char} {statement : Statement} (first : IsStatement text statement) :
    IsDocument text [statement] := by
  have single := IsDocument.cons first .nil
  rwa [List.append_nil] at single

theorem IsDocument.append {first second : List Char} {before after : List Statement}
    (front : IsDocument first before) (back : IsDocument second after) :
    IsDocument (first ++ second) (before ++ after) := by
  induction front with
  | nil => exact back
  | blank _ ih => exact .blank ih
  | cons head _ ih =>
      rw [List.append_assoc]
      exact .cons head ih

theorem read_statements?_document {text : List Char} {statements : List Statement} (document : IsDocument text statements)
    {fuel : Nat} (enough : text.length < fuel) : readStatements? fuel text = some statements := by
  induction document generalizing fuel with
  | nil =>
      obtain ⟨fuel, rfl⟩ := Nat.exists_eq_add_of_lt enough
      rfl
  | blank rest ih =>
      obtain ⟨fuel, rfl⟩ := Nat.exists_eq_add_of_lt enough
      exact ih (Nat.lt_of_succ_lt enough)
  | @cons text more statement statements first rest ih =>
      obtain ⟨fuel, rfl⟩ := Nat.exists_eq_add_of_lt enough
      have read := first.read more
      obtain ⟨c, tail, rfl, solid⟩ := first.solid
      have later : readStatements? ((c :: tail ++ more).length + fuel) more = some statements :=
        ih (by simp only [List.length_append, List.length_cons]; omega)
      rw [readStatements?]
      rw [List.cons_append] at read later ⊢
      simp only [skip_gap?_solid solid, read, later, Option.bind_eq_bind, Option.bind_some]
      rfl

namespace Fields

variable {key : String} {fields : Fields}

theorem lookup_end {node : Node} (absent : fields.lookup key = none) : (fields ++ [(key, node)]).lookup key = some node := by
  rw [List.lookup_append, absent, List.lookup_cons_self]
  rfl

theorem absent_cons {field : String × Node} (absent : (field :: fields).lookup key = none) :
    field.1 ≠ key ∧ fields.lookup key = none := by
  rw [List.lookup_eq_none_iff] at absent ⊢
  refine ⟨fun same => ?_, fun entry member => absent entry (List.mem_cons_of_mem _ member)⟩
  have other := absent field (List.mem_cons_self ..)
  simp [same] at other

theorem put_end (absent : fields.lookup key = none) (old node : Node) :
    put key node (fields ++ [(key, old)]) = fields ++ [(key, node)] := by
  induction fields with
  | nil => simp [put]
  | cons field tail ih =>
      obtain ⟨other, later⟩ := absent_cons absent
      rw [List.cons_append, put, if_neg other, ih later, List.cons_append]

theorem put_absent (absent : fields.lookup key = none) (node : Node) : put key node fields = fields ++ [(key, node)] := by
  induction fields with
  | nil => rfl
  | cons field tail ih =>
      obtain ⟨other, later⟩ := absent_cons absent
      rw [put, if_neg other, ih later, List.cons_append]

-- A table with a hole at the end of a path: changing what stands there changes nothing around it.
def IsFrame (path : List String) (frame : Fields → Fields) : Prop :=
  ∀ (change : Fields → Option Fields) (inner : Fields), under path change (frame inner) = (change inner).map frame

theorem is_frame_here : IsFrame [] id := by
  intro change inner
  rw [Option.map_id]
  rfl

-- The tables that a header goes through are told apart only by dotted keys.
theorem along_origin (change : Fields → Option Fields) (path : List String) (origin : Origin) (fields : Fields) :
    along false (fun _ inner => change inner) path origin fields = under path change fields := by
  cases path <;> rfl

theorem is_frame_end {path : List String} {frame : Fields → Fields} (inside : IsFrame path frame)
    (absent : fields.lookup key = none) (origin : Origin) :
    IsFrame (key :: path) fun inner => fields ++ [(key, .table origin (frame inner))] := by
  intro change inner
  have found : (fields ++ [(key, Node.table origin (frame inner))]).lookup key = some (.table origin (frame inner)) :=
    lookup_end absent
  rw [under, along]
  simp only [found, Bool.false_eq_true, false_and, if_false, along_origin, inside change inner, Option.map_map]
  congr 1
  funext inner
  exact put_end absent _ _

theorem define_absent (absent : fields.lookup key = none) (datum : Datum) :
    define key datum fields = some (fields ++ [(key, .value datum)]) := by
  rw [define, absent]
  exact congrArg some (put_absent absent _)

theorem open_table_absent (absent : fields.lookup key = none) :
    openTable key fields = some (fields ++ [(key, .table .header [])]) := by
  rw [openTable, absent]
  exact congrArg some (put_absent absent _)

def values (pairs : List (String × Datum)) : Fields :=
  pairs.map fun pair => (pair.1, .value pair.2)

def assignments (pairs : List (String × Datum)) : List Statement :=
  pairs.map fun pair => .pair [pair.1] pair.2

-- The pairs behind a header fill the table that it opened.
theorem add_pairs {path : List String} {frame : Fields → Fields} (isFrame : IsFrame path frame)
    {pairs : List (String × Datum)} {inner : Fields} (fresh : ∀ pair ∈ pairs, inner.lookup pair.1 = none)
    (distinct : (pairs.map (·.1)).Nodup) :
    (assignments pairs).foldlM Draft.add? ⟨frame inner, path⟩ = some ⟨frame (inner ++ values pairs), path⟩ := by
  induction pairs generalizing inner with
  | nil => simp [assignments, values]
  | cons pair pairs ih =>
      rw [List.map_cons, List.nodup_cons] at distinct
      have step : Draft.add? ⟨frame inner, path⟩ (.pair [pair.1] pair.2) =
          some ⟨frame (inner ++ [(pair.1, .value pair.2)]), path⟩ := by
        have added := isFrame (define pair.1 pair.2) inner
        rw [define_absent (fresh pair (List.mem_cons_self ..)), Option.map_some] at added
        exact congrArg (Option.map fun fields => Draft.mk fields path) added
      have later : ∀ other ∈ pairs, (inner ++ [(pair.1, Node.value pair.2)]).lookup other.1 = none := by
        intro other member
        have different : other.1 ≠ pair.1 := fun same => distinct.1 (same ▸ List.mem_map_of_mem member)
        rw [List.lookup_append, fresh other (List.mem_cons_of_mem _ member), Option.none_or]
        simp [List.lookup, beq_eq_false_iff_ne.mpr different]
      rw [assignments, List.map_cons, List.foldlM_cons, step, Option.bind_eq_bind, Option.bind_some]
      rw [assignments] at ih
      rw [ih later distinct.2, List.append_assoc]
      rfl

theorem add_table (absent : fields.lookup key = none) (header : List String) :
    Draft.add? ⟨fields, header⟩ (.header [key]) = some ⟨fields ++ [(key, .table .header [])], [key]⟩ :=
  congrArg (Option.map fun fields => Draft.mk fields [key]) (open_table_absent absent)

section Subtable

variable {outer : String}

theorem add_subtable {frame : Fields → Fields} (isFrame : IsFrame [outer] frame) (absent : fields.lookup key = none)
    (header : List String) :
    Draft.add? ⟨frame fields, header⟩ (.header [outer, key]) =
      some ⟨frame (fields ++ [(key, .table .header [])]), [outer, key]⟩ := by
  have opened := isFrame (openTable key) fields
  rw [open_table_absent absent, Option.map_some] at opened
  exact congrArg (Option.map fun fields => Draft.mk fields [outer, key]) opened

theorem add_implied (absent : fields.lookup outer = none) (header : List String) :
    Draft.add? ⟨fields, header⟩ (.header [outer, key]) =
      some ⟨fields ++ [(outer, .table .implied [(key, .table .header [])])], [outer, key]⟩ := by
  have opened : under [outer] (openTable key) fields =
      some (fields ++ [(outer, .table .implied [(key, .table .header [])])]) := by
    rw [under, along, absent]
    exact congrArg some (put_absent absent _)
  exact congrArg (Option.map fun fields => Draft.mk fields [outer, key]) opened

end Subtable

end Fields

theorem field_data_append (first second : Fields) : fieldData (first ++ second) = fieldData first ++ fieldData second := by
  induction first with
  | nil => rfl
  | cons field tail ih =>
      obtain ⟨key, node⟩ := field
      rw [List.cons_append, fieldData, fieldData, ih, List.cons_append]

theorem field_data_values (pairs : List (String × Datum)) :
    fieldData (Fields.values pairs) = pairs := by
  induction pairs with
  | nil => rfl
  | cons pair pairs ih =>
      rw [Fields.values] at ih ⊢
      rw [List.map_cons, fieldData, Node.datum, ih]

def IsBody (text : String) (pairs : List (String × Datum)) : Prop :=
  IsDocument text.toList (Fields.assignments pairs)

theorem is_body_nil : IsBody "" [] :=
  .nil

theorem IsBody.append {first second : String} {before after : List (String × Datum)} (front : IsBody first before)
    (back : IsBody second after) : IsBody (first ++ second) (before ++ after) := by
  rw [IsBody, String.toList_append, Fields.assignments, List.map_append]
  exact IsDocument.append front back

-- A piece of a document that adds one table to the top table, whatever is there already.
def IsSection (text : String) (key : String) (node : Node) : Prop :=
  ∃ statements, IsDocument text.toList statements ∧ ∀ fields header, fields.lookup key = none →
    ∃ after, statements.foldlM Draft.add? ⟨fields, header⟩ = some ⟨fields ++ [(key, node)], after⟩

section Section

open Fields

variable {key inner : String} {body lines : String} {pairs entries : List (String × Datum)}

theorem build_table {fields : Fields} (absent : fields.lookup key = none) (distinct : (pairs.map (·.1)).Nodup)
    (header : List String) :
    (.header [key] :: assignments pairs).foldlM Draft.add? ⟨fields, header⟩ =
      some ⟨fields ++ [(key, .table .header (values pairs))], [key]⟩ := by
  rw [List.foldlM_cons, add_table absent header]
  exact add_pairs (is_frame_end is_frame_here absent .header) (fun _ _ => rfl) distinct

theorem lookup_values (fresh : inner ∉ pairs.map (·.1)) : (values pairs).lookup inner = none := by
  rw [List.lookup_eq_none_iff]
  intro field member
  obtain ⟨pair, present, rfl⟩ := List.mem_map.mp member
  exact bne_iff_ne.mpr fun same => fresh (same ▸ List.mem_map_of_mem present)

theorem is_section_table (bare : IsBare key) (isBody : IsBody body pairs) (distinct : (pairs.map (·.1)).Nodup) :
    IsSection ("[" ++ key ++ "]\n" ++ body) key (.table .header (values pairs)) := by
  refine ⟨.header [key] :: assignments pairs, ?_, fun fields header absent => ⟨[key], build_table absent distinct header⟩⟩
  have document := (is_statement_table bare).document.append isBody
  simpa using document

theorem is_section_nested (bare : IsBare key) (isBody : IsBody body pairs) (distinct : (pairs.map (·.1)).Nodup)
    (innerBare : IsBare inner) (fresh : inner ∉ pairs.map (·.1)) (isLines : IsBody lines entries)
    (different : (entries.map (·.1)).Nodup) :
    IsSection ("[" ++ key ++ "]\n" ++ body ++ "\n[" ++ key ++ "." ++ inner ++ "]\n" ++ lines) key
      (.table .header (values pairs ++ [(inner, .table .header (values entries))])) := by
  refine ⟨(.header [key] :: assignments pairs) ++ .header [key, inner] :: assignments entries, ?_,
    fun fields header absent => ⟨[key, inner], ?_⟩⟩
  · have table := (is_statement_table bare).document.append isBody
    have subtable := (is_statement_subtable bare innerBare).document.append isLines
    have document := table.append (.blank subtable)
    simpa using document
  · have room := lookup_values fresh
    have outside : IsFrame [key] fun rest => fields ++ [(key, .table .header rest)] :=
      is_frame_end is_frame_here absent .header
    have inside : IsFrame [key, inner] fun rest =>
        fields ++ [(key, .table .header (values pairs ++ [(inner, .table .header rest)]))] :=
      is_frame_end (is_frame_end is_frame_here room .header) absent .header
    rw [List.foldlM_append, build_table absent distinct header, Option.bind_eq_bind, Option.bind_some, List.foldlM_cons,
      add_subtable outside room]
    exact add_pairs inside (fun _ _ => rfl) different

theorem is_section_implied (bare : IsBare key) (innerBare : IsBare inner) (isBody : IsBody body pairs)
    (distinct : (pairs.map (·.1)).Nodup) :
    IsSection ("[" ++ key ++ "." ++ inner ++ "]\n" ++ body) key
      (.table .implied [(inner, .table .header (values pairs))]) := by
  refine ⟨.header [key, inner] :: assignments pairs, ?_, fun fields header absent => ⟨[key, inner], ?_⟩⟩
  · have document := (is_statement_subtable bare innerBare).document.append isBody
    simpa using document
  · have inside : IsFrame [key, inner] fun rest => fields ++ [(key, .table .implied ([] ++ [(inner, .table .header rest)]))] :=
      is_frame_end (is_frame_end is_frame_here rfl .header) absent .implied
    rw [List.foldlM_cons, add_implied absent header]
    exact add_pairs inside (fun _ _ => rfl) distinct

end Section

def Builds (text : String) (fields : Fields) : Prop :=
  ∃ statements header, IsDocument text.toList statements ∧
    statements.foldlM Draft.add? ⟨[], []⟩ = some ⟨fields, header⟩

theorem builds_nil : Builds "" [] :=
  ⟨[], [], .nil, rfl⟩

namespace Builds

variable {text : String} {fields : Fields} (builds : Builds text fields)
include builds

theorem blank : Builds (text ++ "\n") fields := by
  obtain ⟨statements, header, document, built⟩ := builds
  refine ⟨statements, header, ?_, built⟩
  have longer := document.append (.blank .nil)
  rw [List.append_nil] at longer
  rw [String.toList_append]
  exact longer

theorem extend {more key : String} {node : Node} (isSection : IsSection more key node)
    (absent : fields.lookup key = none) : Builds (text ++ more) (fields ++ [(key, node)]) := by
  obtain ⟨statements, header, document, built⟩ := builds
  obtain ⟨added, continued, adds⟩ := isSection
  obtain ⟨after, result⟩ := adds fields header absent
  refine ⟨statements ++ added, after, ?_, ?_⟩
  · rw [String.toList_append]
    exact document.append continued
  · rw [List.foldlM_append, built]
    exact result

theorem read (unmarked : text.toList.head? ≠ some '\ufeff') : read? text = some (.table (fieldData fields)) := by
  obtain ⟨statements, header, document, built⟩ := builds
  have whole : dropMark text.toList = text.toList := by
    unfold dropMark
    split
    · rename_i same
      exact absurd (by rw [same]; rfl) unmarked
    · rfl
  rw [read?, whole, read_statements?_document document (Nat.lt_succ_self _), Option.bind_eq_bind, Option.bind_some, built]
  rfl

end Builds

end EscapeTime.Toml
