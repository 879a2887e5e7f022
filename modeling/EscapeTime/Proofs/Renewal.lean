import EscapeTime.Variables

set_option autoImplicit false

namespace EscapeTime

namespace Formula

def firstFault : Formula → Option String
  | unary _ inner => inner.firstFault
  | binary left _ right => left.firstFault.or right.firstFault
  | literal _ => none
  | symbol _ => none
  | invalid message => some message

theorem first_fault_eq_none (formula : Formula) : formula.firstFault = none ↔ formula.isValid := by
  induction formula with
  | unary op inner ih => simpa [firstFault, isValid] using ih
  | binary left op right leftFault rightFault =>
      simp [firstFault, isValid, Option.or_eq_none_iff, leftFault, rightFault]
  | literal value => simp [firstFault, isValid]
  | symbol name => simp [firstFault, isValid]
  | invalid message => simp [firstFault, isValid]

def identifiers : Formula → List String
  | unary _ inner => inner.identifiers
  | binary left _ right => left.identifiers ++ right.identifiers
  | literal _ => []
  | symbol name => if name.kind = .identifier then [name.text] else []
  | invalid _ => []

end Formula

namespace Variables

def firstOccurrences : List String → List String
  | [] => []
  | name :: tail => name :: (firstOccurrences tail).filter (· ≠ name)

theorem first_occurrences_nodup (names : List String) : (firstOccurrences names).Nodup := by
  induction names with
  | nil => exact .nil
  | cons name tail ih =>
      refine List.nodup_cons.mpr ⟨by simp, List.Pairwise.filter _ ih⟩

theorem mem_first_occurrences {names : List String} {name : String} :
    name ∈ firstOccurrences names ↔ name ∈ names := by
  induction names with
  | nil => simp [firstOccurrences]
  | cons head tail ih =>
      by_cases same : name = head <;> simp [firstOccurrences, same, ih]

theorem first_occurrences_concat (names : List String) (name : String) :
    firstOccurrences (names ++ [name]) =
      if name ∈ names then firstOccurrences names else firstOccurrences names ++ [name] := by
  induction names with
  | nil => simp [firstOccurrences]
  | cons head tail ih =>
      rw [List.cons_append, firstOccurrences, ih, firstOccurrences]
      by_cases same : name = head
      · by_cases later : name ∈ tail <;> simp [same, same ▸ later]
      · by_cases later : name ∈ tail <;> simp [same, later]

theorem first_occurrences_ordered (names : List String) :
    (firstOccurrences names).Pairwise fun a b => names.idxOf a < names.idxOf b := by
  induction names with
  | nil => exact .nil
  | cons head tail ih =>
      have behind : ∀ name, name ≠ head → (head :: tail).idxOf name = tail.idxOf name + 1 := by
        intro name other
        rw [List.idxOf_cons, beq_false_of_ne other.symm, cond_false]
      refine List.pairwise_cons.mpr ⟨fun name member => ?_, ?_⟩
      · have other : name ≠ head := by simpa using (List.mem_filter.mp member).2
        rw [List.idxOf_cons_self, behind name other]
        omega
      · refine (List.Pairwise.filter _ ih).imp_of_mem fun {a b} first second less => ?_
        have apart : ∀ name ∈ (firstOccurrences tail).filter (· ≠ head), name ≠ head := by
          intro name member
          simpa using (List.mem_filter.mp member).2
        rw [behind a (apart a first), behind b (apart b second)]
        omega

-- A name numbered `id` keeps its value and starts with zero if it is new.
def renumber (table : Variables) (name : String) (id : Nat) : Slot :=
  match table.get? name with
  | some slot => { slot with id }
  | none => .fresh id

def carry (table : Variables) (names : List String) (distinct : names.Nodup) : Variables where
  entries := names.mapIdx fun id name => (name, table.renumber name id)
  distinct := by
    have same : (names.mapIdx fun id name => (name, table.renumber name id)).map Prod.fst =
        names := by
      apply List.ext_getElem <;> simp
    rw [same]
    exact distinct

-- Two traversals share what was met: the second goes on numbering where the first stopped.
theorem collect_eq (formula : Formula) (seen : List String) :
    collect formula (firstOccurrences seen).zipIdx =
      match formula.firstFault with
      | some message => .error message
      | none => .ok (firstOccurrences (seen ++ formula.identifiers)).zipIdx := by
  induction formula generalizing seen with
  | unary op inner ih => exact ih seen
  | binary left op right first second =>
      rw [collect, first, Formula.firstFault, Formula.identifiers]
      cases left.firstFault with
      | some message => rfl
      | none =>
          rw [Option.none_or, ← List.append_assoc, ← second]
          rfl
  | literal value => simp [collect, Formula.firstFault, Formula.identifiers]
  | symbol name =>
      simp only [collect, List.zipIdx_map_fst, mem_first_occurrences, List.length_zipIdx]
      by_cases identifier : name.kind = .identifier
      · by_cases met : name.text ∈ seen
        · simp [Formula.firstFault, Formula.identifiers, identifier, met, first_occurrences_concat]
        · simp [Formula.firstFault, Formula.identifiers, identifier, met, first_occurrences_concat, List.zipIdx_append]
      · simp [Formula.firstFault, Formula.identifiers, identifier]
  | invalid message => rfl

theorem collect_both (initial step : Formula) :
    (collect initial [] >>= collect step) =
      match initial.firstFault.or step.firstFault with
      | some message => .error message
      | none => .ok (firstOccurrences (initial.identifiers ++ step.identifiers)).zipIdx := by
  have first := collect_eq initial []
  rw [show (firstOccurrences []).zipIdx = [] from rfl] at first
  rw [first]
  cases initial.firstFault with
  | some message => rfl
  | none => exact collect_eq step initial.identifiers

end Variables

end EscapeTime
