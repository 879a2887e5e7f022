import EscapeTime.Error
import EscapeTime.Proofs.Values
import Mathlib.Data.List.Nodup

set_option autoImplicit false

namespace EscapeTime.Variables

theorem mem_entries_iff (table : Variables) {name : String} {slot : Slot} :
    (name, slot) ∈ table.entries ↔ table.get? name = some slot := by
  rw [get?, List.lookup_eq_some_iff]
  constructor
  · intro member
    obtain ⟨before, after, split⟩ := List.append_of_mem member
    refine ⟨before, after, split, fun entry earlier => ?_⟩
    have distinct := table.distinct
    rw [split, List.map_append, List.nodup_append] at distinct
    have other := distinct.2.2 entry.1 (List.mem_map_of_mem earlier) name (by simp)
    simpa using other.symm
  · rintro ⟨before, after, split, -⟩
    rw [split]
    exact List.mem_append_right _ (List.mem_cons_self ..)

theorem get?_eq_none_iff (table : Variables) {name : String} : table.get? name = none ↔ name ∉ table.names := by
  rw [← get?_is_some, Option.not_isSome_iff_eq_none]

theorem renumber_congr {table other : Variables} {name : String} (same : table.get? name = other.get? name)
    (id : Nat) : table.renumber name id = other.renumber name id := by
  rw [renumber, renumber, same]

section Passes

theorem get?_enter (table : Variables) (name : String) (id : Nat) (other : String) :
    (table.enter name id).get? other =
      if other = name then some (table.renumber name id) else table.get? other := by
  rw [enter]
  by_cases present : name ∈ table.names
  · obtain ⟨slot, found⟩ := Option.isSome_iff_exists.mp (get?_is_some.mpr present)
    rw [if_pos present, get?_update]
    by_cases same : other = name
    · simp [same, found, renumber]
    · simp [same]
  · have missing := table.get?_eq_none_iff.mpr present
    rw [if_neg present, insert, dif_neg present, get?, List.lookup_append]
    by_cases same : other = name
    · subst same
      rw [show table.entries.lookup other = none from missing]
      simp [renumber, missing]
    · simp [get?, same, List.lookup_cons, beq_false_of_ne same]

-- The names to be numbered are distinct, so that no later step reaches a name again.
theorem get?_entered (numbers : List (String × Nat)) (distinct : (numbers.map Prod.fst).Nodup)
    (table : Variables) (name : String) :
    (numbers.foldl (fun table entry => table.enter entry.1 entry.2) table).get? name =
      match numbers.lookup name with
      | some id => some (table.renumber name id)
      | none => table.get? name := by
  induction numbers generalizing table with
  | nil => rfl
  | cons entry tail ih =>
      obtain ⟨fresh, distinct⟩ := List.nodup_cons.mp distinct
      rw [List.foldl_cons, ih distinct, List.lookup_cons]
      by_cases same : name = entry.1
      · have absent : tail.lookup name = none := by
          rw [List.lookup_eq_none_iff]
          intro other later
          have apart : entry.1 ≠ other.1 := fun equal => fresh (equal ▸ List.mem_map_of_mem later)
          simpa [same] using apart
        rw [absent, same, beq_self_eq_true, get?_enter, if_pos rfl]
      · have kept : (table.enter entry.1 entry.2).get? name = table.get? name := by
          rw [get?_enter, if_neg same]
        rw [beq_false_of_ne same]
        cases tail.lookup name with
        | none => exact kept
        | some id => exact congrArg some (renumber_congr kept id)

theorem get?_retain (table : Variables) (names : List String) (name : String) :
    (table.retain names).get? name = if name ∈ names then table.get? name else none := by
  refine Option.ext fun slot => ?_
  rw [← mem_entries_iff, retain, List.mem_filter, mem_entries_iff, decide_eq_true_eq]
  by_cases kept : name ∈ names <;> simp [kept]

theorem get?_carry (table : Variables) {names : List String} (distinct : names.Nodup) (name : String) :
    (table.carry names distinct).get? name = (names.zipIdx.lookup name).map (table.renumber name) := by
  have mapped : ∀ numbers : List (String × Nat),
      (numbers.map fun entry => (entry.1, table.renumber entry.1 entry.2)).lookup name =
        (numbers.lookup name).map (table.renumber name) := by
    intro numbers
    induction numbers with
    | nil => rfl
    | cons entry tail ih =>
        rw [List.map_cons, List.lookup_cons, List.lookup_cons, ih]
        by_cases same : name = entry.1
        · simp [same]
        · rw [beq_false_of_ne same]
  simp only [get?, carry, List.mapIdx_eq_zipIdx_map]
  exact mapped names.zipIdx

end Passes

-- Tables that give each name the same slot differ at most in the order of their entries.
theorem perm_of_get? {table other : Variables} (same : ∀ name, table.get? name = other.get? name) :
    table.entries.Perm other.entries := by
  have nodup : ∀ table : Variables, table.entries.Nodup := fun table =>
    List.Pairwise.of_map Prod.fst (fun _ _ apart same => apart (congrArg Prod.fst same)) table.distinct
  refine (List.perm_ext_iff_of_nodup (nodup table) (nodup other)).mpr fun entry => ?_
  rw [mem_entries_iff, mem_entries_iff, same]

theorem place_sorted (entry : String × Slot) {entries : List (String × Slot)}
    (sorted : entries.Pairwise fun a b => a.2.id ≤ b.2.id) :
    (place entry entries).Pairwise fun a b => a.2.id ≤ b.2.id := by
  induction entries with
  | nil => exact List.pairwise_singleton ..
  | cons head tail ih =>
      obtain ⟨above, ordered⟩ := List.pairwise_cons.mp sorted
      rw [place]
      by_cases before : entry.2.id ≤ head.2.id
      · rw [if_pos before]
        refine List.pairwise_cons.mpr ⟨fun other member => ?_, sorted⟩
        rcases List.mem_cons.mp member with rfl | member
        · exact before
        · exact Nat.le_trans before (above other member)
      · rw [if_neg before]
        refine List.pairwise_cons.mpr ⟨fun other member => ?_, ih ordered⟩
        rcases List.mem_cons.mp ((place_perm entry tail).mem_iff.mp member) with rfl | member
        · exact Nat.le_of_not_le before
        · exact above other member

theorem sort_sorted (table : Variables) : table.sort.entries.Pairwise fun a b => a.2.id ≤ b.2.id := by
  simp only [sort]
  induction table.entries with
  | nil => exact .nil
  | cons entry tail ih => exact place_sorted entry ih

-- Where numbers increase, the sorted order is the only one.
theorem sort_eq {table other : Variables} (same : ∀ name, table.get? name = other.get? name)
    (increasing : other.entries.Pairwise fun a b => a.2.id < b.2.id) : table.sort = other := by
  have perm : table.sort.entries.Perm other.entries := (foldr_place_perm _).trans (perm_of_get? same)
  have numbers : (other.entries.map fun entry => entry.2.id).Nodup :=
    List.pairwise_map.mpr (increasing.imp Nat.ne_of_lt)
  refine Variables.ext (perm.eq_of_pairwise ?_ table.sort_sorted (increasing.imp Nat.le_of_lt))
  intro a b first second le ge
  exact List.inj_on_of_nodup_map numbers (perm.mem_iff.mp first) second (Nat.le_antisymm le ge)

theorem increasing_carry (table : Variables) {names : List String} (distinct : names.Nodup) :
    (table.carry names distinct).entries.Pairwise fun a b => a.2.id < b.2.id := by
  have numbers : names.zipIdx.Pairwise fun a b => a.2 < b.2 := by
    simp [List.pairwise_iff_getElem]
  rw [← layout_carry table distinct, layout, List.pairwise_map] at numbers
  exact numbers

theorem passes_eq (table : Variables) {names : List String} (distinct : names.Nodup) :
    let entered := names.zipIdx.foldl (fun table entry => table.enter entry.1 entry.2) table
    (entered.retain (names.zipIdx.map Prod.fst)).sort = table.carry names distinct := by
  intro entered
  refine sort_eq (fun name => ?_) (table.increasing_carry distinct)
  have numbered : (names.zipIdx.lookup name).isSome ↔ name ∈ names := by
    rw [← layout_carry table distinct, lookup_layout, Option.isSome_map, get?_is_some, names_carry]
  rw [get?_retain, get?_entered _ (by simpa using distinct), get?_carry, List.zipIdx_map_fst]
  cases found : names.zipIdx.lookup name with
  | some id =>
      rw [found] at numbered
      exact if_pos (numbered.mp rfl)
  | none =>
      rw [found] at numbered
      exact if_neg fun member => nomatch numbered.mpr member

theorem reconcile_eq (table : Variables) (initial step : Formula) :
    table.reconcile initial step =
      match initial.firstFault.or step.firstFault with
      | some message => ⟨table, some message⟩
      | none =>
          let names := firstOccurrences (initial.identifiers ++ step.identifiers)
          ⟨table.carry names (first_occurrences_nodup _), none⟩ := by
  rw [reconcile, collect_both]
  cases initial.firstFault.or step.firstFault with
  | some message => rfl
  | none => exact congrArg (Reconciled.mk · none) (table.passes_eq (first_occurrences_nodup _))

theorem entry_carry (table : Variables) {names : List String} (distinct : names.Nodup) {k : Nat} {name : String}
    {slot : Slot} (entry : (table.carry names distinct).entries[k]? = some (name, slot)) :
    slot.id = k ∧ slot.value = (table.value? name).getD (0, 0) := by
  rw [carry, List.getElem?_mapIdx, Option.map_eq_some_iff] at entry
  obtain ⟨_, -, same⟩ := entry
  obtain ⟨rfl, rfl⟩ := Prod.mk.inj same
  exact ⟨table.renumber_id _ k, table.renumber_value _ k⟩

-- The number of a name is its place among the names, and its value is in the table that was carried over.
theorem renumber_carry (table : Variables) {names : List String} (distinct : names.Nodup) {name : String}
    (member : name ∈ names) (id : Nat) :
    (table.carry names distinct).renumber name id = table.renumber name id := by
  have values : ((table.carry names distinct).renumber name id).value = (table.renumber name id).value := by
    rw [renumber_value, renumber_value, value?_carry, if_pos member, Option.getD_some]
  obtain ⟨real, imag⟩ := Prod.mk.inj values
  have ids : ((table.carry names distinct).renumber name id).id = (table.renumber name id).id := by
    rw [renumber_id, renumber_id]
  calc (table.carry names distinct).renumber name id
    _ = ⟨(table.renumber name id).id, (table.renumber name id).real, (table.renumber name id).imag⟩ := by
        rw [← ids, ← real, ← imag]
    _ = table.renumber name id := rfl

theorem carry_carry (table : Variables) {names : List String} (distinct : names.Nodup) :
    (table.carry names distinct).carry names distinct = table.carry names distinct := by
  refine Variables.ext (List.ext_getElem? fun k => ?_)
  rw [carry, List.getElem?_mapIdx]
  simp only [carry, List.getElem?_mapIdx]
  cases found : names[k]? with
  | none => rfl
  | some name =>
      have member := List.mem_of_getElem? found
      exact congrArg (fun slot => some (name, slot)) (table.renumber_carry distinct member k)

theorem reconcile_twice (table : Variables) (initial step : Formula) :
    (table.reconcile initial step).table.reconcile initial step = table.reconcile initial step := by
  rw [reconcile_eq, reconcile_eq]
  cases initial.firstFault.or step.firstFault with
  | some message => rfl
  | none => exact congrArg (Reconciled.mk · none) (table.carry_carry (first_occurrences_nodup _))

theorem allocate_eq (table : Variables) (initial step : Formula) :
    table.allocate initial step =
      match initial.firstFault.or step.firstFault with
      | some message => .error (.parse message "variable allocation")
      | none =>
          let names := firstOccurrences (initial.identifiers ++ step.identifiers)
          .ok (table.carry names (first_occurrences_nodup _)) := by
  rw [allocate, reconcile_eq]
  cases initial.firstFault.or step.firstFault <;> rfl

-- From any table: the names are the identifiers of the formulas by first occurrence, each numbered by its
-- place and with the value it had. A formula that was not read entirely leaves the table as it was.
theorem reconcile_from_any_table (table : Variables) (initial step : Formula) :
    let texts := initial.identifiers ++ step.identifiers
    let outcome := table.reconcile initial step
    (initial.isValid = true ∧ step.isValid = true →
      outcome.fault = none ∧ table.allocate initial step = .ok outcome.table ∧
      (∀ name, name ∈ outcome.table.names ↔ name ∈ texts) ∧
      outcome.table.names.Pairwise (fun a b => texts.idxOf a < texts.idxOf b) ∧
      ∀ (k : Nat) (name : String) (slot : Slot), outcome.table.entries[k]? = some (name, slot) →
        slot.id = k ∧ slot.value = (table.value? name).getD (0, 0)) ∧
    (¬ (initial.isValid = true ∧ step.isValid = true) →
      ∃ message, initial.firstFault.or step.firstFault = some message ∧
        outcome = ⟨table, some message⟩ ∧
        table.allocate initial step = .error (.parse message "variable allocation")) ∧
    outcome.table.reconcile initial step = outcome := by
  intro texts outcome
  refine ⟨fun valid => ?_, fun invalid => ?_, table.reconcile_twice initial step⟩
  · have fine : initial.firstFault.or step.firstFault = none := by
      simpa only [Option.or_eq_none_iff, Formula.first_fault_eq_none] using valid
    have made : outcome = ⟨table.carry (firstOccurrences texts) (first_occurrences_nodup _), none⟩ := by
      rw [show outcome = table.reconcile initial step from rfl, reconcile_eq, fine]
    have allocated : table.allocate initial step = .ok outcome.table := by
      rw [allocate_eq, fine, made]
    rw [made] at allocated ⊢
    refine ⟨rfl, allocated, fun name => ?_, ?_, fun k name slot entry => ?_⟩
    · rw [names_carry, mem_first_occurrences]
    · rw [names_carry]
      exact first_occurrences_ordered texts
    · exact table.entry_carry (first_occurrences_nodup texts) entry
  · have faulty : initial.firstFault.or step.firstFault ≠ none := by
      simpa only [ne_eq, Option.or_eq_none_iff, Formula.first_fault_eq_none] using invalid
    obtain ⟨message, found⟩ := Option.ne_none_iff_exists'.mp faulty
    refine ⟨message, found, ?_, ?_⟩
    · rw [show outcome = table.reconcile initial step from rfl, reconcile_eq, found]
    · rw [allocate_eq, found]

end EscapeTime.Variables
