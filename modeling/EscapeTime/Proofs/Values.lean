import EscapeTime.Proofs.Layout

set_option autoImplicit false

namespace EscapeTime

def Slot.value (slot : Slot) : Float32 × Float32 :=
  (slot.real, slot.imag)

namespace Variables

def value? (table : Variables) (name : String) : Option (Float32 × Float32) :=
  (table.get? name).map Slot.value

theorem renumber_value (table : Variables) (name : String) (id : Nat) :
    (table.renumber name id).value = (table.value? name).getD (0, 0) := by
  unfold renumber value?
  cases table.get? name <;> rfl

-- The number of a slot moves with its place in the list, the value does not.
theorem lookup_numbered {name : String} {value : Float32 × Float32} (names : List String)
    (slot : Nat → String → Slot) (steady : ∀ id, (slot id name).value = value) :
    ((names.mapIdx fun id name => (name, slot id name)).lookup name).map Slot.value =
      if name ∈ names then some value else none := by
  induction names generalizing slot with
  | nil => rfl
  | cons head tail ih =>
      rw [List.mapIdx_cons, List.lookup_cons]
      by_cases same : name = head
      · subst same
        simp [steady]
      · rw [beq_false_of_ne same]
        simpa [same] using ih (fun id => slot (id + 1)) (fun id => steady (id + 1))

theorem value?_carry (table : Variables) {names : List String} (distinct : names.Nodup) (name : String) :
    (table.carry names distinct).value? name =
      if name ∈ names then some ((table.value? name).getD (0, 0)) else none :=
  lookup_numbered names (fun id name => table.renumber name id) (table.renumber_value name)

theorem get?_update (table : Variables) (name other : String) (change : Slot → Slot) :
    (table.update name change).get? other =
      if other = name then (table.get? other).map change else table.get? other := by
  have changed : ∀ entries : List (String × Slot),
      (entries.map fun entry => if entry.1 = name then (entry.1, change entry.2) else entry).lookup other =
        if other = name then (entries.lookup other).map change else entries.lookup other := by
    intro entries
    induction entries with
    | nil => simp
    | cons entry tail ih =>
        rw [List.map_cons, List.lookup_cons, List.lookup_cons, ih]
        by_cases hit : other = entry.1
        · subst hit
          by_cases same : entry.1 = name <;> simp [same]
        · have kept : (if entry.1 = name then (entry.1, change entry.2) else entry).1 = entry.1 := by
            split <;> rfl
          simp only [kept, beq_false_of_ne hit]
  exact changed table.entries

theorem value?_set {table changed : Variables} {name : String} {real imag : Float32}
    (done : table.set? name real imag = some changed) (other : String) :
    changed.value? other = if other = name then some (real, imag) else table.value? other := by
  unfold set? at done
  split at done
  · rename_i present
    obtain rfl := Option.some.inj done
    rw [value?, get?_update, value?]
    by_cases same : other = name
    · subst same
      obtain ⟨slot, found⟩ := Option.isSome_iff_exists.mp (get?_is_some.mpr present)
      simp [found, Slot.value]
    · simp [same]
  · cases done

end Variables

end EscapeTime
