set_option autoImplicit false

namespace EscapeTime

structure Dictionary where
  entries : List (String × String)
  ordered : entries.Pairwise fun a b => a.1 < b.1
deriving DecidableEq

namespace Dictionary

def empty : Dictionary := ⟨[], .nil⟩

def place (name text : String) : List (String × String) → List (String × String)
  | [] => [(name, text)]
  | entry :: tail =>
      if name < entry.1 then (name, text) :: entry :: tail
      else if name = entry.1 then (name, text) :: tail
      else entry :: place name text tail

theorem place_mem {name text : String} {entries : List (String × String)}
    {entry : String × String} (member : entry ∈ place name text entries) :
    entry.1 = name ∨ entry ∈ entries := by
  induction entries with
  | nil => simp_all [place]
  | cons head tail ih =>
      unfold place at member
      split at member
      · simp only [List.mem_cons] at member ⊢
        rcases member with rfl | member
        · exact .inl rfl
        · exact .inr member
      · split at member
        · simp only [List.mem_cons] at member ⊢
          rcases member with rfl | member
          · exact .inl rfl
          · exact .inr (.inr member)
        · simp only [List.mem_cons] at member ⊢
          rcases member with rfl | member
          · exact .inr (.inl rfl)
          · rcases ih member with same | member
            · exact .inl same
            · exact .inr (.inr member)

theorem place_ordered (name text : String) {entries : List (String × String)}
    (ordered : entries.Pairwise fun a b => a.1 < b.1) :
    (place name text entries).Pairwise fun a b => a.1 < b.1 := by
  induction entries with
  | nil => simp [place]
  | cons head tail ih =>
      obtain ⟨above, ordered⟩ := List.pairwise_cons.mp ordered
      unfold place
      split
      · rename_i before
        refine List.pairwise_cons.mpr ⟨?_, List.pairwise_cons.mpr ⟨above, ordered⟩⟩
        intro entry member
        rcases List.mem_cons.mp member with rfl | member
        · exact before
        · exact String.lt_trans before (above entry member)
      · split
        · rename_i same
          exact List.pairwise_cons.mpr ⟨fun entry member => same ▸ above entry member, ordered⟩
        · rename_i notBefore different
          refine List.pairwise_cons.mpr ⟨?_, ih ordered⟩
          intro entry member
          rcases place_mem member with same | member
          · have le := String.not_lt.mp notBefore
            rw [same]
            by_cases lt : head.1 < name
            · exact lt
            · exact absurd (String.le_antisymm (String.not_lt.mp lt) le) different
          · exact above entry member

def insert (dictionary : Dictionary) (name text : String) : Dictionary :=
  ⟨place name text dictionary.entries, place_ordered name text dictionary.ordered⟩

def ofList (entries : List (String × String)) : Dictionary :=
  entries.foldl (fun dictionary entry => dictionary.insert entry.1 entry.2) empty

def get? (dictionary : Dictionary) (name : String) : Option String :=
  dictionary.entries.lookup name

def standard : Dictionary :=
  ofList [("x", "x"), ("t", "t"), ("z", "z"), ("c", "c"), ("i", "vec2<f32>(0.0, 1.0)")]

end Dictionary

end EscapeTime
