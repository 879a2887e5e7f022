import EscapeTime.CommandLine.Files

set_option autoImplicit false

namespace EscapeTime

def Target.place? : Target → Option Location
  | .file location _ | .vacant location => some location
  | .directory | .noDirectory _ => none

namespace Files

def place? (files : Files) (path : String) : Option Location :=
  match files.target path with
  | .ok target => target.place?
  | .error _ => none

structure Replaced (files : Files) (location : Location) (bytes : ByteArray) (after : Files) : Prop where
  written : after.get? location = some bytes
  others : ∀ other, other ≠ location → after.get? other = files.get? other
  home : after.home = files.home

theorem replaced_put (files : Files) (location : Location) (bytes : ByteArray) :
    files.Replaced location bytes (files.put location bytes) where
  written := files.get?_put_self location bytes
  others := fun _ different => files.get?_put_other bytes different
  home := rfl

theorem follow_place {files : Files} {directory : Location} {names : List String} {target : Target}
    {location : Location} (leads : files.follow directory names = .ok target)
    (place : target.place? = some location) :
    (∃ bytes, target = .file location bytes ∧ files.get? location = some bytes) ∨
      target = .vacant location ∧ files.get? location = none ∧ files.isDirectory location = false := by
  fun_induction files.follow directory names with
  | case1 | case6 | case10 =>
      obtain rfl := Except.ok.inj leads
      cases place
  | case4 | case7 | case11 => cases leads
  | case2 directory name rest stays ih | case3 directory rest plain ih => exact ih leads
  | case8 directory name rest plain onward short here absent present ih => exact ih leads
  | case5 directory name plain onward short here bytes found =>
      obtain rfl := Except.ok.inj leads
      obtain rfl := Option.some.inj place
      exact .inl ⟨bytes, rfl, found⟩
  | case9 directory name plain onward short here absent missing =>
      obtain rfl := Except.ok.inj leads
      obtain rfl := Option.some.inj place
      exact .inr ⟨rfl, absent, Bool.eq_false_iff.mpr missing⟩

theorem is_directory_put {files : Files} {directory : Location} (present : files.isDirectory directory = true)
    (location : Location) (bytes : ByteArray) : (files.put location bytes).isDirectory directory = true := by
  simp only [isDirectory, put, Bool.or_eq_true, List.any_eq_true] at present ⊢
  refine present.imp_right ?_
  rintro ⟨entry, member, within⟩
  by_cases same : entry.1 = location
  · exact ⟨(location, bytes), List.mem_cons_self .., same ▸ within⟩
  · exact ⟨entry, List.mem_cons_of_mem _ (List.mem_filter.mpr ⟨member, by simpa using same⟩), within⟩

-- The directories on the way are there afterwards too, and none of them is the place itself.
theorem follow_put {files : Files} {directory : Location} {names : List String} {target : Target}
    {location : Location} (leads : files.follow directory names = .ok target)
    (place : target.place? = some location) (bytes : ByteArray) :
    (files.put location bytes).follow directory names = .ok (.file location bytes) := by
  have elsewhere : ∀ other, files.get? other = none → files.isDirectory other = true → other ≠ location := by
    rintro other absent present rfl
    rcases follow_place leads place with ⟨bytes, -, found⟩ | ⟨-, -, missing⟩
    · cases absent.symm.trans found
    · cases present.symm.trans missing
  fun_induction files.follow directory names with
  | case1 | case6 | case10 =>
      obtain rfl := Except.ok.inj leads
      cases place
  | case4 | case7 | case11 => cases leads
  | case2 directory name rest stays ih =>
      rw [follow, if_pos stays]
      exact ih leads
  | case3 directory rest plain ih =>
      rw [follow, if_neg plain, if_pos rfl]
      exact ih leads
  | case8 directory name rest plain onward short here absent present ih =>
      have absentStill : (files.put location bytes).get? (directory ++ [name]) = none :=
        (get?_put_other files bytes (elsewhere here absent present)).trans absent
      have presentStill : (files.put location bytes).isDirectory (directory ++ [name]) = true :=
        is_directory_put present location bytes
      simp only [follow, if_neg plain, if_neg onward, if_neg short, absentStill, if_pos presentStill]
      exact ih leads
  | case5 directory name plain onward short here old found
  | case9 directory name plain onward short here absent missing =>
      obtain rfl := Except.ok.inj leads
      obtain rfl := Option.some.inj place
      have written : (files.put here bytes).get? (directory ++ [name]) = some bytes := get?_put_self ..
      simp only [follow, if_neg plain, if_neg onward, if_neg short, written]
      rfl

theorem place_leads {files : Files} {path : String} {location : Location} (place : files.place? path = some location) :
    ∃ target, files.target path = .ok target ∧ target.place? = some location := by
  rw [place?] at place
  cases leads : files.target path with
  | ok target =>
      rw [leads] at place
      exact ⟨target, rfl, place⟩
  | error fault =>
      rw [leads] at place
      cases place

theorem target_eq {files : Files} {path : String} {target : Target} (leads : files.target path = .ok target) :
    ¬ longestPath < path.utf8ByteSize ∧
      files.follow (if path.toList.head? = some '/' then [] else files.home) (names path) = .ok target := by
  rw [Files.target] at leads
  split at leads
  · cases leads
  · exact ⟨‹_›, leads⟩

theorem target_put {files : Files} {path : String} {location : Location} (place : files.place? path = some location)
    (bytes : ByteArray) : (files.put location bytes).target path = .ok (.file location bytes) := by
  obtain ⟨target, leads, place⟩ := place_leads place
  obtain ⟨short, follows⟩ := target_eq leads
  rw [Files.target, if_neg short]
  exact follow_put follows place bytes

theorem read_text_put {files : Files} {path : String} {location : Location}
    (place : files.place? path = some location) (text : String) :
    (files.put location text.toUTF8).readText path = .ok text := by
  rw [readText, read, target_put place]
  exact FileFault.decode_utf8 text

theorem place_vacant {files : Files} {path : String} {location : Location} (place : files.place? path = some location)
    (absent : files.has path = false) : files.get? location = none := by
  obtain ⟨target, leads, place⟩ := place_leads place
  rcases follow_place (target_eq leads).2 place with ⟨bytes, rfl, -⟩ | ⟨-, vacant, -⟩
  · rw [has, leads] at absent
    cases absent
  · exact vacant

theorem write_outcome (files : Files) (path text : String) :
    (∃ location, files.place? path = some location ∧ files.write path text = .ok (files.put location text.toUTF8)) ∨
      (files.place? path).isSome = false ∧ ∃ fault, files.write path text = .error fault := by
  rw [write, place?]
  cases files.target path with
  | error fault => exact .inr ⟨rfl, fault, rfl⟩
  | ok target =>
      cases target with
      | file location _ | vacant location => exact .inl ⟨location, rfl, rfl⟩
      | directory | noDirectory _ => exact .inr ⟨rfl, _, rfl⟩

end Files

end EscapeTime
