import Mathlib.Data.List.Basic
import ShapeTables.Files

/-! Changes of files. Making directories leaves every file alone, also where it stops at a fault halfway. A file that is
written is found at its path with what was written, and no other file is changed; where writing stops at a fault, no
file is. -/
namespace ShapeTables.Files

variable {files after : Files} {place other here : List String} {octets old : ByteArray} {e : Entry}

/-! ### Entries -/

theorem lookup_put (files : Files) (place other : List String) (e : Entry) :
    (files.put place e).lookup other = if other = place then some e else files.lookup other := by
  induction files with
  | nil =>
    by_cases h : other = place
    · simp [put, h]
    · have hkey : (other == place) = false := by simpa using h
      simp [put, h, List.lookup_cons, hkey]
  | cons head rest ih =>
    obtain ⟨p, first⟩ := head
    by_cases hp : p = place
    · subst hp
      by_cases h : other = p
      · simp [put, h]
      · have hkey : (other == p) = false := by simpa using h
        simp [put, h, List.lookup_cons, hkey]
    · by_cases h : other = p
      · subst h
        simp [put, hp]
      · have hkey : (other == p) = false := by simpa using h
        simp only [put, if_neg hp, List.lookup_cons, hkey, ih]

theorem any_put {p : List String × Entry → Bool} (hp : ∀ q d d', p (q, d) = p (q, d')) (h : files.any p) :
    (files.put place e).any p := by
  induction files with
  | nil => cases h
  | cons head rest ih =>
    obtain ⟨q, d⟩ := head
    rw [List.any_cons, Bool.or_eq_true] at h
    by_cases hq : q = place
    · simp only [put, if_pos hq, List.any_cons, Bool.or_eq_true]
      exact h.imp_left fun hhead => hp q d e ▸ hhead
    · simp only [put, if_neg hq, List.any_cons, Bool.or_eq_true]
      exact h.imp_right ih

theorem lookup_of_entry?_eq_file (h : files.entry? place = some (.file octets)) :
    files.lookup place = some (.file octets) := by
  unfold entry? at h
  split at h
  · next hlookup => rw [hlookup, h]
  · split at h <;> cases h

theorem lookup_of_entry?_eq_none (h : files.entry? place = none) : files.lookup place = none := by
  unfold entry? at h
  split at h
  · cases h
  · assumption

theorem entry?_put_self : entry? (files.put place e) place = some e := by
  unfold entry?
  rw [lookup_put, if_pos rfl]

/-- A directory stays one when an entry is put elsewhere. -/
theorem entry?_put_directory (h : files.entry? other = some .directory) (hne : other ≠ place) :
    entry? (files.put place e) other = some .directory := by
  unfold entry? at h ⊢
  rw [lookup_put, if_neg hne]
  split at h
  · exact h
  · split_ifs at h with hdirectory
    exact if_pos (hdirectory.imp_right (any_put fun _ _ _ => rfl))

/-! ### Places -/

/-- Where a path is found to lead to a file there is one, and where to a vacant place there is nothing. -/
theorem entry?_of_walk (files : Files) (here names : List String) :
    (∀ place octets, files.walk here names = .file place octets → files.entry? place = some (.file octets)) ∧
      ∀ place, files.walk here names = .vacant place → files.entry? place = none := by
  induction names generalizing here with
  | nil => simp [walk]
  | cons name rest ih =>
    rw [walk]
    by_cases hup : name = ".."
    · rw [if_pos hup]
      exact ih (up here)
    · rw [if_neg hup]
      by_cases hlong : maxName < name.utf8ByteSize
      · simp [hlong]
      · rw [if_neg hlong]
        cases hentry : files.entry? (here ++ [name]) with
        | none => by_cases hrest : rest.isEmpty <;> simp [hrest, hentry]
        | some e =>
          cases e with
          | directory => exact ih (here ++ [name])
          | file octets => by_cases hrest : rest.isEmpty <;> simp [hrest, hentry]

/-- After a file is put at the place that a path leads to, the path leads to the file: the directories on the way
there are the same. -/
theorem walk_put {names : List String}
    (h : (∃ old, files.walk here names = .file place old) ∨ files.walk here names = .vacant place) :
    (files.put place (.file octets)).walk here names = .file place octets := by
  have hplace : files.entry? place ≠ some .directory := by
    rcases h with ⟨old, h⟩ | h
    · simp [(entry?_of_walk files here names).1 place old h]
    · simp [(entry?_of_walk files here names).2 place h]
  induction names generalizing here with
  | nil => simp [walk] at h
  | cons name rest ih =>
    rw [walk] at h ⊢
    by_cases hup : name = ".."
    · rw [if_pos hup] at h ⊢
      exact ih h
    · rw [if_neg hup] at h ⊢
      by_cases hlong : maxName < name.utf8ByteSize
      · simp [hlong] at h
      · rw [if_neg hlong] at h ⊢
        by_cases hhere : here ++ [name] = place
        · have hrest : rest.isEmpty := by
            by_contra hrest
            cases hentry : files.entry? (here ++ [name]) with
            | none => simp [hentry, hrest] at h
            | some e =>
              cases e with
              | directory => exact hplace (hhere ▸ hentry)
              | file old => simp [hentry, hrest] at h
          simp [hhere, entry?_put_self, hrest]
        · cases hentry : files.entry? (here ++ [name]) with
          | none =>
            rw [hentry] at h
            simp only at h
            split at h <;> simp [hhere] at h
          | some e =>
            rw [hentry] at h
            cases e with
            | directory =>
              rw [entry?_put_directory hentry hhere]
              exact ih h
            | file old =>
              simp only at h
              split at h <;> simp [hhere] at h

theorem find_put {path : Path}
    (h : (∃ old, files.find path = .file place old) ∨ files.find path = .vacant place) :
    (files.put place (.file octets)).find path = .file place octets := by
  unfold find at h ⊢
  by_cases hnull : path.text.toList.contains '\x00'
  · simp only [if_pos hnull, reduceCtorEq, exists_false, or_self] at h
  · rw [if_neg hnull] at h ⊢
    by_cases hlong : maxPath < path.text.utf8ByteSize
    · simp [hlong] at h
    · rw [if_neg hlong] at h ⊢
      exact walk_put h

theorem lookup_of_find_eq_vacant {path : Path} (h : files.find path = .vacant place) : files.lookup place = none := by
  unfold find at h
  split_ifs at h
  all_goals exact lookup_of_entry?_eq_none ((entry?_of_walk files _ _).2 place h)

/-! ### Changes -/

/-- The entry at a place is the same, or there is a new directory. -/
def KeptAt (files after : Files) (place : List String) : Prop :=
  after.lookup place = files.lookup place ∨ files.lookup place = none ∧ after.lookup place = some .directory

/-- No file is created, changed or taken away; there may be new directories. -/
def Kept (files after : Files) : Prop := ∀ place, KeptAt files after place

theorem Kept.refl (files : Files) : Kept files files := fun _ => .inl rfl

theorem KeptAt.trans {made : Files} (h : KeptAt files made place) (h' : KeptAt made after place) :
    KeptAt files after place := by
  rcases h with h | ⟨hnone, hmade⟩
  · rcases h' with h' | ⟨hnone, hafter⟩
    · exact .inl (h'.trans h)
    · exact .inr ⟨h ▸ hnone, hafter⟩
  · rcases h' with h' | ⟨hnone', -⟩
    · exact .inr ⟨hnone, h'.trans hmade⟩
    · rw [hmade] at hnone'
      cases hnone'

theorem Kept.trans {made : Files} (h : Kept files made) (h' : Kept made after) : Kept files after :=
  fun place => (h place).trans (h' place)

theorem makeDirectory_kept (files : Files) (path : Path) : Kept files (files.makeDirectory path).files := by
  unfold makeDirectory
  split
  · exact Kept.refl files
  · exact Kept.refl files
  · next place hvacant =>
    intro other
    by_cases hother : other = place
    · subst hother
      exact .inr ⟨lookup_of_find_eq_vacant hvacant, by simp [lookup_put]⟩
    · exact .inl (by simp [lookup_put, hother])
  · exact Kept.refl files

/-- Directories are made from the outermost one on, and those made before a fault stay. -/
theorem makeDirectories_kept (files : Files) (root : String) (names : List String) :
    Kept files (files.makeDirectories root names).files := by
  induction names with
  | nil => exact Kept.refl files
  | cons name above ih =>
    simp only [makeDirectories]
    split_ifs
    · exact ih.trans (makeDirectory_kept _ _)
    · exact ih
    · exact makeDirectory_kept files _

/-- The files after the directories around a path are made, as far as they can be. -/
def withParent (files : Files) (path : Path) : Files :=
  (files.makeDirectories path.root path.parts.dropLast.reverse).files

/-- Once the directories around it are there, the place that a path leads to says what writing does. -/
theorem write_of_made {path : Path}
    (hmade : (files.makeDirectories path.root path.parts.dropLast.reverse).fault.isNone) :
    files.write path octets = match (files.withParent path).find path with
      | .file place _ | .vacant place => { files := (files.withParent path).put place (.file octets) }
      | .directory => { files := files.withParent path, fault := some .isDirectory }
      | .unreachable fault => { files := files.withParent path, fault := some fault } := by
  unfold write
  rw [if_pos hmade]
  rfl

/-- A file is written at the place where its path leads to once the directories around it are there, or nothing more
than these is made. -/
theorem write_cases (files : Files) (path : Path) (octets : ByteArray) :
    (∃ place, ((∃ old, (files.withParent path).find path = .file place old) ∨
        (files.withParent path).find path = .vacant place) ∧
      files.write path octets = { files := (files.withParent path).put place (.file octets) }) ∨
    ∃ fault, files.write path octets = { files := files.withParent path, fault := some fault } := by
  by_cases hmade : (files.makeDirectories path.root path.parts.dropLast.reverse).fault.isNone
  · rw [write_of_made hmade]
    cases hfound : (files.withParent path).find path with
    | file place old => exact .inl ⟨place, .inl ⟨old, rfl⟩, rfl⟩
    | vacant place => exact .inl ⟨place, .inr rfl, rfl⟩
    | directory => exact .inr ⟨.isDirectory, rfl⟩
    | unreachable fault => exact .inr ⟨fault, rfl⟩
  · have hne : (files.makeDirectories path.root path.parts.dropLast.reverse).fault ≠ none := by simpa using hmade
    obtain ⟨fault, hfault⟩ := Option.ne_none_iff_exists'.mp hne
    refine .inr ⟨fault, ?_⟩
    unfold write
    rw [if_neg hmade, withParent, ← hfault]

theorem withParent_kept (files : Files) (path : Path) : Kept files (files.withParent path) :=
  makeDirectories_kept files path.root path.parts.dropLast.reverse

/-- A file that is written is where its path leads to, with what was written, and all other files are kept. -/
theorem find_write {path : Path} (h : (files.write path octets).fault = none) :
    ∃ place, (files.write path octets).files.find path = .file place octets ∧
      ∀ other ≠ place, KeptAt files (files.write path octets).files other := by
  rcases files.write_cases path octets with ⟨place, hfound, hwrite⟩ | ⟨fault, hwrite⟩
  · rw [hwrite]
    refine ⟨place, find_put hfound, fun other hother => ?_⟩
    exact (withParent_kept files path other).trans (.inl (by simp [lookup_put, hother]))
  · rw [hwrite] at h
    cases h

/-- No file is created or changed where writing stops at a fault. -/
theorem write_kept {path : Path} (h : (files.write path octets).fault ≠ none) :
    Kept files (files.write path octets).files := by
  rcases files.write_cases path octets with ⟨place, -, hwrite⟩ | ⟨fault, hwrite⟩
  · rw [hwrite] at h
    exact absurd rfl h
  · rw [hwrite]
    exact withParent_kept files path

/-- A directory that is made on the way to what turns out to be a directory stays. -/
example : (write [] (.ofText "new/..") .empty).files.map Prod.fst = [["new"]] ∧
    (write [] (.ofText "new/..") .empty).fault = some .isDirectory := by decide

end ShapeTables.Files
