import Gleaner.Files.Tree

set_option autoImplicit false

/-! # What writing a file changes

Putting a file gives it its content and leaves every other file and all directories alone
(`FileTree.content?_put_self`, `FileTree.content?_put_of_ne`), and of two contents that are put into
one file the later one stays (`FileTree.put_put`). A path that led to the file leads there still, so
the file is found again under the path that it was written to (`FileTree.target_put`,
`FileTree.read_of_target`). -/

namespace Gleaner.FileTree

/-! ## Looking files up -/

theorem lookup_cons_eq_ite (file names : List String) (content : Bytes)
    (rest : List (List String × Bytes)) :
    ((file, content) :: rest).lookup names
      = if names = file then some content else rest.lookup names := by
  by_cases h : names = file
  · subst h
    simp
  · have hne : (names == file) = false := beq_false_of_ne h
    simp [List.lookup_cons, hne, h]

/-- Replacing the content under one name is seen under this name only. -/
theorem lookup_map_replace (files : List (List String × Bytes)) (names other : List String)
    (content : Bytes) :
    (files.map fun (file, old) => (file, if file = names then content else old)).lookup other
      = if other = names then (files.lookup names).map fun _ => content
        else files.lookup other := by
  induction files with
  | nil => by_cases h : other = names <;> simp [h]
  | cons head rest ih =>
    obtain ⟨file, old⟩ := head
    simp only [List.map_cons, lookup_cons_eq_ite, ih]
    by_cases hfile : other = file
    · subst hfile
      by_cases h : other = names
      · simp [h]
      · simp [h]
    · by_cases h : other = names
      · subst h
        simp [hfile]
      · simp [hfile, h]

theorem content?_eq_none_iff {t : FileTree} {names : List String} :
    t.content? names = none ↔ ∀ entry ∈ t.files, entry.1 ≠ names := by
  rw [content?, List.lookup_eq_none_iff]
  simp only [bne_iff_ne, ne_comm]

/-! ## Putting a file -/

variable (t : FileTree) (names : List String)

theorem content?_put (content : Bytes) (other : List String) :
    (t.put names content).content? other
      = if other = names then some content else t.content? other := by
  unfold put
  split
  · next hsome =>
    obtain ⟨old, hold⟩ := Option.isSome_iff_exists.mp hsome
    rw [content?] at hold
    simp only [content?, lookup_map_replace, hold, Option.map_some]
  · next hnone =>
    have habsent : t.files.lookup names = none := Option.not_isSome_iff_eq_none.mp hnone
    simp only [content?, List.lookup_append, lookup_cons_eq_ite, List.lookup_nil]
    by_cases h : other = names
    · simp [h, habsent]
    · simp [h]

@[simp] theorem content?_put_self (content : Bytes) :
    (t.put names content).content? names = some content := by
  rw [content?_put, if_pos rfl]

theorem content?_put_of_ne (content : Bytes) {other : List String} (h : other ≠ names) :
    (t.put names content).content? other = t.content? other := by
  rw [content?_put, if_neg h]

@[simp] theorem directories_put (content : Bytes) :
    (t.put names content).directories = t.directories := by
  unfold put
  split <;> rfl

/-- The content that is put last stays. -/
@[simp] theorem put_put (first last : Bytes) :
    (t.put names first).put names last = t.put names last := by
  have hsome : ((t.put names first).content? names).isSome = true := by simp
  rw [put, if_pos hsome]
  unfold put
  split
  · simp only [List.map_map, FileTree.mk.injEq, and_true]
    apply List.map_congr_left
    intro entry _
    by_cases h : entry.1 = names <;> simp [h]
  · next hnone =>
    have habsent := content?_eq_none_iff.mp (Option.not_isSome_iff_eq_none.mp hnone)
    have hkeep : (t.files.map fun (file, old) => (file, if file = names then last else old))
        = t.files.map id := by
      apply List.map_congr_left
      intro entry hentry
      simp [habsent entry hentry]
    simp only [List.map_append, hkeep, List.map_id, List.map_cons, List.map_nil, if_true]

/-- Appending to a file that was put puts both parts. -/
theorem append_put (first more : Bytes) :
    (t.put names first).append names more = t.put names (first ++ more) := by
  rw [append, content?_put_self, Option.getD_some, put_put]

/-! ## Paths to the file -/

theorem mem_files_put (content : Bytes) {entry : List String × Bytes} (h : entry ∈ t.files) :
    ∃ content', (entry.1, content') ∈ (t.put names content).files := by
  unfold put
  split
  · exact ⟨_, List.mem_map.mpr ⟨entry, h, rfl⟩⟩
  · exact ⟨entry.2, List.mem_append_left _ h⟩

/-- Every file of the tree with the file was in the tree, or is this file. -/
theorem mem_of_mem_files_put {content : Bytes} {entry : List String × Bytes}
    (h : entry ∈ (t.put names content).files) :
    entry.1 = names ∨ ∃ content', (entry.1, content') ∈ t.files := by
  unfold put at h
  split at h
  · obtain ⟨old, hold, rfl⟩ := List.mem_map.mp h
    exact Or.inr ⟨old.2, hold⟩
  · rcases List.mem_append.mp h with h | h
    · exact Or.inr ⟨entry.2, h⟩
    · exact Or.inl (by rw [List.mem_singleton.mp h])

theorem isDirectory_iff {directory : List String} :
    t.isDirectory directory = true ↔ directory = []
      ∨ (∃ listed ∈ t.directories, directory.isPrefixOf listed = true)
      ∨ ∃ entry ∈ t.files, directory.isPrefixOf entry.1 = true
        ∧ directory.length < entry.1.length := by
  simp only [isDirectory, Bool.or_eq_true, List.isEmpty_iff, List.any_eq_true, Bool.and_eq_true,
    decide_eq_true_eq, or_assoc]

/-- Putting a file removes no directory. -/
theorem isDirectory_put {directory : List String} (h : t.isDirectory directory = true)
    (content : Bytes) : (t.put names content).isDirectory directory = true := by
  rw [isDirectory_iff] at h ⊢
  rcases h with h | h | ⟨entry, hentry, hbelow⟩
  · exact Or.inl h
  · exact Or.inr (Or.inl (by rwa [directories_put]))
  · obtain ⟨content', hmem⟩ := t.mem_files_put names content hentry
    exact Or.inr (Or.inr ⟨_, hmem, hbelow⟩)

/-- Putting a file does not make a directory of it. -/
theorem isDirectory_put_self (content : Bytes) :
    (t.put names content).isDirectory names = t.isDirectory names := by
  rw [Bool.eq_iff_iff]
  refine ⟨fun h => ?_, fun h => t.isDirectory_put names h content⟩
  rw [isDirectory_iff] at h ⊢
  rcases h with h | h | ⟨entry, hentry, hbelow⟩
  · exact Or.inl h
  · exact Or.inr (Or.inl (by rwa [directories_put] at h))
  · rcases t.mem_of_mem_files_put names hentry with heq | ⟨content', hmem⟩
    · rw [heq] at hbelow
      exact absurd hbelow.2 (Nat.lt_irrefl _)
    · exact Or.inr (Or.inr ⟨_, hmem, hbelow⟩)

/-- A path leads where it led before a file was put. -/
theorem follow_put (content : Bytes) (rest : List String) {directory : List String} {place : Place}
    (h : t.follow directory rest = .ok place) :
    (t.put names content).follow directory rest = .ok place := by
  induction rest generalizing directory with
  | nil => exact h
  | cons name rest ih =>
    rw [follow] at h ⊢
    by_cases hstay : name = "" ∨ name = "."
    · rw [if_pos hstay] at h ⊢
      exact ih h
    rw [if_neg hstay] at h ⊢
    by_cases hup : name = ".."
    · rw [if_pos hup] at h ⊢
      exact ih h
    rw [if_neg hup] at h ⊢
    by_cases hlong : nameLimit < name.utf8ByteSize
    · rw [if_pos hlong] at h
      cases h
    rw [if_neg hlong] at h ⊢
    by_cases hlast : rest.all (· == "") = true
    · rw [if_pos hlast] at h ⊢
      exact h
    rw [if_neg hlast] at h ⊢
    by_cases hdir : t.isDirectory (directory ++ [name]) = true
    · rw [if_pos hdir] at h
      rw [if_pos (t.isDirectory_put names hdir content)]
      exact ih h
    · rw [if_neg hdir] at h
      split at h <;> cases h

theorem place_put {path : String} {place : Place} (h : t.place path = .ok place)
    (content : Bytes) : (t.put names content).place path = .ok place := by
  unfold FileTree.place at h ⊢
  by_cases hnul : path.toList.contains '\x00' = true
  · rw [if_pos hnul] at h
    cases h
  rw [if_neg hnul] at h ⊢
  by_cases hempty : path.isEmpty = true
  · rw [if_pos hempty] at h
    cases h
  rw [if_neg hempty] at h ⊢
  by_cases hlong : pathLimit < path.utf8ByteSize
  · rw [if_pos hlong] at h
    cases h
  rw [if_neg hlong] at h ⊢
  exact t.follow_put names content _ h

theorem target_of_place {path name : String} {directory : List String}
    (h : t.place path = .ok (.entry directory name false))
    (hdir : t.isDirectory (directory ++ [name]) = false) :
    t.target path = .ok (directory ++ [name]) := by
  simp only [target, h, bind, Except.bind, hdir, Bool.or_self, Bool.false_eq_true, if_false]

/-- The file that writing to a path creates or replaces is a name in a directory, and is no directory. -/
theorem place_of_target {path : String} {file : List String} (h : t.target path = .ok file) :
    ∃ directory name, t.place path = .ok (.entry directory name false)
      ∧ t.isDirectory (directory ++ [name]) = false ∧ file = directory ++ [name] := by
  unfold target at h
  cases hplace : t.place path with
  | error fault => simp [hplace, bind, Except.bind] at h
  | ok place =>
    cases place with
    | directory names => simp [hplace, bind, Except.bind] at h
    | entry directory name slash =>
      simp only [hplace, bind, Except.bind] at h
      split at h
      · cases h
      · next hfree =>
        simp only [Bool.or_eq_true, not_or, Bool.not_eq_true] at hfree
        obtain ⟨rfl, hdir⟩ := hfree
        exact ⟨directory, name, rfl, hdir, (Except.ok.inj h).symm⟩

/-- A path that leads to a file leads there still when the file has been put. -/
theorem target_put {path : String} {file : List String} (h : t.target path = .ok file)
    (content : Bytes) : (t.put file content).target path = .ok file := by
  obtain ⟨directory, name, hplace, hdir, rfl⟩ := t.place_of_target h
  exact target_of_place _ (t.place_put _ hplace content) (by rw [isDirectory_put_self, hdir])

/-- A file that is there is read under the path that leads to it. -/
theorem read_of_target {path : String} {file : List String} {content : Bytes}
    (h : t.target path = .ok file) (hcontent : t.content? file = some content) :
    t.read path = .ok content := by
  obtain ⟨directory, name, hplace, hdir, rfl⟩ := t.place_of_target h
  simp only [read, hplace, bind, Except.bind, hdir, hcontent, Bool.false_eq_true, if_false]

/-- What has been put into a file is read under the path that leads to it. -/
theorem read_put {path : String} {file : List String} (h : t.target path = .ok file)
    (content : Bytes) : (t.put file content).read path = .ok content :=
  read_of_target _ (t.target_put h content) (t.content?_put_self file content)

end Gleaner.FileTree
