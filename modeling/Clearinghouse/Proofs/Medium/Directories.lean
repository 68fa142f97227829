/-
# Directories that stay

Once the directories of a path are made they are there, and to make them again changes
nothing. What is written at a path of its own below them leaves them there.
-/

import Clearinghouse.Proofs.Medium.Following

namespace Clearinghouse.Files

/-- All directories of a path are there. -/
def HasDirectories (files : Files) (path : Path) : Prop :=
  ∀ above, above ≠ [] → above <+: path → files.isDirectory above = true

variable {files made : Files}

/-- Whether a path is a directory depends on what stands there. -/
theorem isDirectory_congr {path : Path} (same : made[path]? = files[path]?) :
    made.isDirectory path = files.isDirectory path := by
  unfold isDirectory
  rw [same]

theorem isDirectory_of_directory {path : Path} (stands : files[path]? = some .directory) :
    files.isDirectory path = true := by
  unfold isDirectory
  rw [stands]
  split <;> rfl

/-- To make directories does not take any away. -/
theorem isDirectory_of_made {above : Path} {names : List String}
    (makes : files.makeDirectoriesFrom above names = some made) {path : Path}
    (there : files.isDirectory path = true) : made.isDirectory path = true := by
  obtain hsame | ⟨-, hmade⟩ := RowStore.getElem?_makeDirectoriesFrom makes path
  · rwa [isDirectory_congr hsame]
  · exact isDirectory_of_directory hmade

theorem isDirectory_makeDirectoriesFrom {above : Path} {names : List String}
    (makes : files.makeDirectoriesFrom above names = some made) {below : List String}
    (nonempty : below ≠ []) (initial : below <+: names) :
    made.isDirectory (above ++ below) = true := by
  induction names generalizing above files below with
  | nil => exact absurd (List.prefix_nil.mp initial) nonempty
  | cons name names ih =>
      obtain ⟨first, below, rfl⟩ := List.exists_cons_of_ne_nil nonempty
      obtain ⟨rfl, hinitial⟩ := List.cons_prefix_cons.mp initial
      -- The first directory is there before those below it are made.
      have hrest : ∀ {earlier : Files}, earlier.isDirectory (above ++ [first]) = true →
          earlier.makeDirectoriesFrom (above ++ [first]) names = some made →
          made.isDirectory (above ++ first :: below) = true := by
        intro earlier hthere hmakes
        cases below with
        | nil => exact isDirectory_of_made hmakes hthere
        | cons next below =>
            have hbelow := ih hmakes (List.cons_ne_nil next below) hinitial
            rwa [List.append_assoc] at hbelow
      rw [makeDirectoriesFrom] at makes
      split at makes
      · next hthere => exact hrest hthere makes
      split at makes
      · cases makes
      · exact hrest (isDirectory_of_directory (by simp)) makes

/-- The directories that were made are there. -/
theorem hasDirectories_of_made {path : Path} (makes : files.makeDirectories path = some made) :
    made.HasDirectories path :=
  fun _ nonempty initial => isDirectory_makeDirectoriesFrom makes nonempty initial

theorem makeDirectoriesFrom_of_present {above : Path} {names : List String}
    (present : ∀ below, below ≠ [] → below <+: names → files.isDirectory (above ++ below) = true) :
    files.makeDirectoriesFrom above names = some files := by
  induction names generalizing above with
  | nil => rfl
  | cons name names ih =>
      have hfirst : files.isDirectory (above ++ [name]) = true :=
        present [name] (List.cons_ne_nil _ _) (List.prefix_append _ _)
      rw [makeDirectoriesFrom, if_pos hfirst]
      refine ih fun below nonempty initial => ?_
      rw [List.append_assoc]
      exact present (name :: below) (List.cons_ne_nil _ _) (List.cons_prefix_cons.mpr ⟨rfl, initial⟩)

/-- Directories that are there are not made again. -/
theorem HasDirectories.makeDirectories {path : Path} (has : files.HasDirectories path) :
    files.makeDirectories path = some files :=
  makeDirectoriesFrom_of_present has

/-- What is written below the directories of a path leaves them there. -/
theorem HasDirectories.insert {path other : Path} (has : files.HasDirectories path)
    (apart : other ≠ [] → ¬ other <+: path) (node : FileNode) :
    Files.HasDirectories (files.insert other node) path := by
  intro above nonempty initial
  have hother : other ≠ above := by
    rintro rfl
    exact apart nonempty initial
  have hsame : (files.insert other node)[above]? = files[above]? := by
    rw [Std.ExtTreeMap.getElem?_insert, if_neg (by simpa using hother)]
  rw [isDirectory_congr hsame]
  exact has above nonempty initial

end Clearinghouse.Files
