/-
# Replacing a file

A file is replaced in two steps: the old one is removed, and the new one is written.  When the first
step has removed anything, the new file can be opened, since the path has led to a file then,
through directories that are all still there.  So a file that cannot be replaced is still there,
unless its path ends with two dots or there is no room for the content of the new one.
-/
import MovePack.Proofs.Files.FileSystem

namespace MovePack

namespace FileSystem

variable {fs fs' after : FileSystem} {location place : Location} {path : Text} {content : Bytes}

/-! ## Removing a file -/

/-- What leads to a directory leads through directories. -/
lemma isDirectoryAt_of_follow {names : List Text} {l : Location}
    (h : fs.follow location names = .ok l) (hl : fs.isDirectoryAt l = true) :
    fs.isDirectoryAt location = true := by
  cases names with
  | nil =>
    cases h
    exact hl
  | cons name names =>
    rw [follow] at h
    split_ifs at h with hdirectory
    all_goals simpa using hdirectory

/-- What there is room for is written as a whole. -/
lemma fitting_eq (h : fs.hasRoom content = true) : fs.fitting content = content := by
  rw [hasRoom, Option.all_eq_true] at h
  rw [fitting]
  cases hroom : fs.room? with
  | none => rfl
  | some count => exact List.take_of_length_le (of_decide_eq_true (h count hroom))

/-- A file is replaced when it can be written. -/
lemma replaceAt_eq_ok_iff :
    fs.replaceAt path content = (.ok (), after) ↔ fs.writeAt path content = .ok after := by
  rw [replaceAt, writeAt_eq_ok_iff, placeAt]
  cases fs.removeAt path with
  | error error => simp [bind, Except.bind]
  | ok cleared =>
    cases hlocate : cleared.locateForWriting path with
    | error error => simp [hlocate, bind, Except.bind]
    | ok location =>
      cases hroom : fs.hasRoom content with
      | false => simp [hlocate]
      | true => simp [hlocate, fitting_eq hroom, bind, Except.bind, pure, Except.pure]

theorem replace_eq_ok_iff :
    fs.replace path content = (.ok (), after) ↔ fs.write path content = .ok after := by
  rw [replace, write, onPath_eq_ok_iff, ← replaceAt_eq_ok_iff]
  cases hnull : hasNull path with
  | true => simp
  | false => simp [Prod.ext_iff, onPath_eq_ok_iff, hnull]

end FileSystem

namespace Artifact

open FileSystem (hasNull isDotDot)

variable {fs after : FileSystem} {path : Text} {content : Bytes} {fault : ArtifactFault}

/-- To replace an artifact step by step comes to the same as to write it. -/
lemma replace_eq_ok_iff_write :
    replace fs path content = (.ok (), after) ↔ write fs path content = .ok after := by
  rw [replace, write_eq_ok_iff, ← FileSystem.replace_eq_ok_iff]
  split <;> simp_all

lemma replace_eq_ok_iff :
    replace fs path content = (.ok (), after) ↔ fs.write path content = .ok after :=
  replace_eq_ok_iff_write.trans write_eq_ok_iff

lemma exists_of_replace_eq_error (h : replace fs path content = (.error fault, after)) :
    ∃ fault', fs.replace path content = (.error fault', after) ∧
      (fault = .nullCharacter → fault' = .nullCharacter) ∧
      ∀ error, fault' = .refused error path → fault = .unwritable path error := by
  rw [replace] at h
  split at h
  · cases h
  next hreplace =>
    cases h
    refine ⟨_, hreplace, nofun, fun error herror => ?_⟩
    cases herror
    rfl
  next hreplace =>
    cases h
    exact ⟨_, hreplace, fun _ => rfl, nofun⟩

lemma hasNull_of_replace_eq_error
    (h : replace fs path content = (.error .nullCharacter, after)) : hasNull path = true := by
  obtain ⟨fault', hreplace, hfault, -⟩ := exists_of_replace_eq_error h
  obtain rfl := hfault rfl
  rw [FileSystem.replace] at hreplace
  split_ifs at hreplace with hnull
  · exact hnull
  · exact FileSystem.onPath_eq_nullCharacter_iff.mp (congrArg Prod.fst hreplace)

end Artifact

end MovePack
