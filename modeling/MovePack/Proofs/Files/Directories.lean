/-
# Making directories

Whatever comes of it, making directories adds nothing but directories, and only where nothing was.
So every file stays where it was and what it was, and every path to it still leads to it.
-/
import MovePack.Proofs.Files.FileSystem

namespace MovePack

namespace FileSystem

variable {fs mid after : FileSystem} {location : Location} {path : Text} {content : Bytes}

/-- Nothing but directories has been added, and nothing has been taken away. -/
structure GrowsTo (fs after : FileSystem) : Prop where
  /-- Relative paths start where they did. -/
  workingDirectory_eq : after.workingDirectory = fs.workingDirectory
  /-- There is room for as much as there was. -/
  room?_eq : after.room? = fs.room?
  /-- At each location is what was there, or a directory where nothing was. -/
  find?_eq : ∀ l, after.find? l = fs.find? l ∨
    fs.find? l = none ∧ after.find? l = some .directory

namespace GrowsTo

lemma refl (fs : FileSystem) : fs.GrowsTo fs := ⟨rfl, rfl, fun _ => .inl rfl⟩

lemma trans (h : fs.GrowsTo mid) (h' : mid.GrowsTo after) : fs.GrowsTo after where
  workingDirectory_eq := h'.workingDirectory_eq.trans h.workingDirectory_eq
  room?_eq := h'.room?_eq.trans h.room?_eq
  find?_eq l := by
    obtain hl' | ⟨hnone, hdirectory⟩ := h'.find?_eq l
    · rw [hl']
      exact h.find?_eq l
    · obtain hl | ⟨hnone', -⟩ := h.find?_eq l
      · exact .inr ⟨hl ▸ hnone, hdirectory⟩
      · exact .inr ⟨hnone', hdirectory⟩

lemma find?_eq_some {entry : Entry} (h : fs.GrowsTo after) (hl : fs.find? location = some entry) :
    after.find? location = some entry := by
  obtain heq | ⟨hnone, -⟩ := h.find?_eq location
  · rw [heq, hl]
  · rw [hl] at hnone
    cases hnone

/-- The files are the same as before. -/
lemma find?_eq_file_iff (h : fs.GrowsTo after) :
    after.find? location = some (.file content) ↔ fs.find? location = some (.file content) := by
  refine ⟨fun hl => ?_, h.find?_eq_some⟩
  obtain heq | ⟨-, hdirectory⟩ := h.find?_eq location
  · rw [← heq, hl]
  · rw [hl] at hdirectory
    cases hdirectory

lemma isDirectoryAt (h : fs.GrowsTo after) (hl : fs.isDirectoryAt location = true) :
    after.isDirectoryAt location = true := by
  rw [FileSystem.isDirectoryAt, decide_eq_true_eq] at hl ⊢
  exact h.find?_eq_some hl

lemma startOf_eq (h : fs.GrowsTo after) (path : Text) : after.startOf path = fs.startOf path := by
  rw [startOf, startOf, h.workingDirectory_eq]

/-- Every path leads to where it led. -/
lemma locate (h : fs.GrowsTo after) (hl : fs.locate path = .ok location) :
    after.locate path = .ok location := by
  obtain ⟨_, hlength, hl⟩ := Except.bind_eq_ok_iff.mp hl
  refine Except.bind_eq_ok_iff.mpr ⟨_, hlength, ?_⟩
  rw [h.startOf_eq]
  refine follow_mono (fun _ => h.isDirectoryAt) (fun l hsome => ?_) hl
  obtain ⟨entry, hentry⟩ := Option.isSome_iff_exists.mp hsome
  rw [h.find?_eq_some hentry]
  rfl

/-- What could be read is read. -/
lemma read (h : fs.GrowsTo after) (hread : fs.read path = .ok content) :
    after.read path = .ok content := by
  obtain ⟨hnull, location, hlocation, hfile⟩ := read_eq_ok_iff.mp hread
  exact read_eq_ok_iff.mpr ⟨hnull, location, h.locate hlocation, h.find?_eq_some hfile⟩

end GrowsTo

/-- What could be read before a file was written elsewhere is still read. -/
lemma WritesAt.read {output : Text} {written : Bytes} {place : Location}
    (h : fs.WritesAt after output written place) (hplace : fs.locate path ≠ .ok place)
    (hread : fs.read path = .ok content) : after.read path = .ok content := by
  obtain ⟨hnull, location, hlocation, hfile⟩ := read_eq_ok_iff.mp hread
  have hne : location ≠ place := by
    rintro rfl
    exact hplace hlocation
  refine read_eq_ok_iff.mpr ⟨hnull, location, ?_, by rw [h.find?_eq, if_neg hne, hfile]⟩
  obtain ⟨_, hlength, hfollow⟩ := Except.bind_eq_ok_iff.mp hlocation
  refine Except.bind_eq_ok_iff.mpr ⟨_, hlength, ?_⟩
  rw [startOf, h.workingDirectory_eq]
  refine follow_mono (fun l hl => ?_) (fun l hl => ?_) hfollow
  · -- no directory has been in the place of the file
    have hother : l ≠ place := by
      rintro rfl
      rw [h.isDirectoryAt_eq] at hl
      cases hl
    rw [isDirectoryAt, h.find?_eq, if_neg hother]
    exact hl
  · rw [h.find?_eq]
    split_ifs
    · rfl
    · exact hl

lemma growsTo_of_makeDirectoryAt (h : fs.makeDirectoryAt path = .ok after) : fs.GrowsTo after := by
  simp only [makeDirectoryAt, Except.bind_eq_ok_iff, Except.refuse_eq_ok_iff, Prod.exists] at h
  obtain ⟨parent, name, -, -, -, hfree, h⟩ := h
  cases h
  have hroot : parent ++ [name] ≠ [] :=
    List.append_ne_nil_of_right_ne_nil _ (List.cons_ne_nil _ _)
  refine ⟨rfl, rfl, fun l => ?_⟩
  rw [fs.find?_put _ hroot]
  split_ifs with hl
  · exact .inr ⟨by simpa [hl] using hfree, rfl⟩
  · exact .inl rfl

lemma growsTo_makeDirectory (fs : FileSystem) (path : Text) :
    fs.GrowsTo (fs.makeDirectory path).2 := by
  rw [makeDirectory]
  split
  next after hmade => exact growsTo_of_makeDirectoryAt (onPath_eq_ok_iff.mp hmade).2
  next =>
    split_ifs
    · exact .refl fs
    · exact .refl fs

lemma growsTo_finish (fs : FileSystem) (name path : Text) :
    fs.GrowsTo (makeDirectoriesFrom.finish fs name path).2 := by
  rw [makeDirectoriesFrom.finish]
  split_ifs
  · exact .refl fs
  · exact growsTo_makeDirectory fs path

lemma growsTo_makeDirectoriesFrom (fuel : Nat) (fs : FileSystem) (path : Text) :
    fs.GrowsTo (makeDirectoriesFrom fuel fs path).2 := by
  induction fuel generalizing fs path with
  | zero => exact growsTo_makeDirectory fs path
  | succ fuel ih =>
    rw [makeDirectoriesFrom]
    have haround := ih fs (splitPath path).1
    dsimp only
    split_ifs
    · exact growsTo_makeDirectory fs path
    · -- the directories around the end are made first, then the one at the end
      split
      next hmade => exact (hmade ▸ haround).trans (growsTo_finish _ _ _)
      next hmade => exact hmade ▸ haround
      next hmade => exact (hmade ▸ haround).trans (growsTo_finish _ _ _)

/-- **Making directories adds directories only**, also when it fails. -/
theorem growsTo_makeDirectories (fs : FileSystem) (path : Text) :
    fs.GrowsTo (fs.makeDirectories path).2 :=
  growsTo_makeDirectoriesFrom path.length fs path

/-! ## Trees -/

/-- Everything stands in a directory. -/
def IsTree (fs : FileSystem) : Prop := ∀ e ∈ fs.entries, fs.isDirectoryAt e.1.dropLast = true

instance (fs : FileSystem) : Decidable fs.IsTree :=
  inferInstanceAs (Decidable (∀ e ∈ fs.entries, _))

lemma IsTree.isDirectoryAt_dropLast (htree : fs.IsTree) (h : fs.isDirectoryAt location = true) :
    fs.isDirectoryAt location.dropLast = true := by
  by_cases hroot : location = []
  · rw [hroot]
    rfl
  · rw [FileSystem.isDirectoryAt, find?, if_neg hroot, decide_eq_true_eq,
      List.lookup_eq_some_iff] at h
    obtain ⟨before, rest, hentries, -⟩ := h
    exact htree (location, .directory) (by simp [hentries])

/-- In a tree, what is no directory has the last name of every path to it. -/
lemma IsTree.getLast?_of_locate (htree : fs.IsTree) (hlocate : fs.locate path = .ok location)
    (hfile : fs.isDirectoryAt location = false) :
    location.getLast? = some (Path.baseName path) := by
  obtain ⟨names, hnames⟩ := Path.exists_names_eq path
  cases hname : isDotDot (Path.baseName path) with
  | false =>
    obtain ⟨-, -, -, parent, -, -, rfl⟩ := exists_of_locate_eq_ok hlocate hnames hfile hname
    exact List.getLast?_concat
  | true =>
    -- two dots lead from a directory to the one around it
    exfalso
    obtain ⟨_, hlength, -⟩ := Except.bind_eq_ok_iff.mp hlocate
    obtain ⟨parent, -, hlast⟩ := (locate_eq_ok_iff hlength hnames).mp hlocate
    rw [follow] at hlast
    split_ifs at hlast with hdirectory hdot
    · cases hlast
      simp [hfile] at hdirectory
    · cases hlast
      rw [htree.isDirectoryAt_dropLast (by simpa using hdirectory)] at hfile
      cases hfile

/-! ## Paths without the null character -/

lemma hasNull_eq_false_iff : hasNull path = false ↔ ∀ c ∈ path, c.toNat ≠ 0 := by
  simp [hasNull]

lemma ne_slash_of_toNat_eq_zero {c : CodePoint} (h : c.toNat = 0) : c ≠ Path.slash := by
  rintro rfl
  exact absurd h (by decide)

lemma hasNull_join {base : Text} (hbase : hasNull base = false) (hpath : hasNull path = false) :
    hasNull (Path.join base path) = false := by
  rw [hasNull_eq_false_iff] at *
  intro c hc hzero
  obtain hc | hc := Path.mem_of_mem_join (ne_slash_of_toNat_eq_zero hzero) hc
  · exact hbase c hc hzero
  · exact hpath c hc hzero

lemma hasNull_of_hasNull_join {base : Text} (h : hasNull (Path.join base path) = false) :
    hasNull path = false := by
  obtain ⟨before, hbefore⟩ := Path.exists_join_append base [] path
  rw [List.nil_append] at hbefore
  rw [hbefore, hasNull_eq_false_iff] at h
  exact hasNull_eq_false_iff.mpr fun c hc => h c (List.mem_append_right _ hc)

lemma hasNull_of_makeDirectory {fs : FileSystem} {path : Text}
    (h : (fs.makeDirectory path).1 = .ok ()) : hasNull path = false := by
  rw [makeDirectory] at h
  split at h
  next hmade => exact (onPath_eq_ok_iff.mp hmade).1
  next fault hfault =>
    rw [Bool.eq_false_iff]
    intro hnull
    rw [onPath_eq_nullCharacter_iff.mpr hnull] at hfault
    cases hfault
    simp at h

/-- The path of a directory that has been made does not hold the null character. -/
lemma hasNull_of_makeDirectories {fs : FileSystem} {path : Text}
    (hname : (splitPath path).2 ≠ Text.ofString ".") (h : (fs.makeDirectories path).1 = .ok ()) :
    hasNull path = false := by
  rw [makeDirectories] at h
  have hfinish : ∀ (fs : FileSystem),
      (makeDirectoriesFrom.finish fs (splitPath path).2 path).1 = .ok () → hasNull path = false := by
    intro fs h
    rw [makeDirectoriesFrom.finish, if_neg hname] at h
    exact hasNull_of_makeDirectory h
  cases hlength : path.length with
  | zero =>
    rw [hlength] at h
    exact hasNull_of_makeDirectory h
  | succ fuel =>
    rw [hlength, makeDirectoriesFrom] at h
    dsimp only at h
    split_ifs at h
    · exact hasNull_of_makeDirectory h
    · split at h
      · exact hfinish _ h
      · cases h
      · exact hfinish _ h

/-- A directory that is there is left as it is. -/
lemma makeDirectories_of_isDirectory {fs : FileSystem} {path : Text} (hnull : hasNull path = false)
    (hmade : fs.makeDirectoryAt path = .error .alreadyExists) (hthere : fs.isDirectory path = true)
    (haround : fs.pathExists (splitPath path).1 = true) :
    fs.makeDirectories path = (.ok (), fs) := by
  have hdirectory : fs.makeDirectory path = (.ok (), fs) := by
    simp [makeDirectory, hmade, onPath, hnull, hthere]
  rw [makeDirectories]
  cases path.length with
  | zero => exact hdirectory
  | succ fuel => simp [makeDirectoriesFrom, haround, hdirectory]

lemma splitPath_join (base : Text) {name : Text} (hslash : Path.slash ∉ name) (hname : name ≠ []) :
    (splitPath (Path.join base name)).2 = name := by
  rw [splitPath, Path.baseName_join base hslash]
  cases name with
  | nil => exact absurd rfl hname
  | cons c name => rfl

end FileSystem

end MovePack
