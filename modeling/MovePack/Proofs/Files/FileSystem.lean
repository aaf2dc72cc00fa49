/-
# Files that are written and read

A path is followed through directories only, so a file that is put where no directory stands changes
no way to anything.  Hence a written file is found under the path it was written to, and every
other location holds what it held before.
-/
import MovePack.Package.Artifact
import MovePack.Proofs.Except
import MovePack.Proofs.Files.Path

namespace MovePack

/-- A text that does not end with a slash has none to drop. -/
lemma Text.dropEndWhile_slash {t : Text} (h : t.endsWith "/" = false) :
    t.dropEndWhile (· = Path.slash) = t := by
  have hsuffix : ¬ [Path.slash] <:+ t := by
    rw [Text.endsWith, ← Bool.not_eq_true, List.isSuffixOf_iff_suffix] at h
    exact h
  rw [Text.dropEndWhile]
  cases hreverse : t.reverse with
  | nil => simpa using hreverse.symm
  | cons c rest =>
    have ht : t = rest.reverse ++ [c] := by simpa using congrArg List.reverse hreverse
    have hc : c ≠ Path.slash := by
      rintro rfl
      exact hsuffix ⟨_, ht.symm⟩
    rw [List.dropWhile_cons_of_neg (by simpa using hc), ← hreverse, List.reverse_reverse]

/-- The last name of a path that ends with a slash is empty. -/
lemma Text.endsWith_slash_of_isDot {path : Text}
    (h : FileSystem.isDot (Path.baseName path) = false) : path.endsWith "/" = false := by
  rw [Bool.eq_false_iff]
  intro hslash
  obtain ⟨before, rfl⟩ := List.isSuffixOf_iff_suffix.mp hslash
  rw [show Text.ofString "/" = [Path.slash] from rfl,
    Path.baseName_append_slash before List.not_mem_nil] at h
  cases h

namespace FileSystem

variable {fs fs' after : FileSystem} {location : Location} {entry : Entry} {path : Text}
  {content : Bytes}

/-! ## Entries -/

lemma lookup_cons_eq (e : Location × Entry) (entries : List (Location × Entry)) (l : Location) :
    (e :: entries).lookup l = if l = e.1 then some e.2 else entries.lookup l := by
  rw [List.lookup_cons]
  by_cases hl : l = e.1
  · simp [hl]
  · rw [beq_eq_false_iff_ne.mpr hl, if_neg hl]

lemma lookup_filter_ne (entries : List (Location × Entry)) (location l : Location) :
    (entries.filter (·.1 ≠ location)).lookup l =
      if l = location then none else entries.lookup l := by
  induction entries with
  | nil => simp
  | cons e entries ih =>
    by_cases he : e.1 = location
    · rw [List.filter_cons_of_neg (by simpa using he), ih, lookup_cons_eq, he]
      split_ifs <;> rfl
    · rw [List.filter_cons_of_pos (by simpa using he), lookup_cons_eq, lookup_cons_eq, ih]
      split_ifs with hl hlocation
      · exact absurd (hl.symm.trans hlocation) he
      · rfl
      · rfl
      · rfl

@[simp] lemma find?_nil : fs.find? [] = some .directory := rfl

lemma find?_put (fs : FileSystem) {location : Location} (entry : Entry) (h : location ≠ [])
    (l : Location) :
    (fs.put location entry).find? l = if l = location then some entry else fs.find? l := by
  rw [find?, find?, put, lookup_cons_eq, lookup_filter_ne]
  split_ifs with hroot hlocation
  · exact absurd (hlocation.symm.trans hroot) h
  all_goals rfl

lemma find?_erase (fs : FileSystem) {location : Location} (h : location ≠ []) (l : Location) :
    (fs.erase location).find? l = if l = location then none else fs.find? l := by
  rw [find?, find?, erase, lookup_filter_ne]
  split_ifs with hroot hlocation
  · exact absurd (hlocation.symm.trans hroot) h
  all_goals rfl

/-- Where no directory is, is not the root. -/
lemma ne_nil_of_isDirectoryAt_eq (h : fs.isDirectoryAt location = false) : location ≠ [] := by
  rintro rfl
  cases h

/-! ## Following paths -/

lemma follow_append (names names' : List Text) :
    fs.follow location (names ++ names') =
      fs.follow location names >>= fun l => fs.follow l names' := by
  induction names generalizing location with
  | nil => rfl
  | cons name names ih =>
    simp only [List.cons_append, follow, ih]
    split_ifs <;> rfl

lemma path_follow_cons (name : Text) (names : List Text) :
    Path.follow location (name :: names) =
      Path.follow (if isDot name then location else
        if isDotDot name then location.dropLast else location ++ [name]) names := by
  simp [Path.follow, isDot, isDotDot]

/-- Where names lead to is said by the names alone. -/
lemma eq_of_follow_eq_ok {names : List Text} {l : Location}
    (h : fs.follow location names = .ok l) : l = Path.follow location names := by
  induction names generalizing location with
  | nil =>
    cases h
    rfl
  | cons name names ih =>
    rw [follow] at h
    rw [path_follow_cons]
    split_ifs at h ⊢
    · exact ih h
    · exact ih h
    · exact ih h

/-- What is followed in a file system is followed in any other one that has the same directories
and in which nothing is missing. -/
lemma follow_mono (hdirectory : ∀ l, fs.isDirectoryAt l = true → fs'.isDirectoryAt l = true)
    (hsome : ∀ l, (fs.find? l).isSome → (fs'.find? l).isSome) {names : List Text} {l : Location}
    (h : fs.follow location names = .ok l) : fs'.follow location names = .ok l := by
  induction names generalizing location with
  | nil => exact h
  | cons name names ih =>
    rw [follow] at h ⊢
    split_ifs at h with hdir hdot hdotdot hlong hmissing
    · rw [if_neg (by simpa using hdirectory _ (by simpa using hdir)), if_pos hdot]
      exact ih h
    · rw [if_neg (by simpa using hdirectory _ (by simpa using hdir)), if_neg hdot, if_pos hdotdot]
      exact ih h
    · have hfound := hsome (location ++ [name]) (by simpa [Option.isSome_iff_ne_none] using hmissing)
      rw [if_neg (by simpa using hdirectory _ (by simpa using hdir)), if_neg hdot, if_neg hdotdot,
        if_neg hlong, if_neg (by simpa [Option.isSome_iff_ne_none] using hfound)]
      exact ih h

/-- Where a path leads to is decided by what is at the locations. -/
lemma locate_congr (hworking : fs'.workingDirectory = fs.workingDirectory)
    (hfind : ∀ l, fs'.find? l = fs.find? l) (path : Text) : fs'.locate path = fs.locate path := by
  have hdirectory : ∀ l, fs'.isDirectoryAt l = fs.isDirectoryAt l := fun l => by
    rw [isDirectoryAt, hfind]
    rfl
  have hfollow : ∀ location names, fs'.follow location names = fs.follow location names := by
    intro location names
    induction names generalizing location with
    | nil => rfl
    | cons name names ih => rw [follow, follow, hdirectory, hfind, ih, ih, ih]
  rw [locate, locate, startOf, startOf, hworking, funext (hfollow _)]

/-- A file that is put where no directory is stands in no way. -/
lemma follow_put {place : Location} (hroot : place ≠ [])
    (hfree : fs.isDirectoryAt place = false) {names : List Text} {l : Location}
    (h : fs.follow location names = .ok l) :
    (fs.put place (.file content)).follow location names = .ok l := by
  refine follow_mono (fun l hl => ?_) (fun l hl => ?_) h
  · have hne : l ≠ place := by
      rintro rfl
      rw [hfree] at hl
      cases hl
    rw [isDirectoryAt, fs.find?_put _ hroot, if_neg hne]
    exact hl
  · rw [fs.find?_put _ hroot]
    split_ifs
    · rfl
    · exact hl

/-- A way that is left when an entry is removed has been there before. -/
lemma follow_of_follow_erase {place : Location} (hroot : place ≠ []) {names : List Text}
    {l : Location} (h : (fs.erase place).follow location names = .ok l) :
    fs.follow location names = .ok l := by
  refine follow_mono (fun l hl => ?_) (fun l hl => ?_) h
  · rw [isDirectoryAt, fs.find?_erase hroot] at hl
    split_ifs at hl
    · simp at hl
    · exact hl
  · rw [fs.find?_erase hroot] at hl
    split_ifs at hl
    · simp at hl
    · exact hl

/-- A name that is no dots leads one level down. -/
lemma follow_singleton {name : Text} {l : Location} (hdot : isDot name = false)
    (hdotdot : isDotDot name = false) :
    fs.follow location [name] = .ok l ↔
      fs.isDirectoryAt location = true ∧ byteCount name ≤ maxNameBytes ∧
        (fs.find? (location ++ [name])).isSome ∧ l = location ++ [name] := by
  rw [follow, hdot, hdotdot, if_neg Bool.false_ne_true, if_neg Bool.false_ne_true]
  constructor
  · intro h
    split_ifs at h with hdir hlong hmissing
    cases h
    exact ⟨by simpa using hdir, Nat.not_lt.mp hlong,
      by simpa [Option.isSome_iff_ne_none] using hmissing, rfl⟩
  · rintro ⟨hdir, hlong, hfound, rfl⟩
    rw [if_neg (by simp [hdir]), if_neg (Nat.not_lt.mpr hlong),
      if_neg (by simpa [Option.isSome_iff_ne_none] using hfound)]
    rfl

/-! ## Writing -/

/-- A file is written below a directory, to which the path leads but for its last name. -/
lemma locateForWriting_eq_ok_iff {names : List Text}
    (hnames : Path.names path = names ++ [Path.baseName path]) :
    fs.locateForWriting path = .ok location ↔
      checkLength path = .ok () ∧ isDot (Path.baseName path) = false ∧
        isDotDot (Path.baseName path) = false ∧ byteCount (Path.baseName path) ≤ maxNameBytes ∧
        fs.isDirectoryAt location = false ∧ ∃ parent,
          fs.follow (fs.startOf path) names = .ok parent ∧ fs.isDirectoryAt parent = true ∧
          location = parent ++ [Path.baseName path] := by
  simp only [locateForWriting, locateParent, Except.bind_eq_ok_iff, Except.refuse_eq_ok_iff,
    Prod.exists]
  constructor
  · rintro ⟨parent, name, ⟨_, hlength, _, hparent, hdirectory, hpair⟩, hname, hlong, hfree, h⟩
    cases hpair
    cases h
    -- the path of a file does not end with a slash, so its last name is the name of the file
    simp only [Bool.or_eq_true, not_or, Bool.not_eq_true] at hname
    rw [Text.dropEndWhile_slash hname.1.1, hnames] at hparent hname hlong hfree ⊢
    rw [List.dropLast_concat] at hparent
    rw [List.getLastD_concat] at hname hlong hfree ⊢
    exact ⟨hlength, hname.1.2, hname.2, Nat.not_lt.mp hlong, by simpa using hfree, parent, hparent,
      by simpa using hdirectory, rfl⟩
  · rintro ⟨hlength, hdot, hdotdot, hlong, hfree, parent, hparent, hdirectory, rfl⟩
    have hslash := Text.endsWith_slash_of_isDot hdot
    refine ⟨parent, Path.baseName path, ⟨⟨⟩, hlength, parent, ?_, by simpa using hdirectory, ?_⟩, ?_,
      Nat.not_lt.mpr hlong, by simpa using hfree, rfl⟩
    · rwa [Text.dropEndWhile_slash hslash, hnames, List.dropLast_concat]
    · rw [Text.dropEndWhile_slash hslash, hnames, List.getLastD_concat]
      rfl
    · simp [hslash, hdot, hdotdot]

/-- A path leads to where all its names but the last and then the last one lead. -/
lemma locate_eq_ok_iff {names : List Text} {name : Text} (hlength : checkLength path = .ok ())
    (hnames : Path.names path = names ++ [name]) :
    fs.locate path = .ok location ↔
      ∃ parent, fs.follow (fs.startOf path) names = .ok parent ∧
        fs.follow parent [name] = .ok location := by
  rw [locate, hlength, hnames, Except.ok_bind, follow_append, Except.bind_eq_ok_iff]

/-- The location that a path leads to is the shortest path. -/
lemma eq_of_locate_eq_ok (h : fs.locate path = .ok location) :
    location = Path.location fs.workingDirectory path := by
  obtain ⟨_, -, hfollow⟩ := Except.bind_eq_ok_iff.mp h
  exact eq_of_follow_eq_ok hfollow

/-- What is no directory has the last name of the path to it, unless this is two dots. -/
lemma exists_of_locate_eq_ok {names : List Text} (hlocate : fs.locate path = .ok location)
    (hnames : Path.names path = names ++ [Path.baseName path])
    (hfile : fs.isDirectoryAt location = false) (hname : isDotDot (Path.baseName path) = false) :
    checkLength path = .ok () ∧ isDot (Path.baseName path) = false ∧
      byteCount (Path.baseName path) ≤ maxNameBytes ∧ ∃ parent,
        fs.follow (fs.startOf path) names = .ok parent ∧ fs.isDirectoryAt parent = true ∧
        location = parent ++ [Path.baseName path] := by
  have hlength : checkLength path = .ok () := by
    obtain ⟨_, hlength, -⟩ := Except.bind_eq_ok_iff.mp hlocate
    exact hlength
  obtain ⟨parent, hparent, hlast⟩ := (locate_eq_ok_iff hlength hnames).mp hlocate
  have hdot : isDot (Path.baseName path) = false := by
    -- a dot leads to the directory itself
    rw [Bool.eq_false_iff]
    intro hdot
    rw [follow, if_pos hdot] at hlast
    split_ifs at hlast with hdirectory
    cases hlast
    rw [hfile] at hdirectory
    exact hdirectory rfl
  obtain ⟨hdirectory, hlong, -, hlocation⟩ := (follow_singleton hdot hname).mp hlast
  exact ⟨hlength, hdot, hlong, parent, hparent, hdirectory, hlocation⟩

/-- A file is removed from the place that the path leads to, and from nowhere if it leads to
none. -/
lemma removeAt_eq_ok (h : fs.removeAt path = .ok after) :
    after = fs ∨ ∃ location, fs.isDirectoryAt location = false ∧ fs.locate path = .ok location ∧
      after = fs.erase location := by
  rw [removeAt] at h
  split at h
  next =>
    cases h
    exact .inl rfl
  next location hlocation =>
    split_ifs at h with hdirectory
    cases h
    exact .inr ⟨location, by simpa using hdirectory, hlocation, rfl⟩

/-- The file at the location is what the path has been written with; nothing else has changed. -/
structure WritesAt (fs after : FileSystem) (path : Text) (content : Bytes) (location : Location) :
    Prop where
  /-- The path leads to the file. -/
  locate : after.locate path = .ok location
  /-- The file has the last name of the path. -/
  getLast?_eq : location.getLast? = some (Path.baseName path)
  /-- No directory has been in the place of the file. -/
  isDirectoryAt_eq : fs.isDirectoryAt location = false
  /-- At every other place is what was there before. -/
  find?_eq : ∀ l, after.find? l = if l = location then some (.file content) else fs.find? l
  /-- Relative paths start where they did. -/
  workingDirectory_eq : after.workingDirectory = fs.workingDirectory

/-- **A file that has been placed is where its path leads to.** -/
theorem exists_writesAt_of_placeAt (h : fs.placeAt path content = .ok after) :
    ∃ location, fs.WritesAt after path content location := by
  obtain ⟨cleared, hcleared, h⟩ := Except.bind_eq_ok_iff.mp h
  obtain ⟨location, hlocation, h⟩ := Except.bind_eq_ok_iff.mp h
  cases h
  obtain ⟨names, hnames⟩ := Path.exists_names_eq path
  obtain ⟨hlength, hdot, hdotdot, hlong, hfree, parent, hparent, hdirectory, rfl⟩ :=
    (locateForWriting_eq_ok_iff hnames).mp hlocation
  have hroot := ne_nil_of_isDirectoryAt_eq hfree
  have hput := cleared.find?_put (.file content) hroot
  have hlocated : (cleared.put (parent ++ [Path.baseName path]) (.file content)).locate path =
      .ok (parent ++ [Path.baseName path]) := by
    refine (locate_eq_ok_iff hlength hnames).mpr ⟨parent, follow_put hroot hfree hparent, ?_⟩
    have hne : parent ≠ parent ++ [Path.baseName path] := by simp
    refine (follow_singleton hdot hdotdot).mpr ⟨?_, hlong, by simp [hput], rfl⟩
    rw [isDirectoryAt, hput, if_neg hne]
    exact hdirectory
  refine ⟨parent ++ [Path.baseName path], ?_⟩
  obtain rfl | ⟨old, hold, holdLocated, rfl⟩ := removeAt_eq_ok hcleared
  · exact ⟨hlocated, List.getLast?_concat, hfree, hput, rfl⟩
  · -- the file that was removed stood where the new one stands
    have holdRoot := ne_nil_of_isDirectoryAt_eq hold
    obtain ⟨parent', hparent', hname⟩ := (locate_eq_ok_iff hlength hnames).mp holdLocated
    obtain rfl := Except.ok.inj ((follow_of_follow_erase holdRoot hparent).symm.trans hparent')
    obtain ⟨-, -, -, rfl⟩ := (follow_singleton hdot hdotdot).mp hname
    refine ⟨hlocated, List.getLast?_concat, hold, fun l => ?_, rfl⟩
    rw [hput, fs.find?_erase holdRoot]
    split_ifs <;> rfl

/-- What is written is placed, where there is room for it. -/
lemma writeAt_eq_ok_iff :
    fs.writeAt path content = .ok after ↔
      fs.hasRoom content = true ∧ fs.placeAt path content = .ok after := by
  rw [writeAt, Except.bind_eq_ok_iff]
  cases fs.hasRoom content <;>
    simp [throw, throwThe, MonadExceptOf.throw, pure, Except.pure, bind, Except.bind]

lemma exists_writesAt_of_writeAt (h : fs.writeAt path content = .ok after) :
    ∃ location, fs.WritesAt after path content location :=
  exists_writesAt_of_placeAt (writeAt_eq_ok_iff.mp h).2

/-! ## Reading -/

lemma onPath_eq_ok_iff {α : Type} {a : α} {outcome : Except FileError α} :
    onPath path outcome = .ok a ↔ hasNull path = false ∧ outcome = .ok a := by
  cases hnull : hasNull path <;> cases outcome <;> simp [onPath, hnull]

lemma onPath_eq_nullCharacter_iff {α : Type} {outcome : Except FileError α} :
    onPath path outcome = .error .nullCharacter ↔ hasNull path = true := by
  cases hnull : hasNull path <;> cases outcome <;> simp [onPath, hnull]

/-- A file is read where its path leads to. -/
lemma read_eq_ok_iff :
    fs.read path = .ok content ↔
      hasNull path = false ∧ ∃ location, fs.locate path = .ok location ∧
        fs.find? location = some (.file content) := by
  rw [read, onPath_eq_ok_iff, readAt, Except.bind_eq_ok_iff]
  refine and_congr_right fun _ => exists_congr fun location => and_congr_right fun _ => ?_
  cases fs.find? location with
  | none => simp [throw, throwThe, MonadExceptOf.throw]
  | some entry => cases entry <;> simp [throw, throwThe, MonadExceptOf.throw, pure, Except.pure]

/-- A written file is read. -/
theorem read_of_write (h : fs.write path content = .ok after) : after.read path = .ok content := by
  obtain ⟨hnull, hwrite⟩ := onPath_eq_ok_iff.mp h
  obtain ⟨location, hlocation⟩ := exists_writesAt_of_writeAt hwrite
  exact read_eq_ok_iff.mpr
    ⟨hnull, location, hlocation.locate, by rw [hlocation.find?_eq, if_pos rfl]⟩

/-- Relative paths start where they did when a file has been written. -/
lemma workingDirectory_of_write (h : fs.write path content = .ok after) :
    after.workingDirectory = fs.workingDirectory := by
  obtain ⟨location, hlocation⟩ := exists_writesAt_of_writeAt (onPath_eq_ok_iff.mp h).2
  exact hlocation.workingDirectory_eq

/-- A regular file can be read. -/
lemma isFile_iff : fs.isFile path = true ↔ ∃ content, fs.read path = .ok content := by
  simp only [read_eq_ok_iff, isFile, entryAt?]
  cases hasNull path with
  | true => simp
  | false =>
    cases fs.locate path with
    | error => simp
    | ok location =>
      cases hfind : fs.find? location with
      | none => simp [hfind]
      | some entry => cases entry <;> simp [hfind]

end FileSystem

namespace Artifact

lemma read_eq_ok_iff {fs : FileSystem} {path : Text} {content : Bytes} :
    read fs path = .ok content ↔ fs.read path = .ok content := by
  rw [read]
  split <;> simp_all

lemma hasNull_of_read_eq_error {fs : FileSystem} {path : Text}
    (h : read fs path = .error .nullCharacter) : FileSystem.hasNull path = true := by
  rw [read] at h
  split at h
  · cases h
  · cases h
  next hread => exact FileSystem.onPath_eq_nullCharacter_iff.mp hread

lemma write_eq_ok_iff {fs after : FileSystem} {path : Text} {content : Bytes} :
    write fs path content = .ok after ↔ fs.write path content = .ok after := by
  rw [write]
  split <;> simp_all

end Artifact

end MovePack
