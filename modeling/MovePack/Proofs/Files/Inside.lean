/-
# Staying below a directory

A relative path whose names never go further up than down leads to places below the one where it
starts, wherever this is.  Directories are made along a path only: so when the path leads through
directories that are there and through places below a directory, nothing is made outside of this
one.
-/
import MovePack.Proofs.Files.Directories
import MovePack.Proofs.Files.Joined
import MovePack.Proofs.Files.Replacement

namespace MovePack

namespace Path

variable {base place along before : List Text} {path : Text} {depth : Nat}

/-- Names that are followed `depth` levels below a place never lead above this place. -/
def staysBelow : (depth : Nat) → List Text → Bool
  | _, [] => true
  | depth, name :: rest =>
    if FileSystem.isDot name then staysBelow depth rest
    else if FileSystem.isDotDot name then 0 < depth && staysBelow (depth - 1) rest
    else staysBelow (depth + 1) rest

/-- The path is relative and never leads above the place where it starts. -/
def IsInner (path : Text) : Prop := isAbsolute path = false ∧ staysBelow 0 (names path) = true

instance (path : Text) : Decidable (IsInner path) :=
  inferInstanceAs (Decidable (_ ∧ _))

/-- On the way along names that stay below a place every place is below it. -/
lemma prefix_follow_of_staysBelow (hbase : base <+: place)
    (hdepth : place.length = base.length + depth) (h : staysBelow depth along = true)
    (hbefore : before <+: along) : base <+: follow place before := by
  induction along generalizing place depth before with
  | nil =>
    rw [List.prefix_nil.mp hbefore]
    exact hbase
  | cons name along ih =>
    obtain rfl | ⟨before, rfl, hrest⟩ := List.prefix_cons_iff.mp hbefore
    · exact hbase
    · rw [staysBelow] at h
      rw [FileSystem.path_follow_cons]
      split_ifs at h ⊢ with hdot hdotdot
      · exact ih hbase hdepth h hrest
      · -- one level up is still below the place
        simp only [Bool.and_eq_true, decide_eq_true_eq] at h
        have hlength : place.dropLast.length = base.length + (depth - 1) := by
          rw [List.length_dropLast]
          omega
        refine ih ?_ hlength h.2 hrest
        exact List.prefix_of_prefix_length_le hbase (List.dropLast_prefix place) (by omega)
      · have hlength : (place ++ [name]).length = base.length + (depth + 1) := by
          rw [List.length_append, hdepth]
          rfl
        exact ih (hbase.trans (List.prefix_append place [name])) hlength h hrest

lemma IsInner.prefix_follow (h : IsInner path) (base : List Text)
    (hbefore : before <+: names path) : base <+: follow base before :=
  prefix_follow_of_staysBelow (List.prefix_refl base) (Nat.add_zero _).symm h.2 hbefore

/-! ## Slashes at the end -/

/-- What is dropped from the end of a path are slashes. -/
lemma exists_eq_dropEndWhile_append (path : Text) :
    ∃ n, path = path.dropEndWhile (· = slash) ++ List.replicate n slash := by
  have hslashes : path.reverse.takeWhile (· = slash) =
      List.replicate (path.reverse.takeWhile (· = slash)).length slash :=
    List.eq_replicate_of_mem fun c hc => by simpa using List.mem_takeWhile_imp hc
  refine ⟨(path.reverse.takeWhile (· = slash)).length, ?_⟩
  calc path =
          (path.reverse.takeWhile (· = slash) ++ path.reverse.dropWhile (· = slash)).reverse := by
        rw [List.takeWhile_append_dropWhile, List.reverse_reverse]
    _ = path.dropEndWhile (· = slash) ++ (path.reverse.takeWhile (· = slash)).reverse := by
        rw [List.reverse_append, Text.dropEndWhile]
    _ = _ := by
        conv_lhs => rw [hslashes, List.reverse_replicate]

lemma names_dropEndWhile_prefix (path : Text) :
    names (path.dropEndWhile (· = slash)) <+: names path := by
  obtain ⟨n, hn⟩ := exists_eq_dropEndWhile_append path
  cases n with
  | zero =>
    rw [List.replicate_zero, List.append_nil] at hn
    exact hn ▸ List.prefix_refl _
  | succ n =>
    rw [List.replicate_succ] at hn
    conv_rhs => rw [hn, names_append_slash]
    exact List.prefix_append _ _

/-- The path of the directory around the end of a path is empty, or it consists of slashes, or it is
the path before one of its slashes. -/
lemma directoryName_cases (path : Text) :
    directoryName path = [] ∨ (∃ n, directoryName path = List.replicate (n + 1) slash) ∨
      ∃ rest, path = directoryName path ++ slash :: rest := by
  obtain hpath | ⟨before, hpath⟩ := eq_baseName_or_eq_append path
  · -- without a slash nothing precedes the last one
    left
    have hnone : path.reverse.dropWhile (· ≠ slash) = [] := by
      rw [List.dropWhile_eq_nil_iff]
      intro c hc
      have hne : c ≠ slash := by
        rintro rfl
        exact slash_notMem_baseName path (hpath ▸ List.mem_reverse.mp hc)
      simpa using hne
    rw [directoryName, hnone]
    rfl
  · right
    have hfront : path.reverse.dropWhile (· ≠ slash) = slash :: before.reverse := by
      have hname : ∀ c ∈ (baseName path).reverse, decide (c ≠ slash) = true := by
        intro c hc
        rw [decide_eq_true_eq]
        rintro rfl
        exact slash_notMem_baseName path (List.mem_reverse.mp hc)
      rw [hpath, List.reverse_append, List.reverse_cons, List.append_assoc,
        List.dropWhile_append_of_pos hname]
      rfl
    -- the slashes before the last name are dropped unless there is nothing else
    obtain ⟨n, hn⟩ := exists_eq_dropEndWhile_append before
    have hdrop : (before ++ [slash]).dropEndWhile (· = slash) =
        before.dropEndWhile (· = slash) := by
      simp [Text.dropEndWhile]
    rw [directoryName, hfront, List.reverse_cons, List.reverse_reverse, dropSlashes, hdrop]
    cases hrest : before.dropEndWhile (· = slash) with
    | nil =>
      left
      refine ⟨n, ?_⟩
      rw [hrest, List.nil_append] at hn
      rw [hn, ← List.replicate_succ']
    | cons c rest =>
      right
      rw [hrest] at hn
      refine ⟨List.replicate n slash ++ baseName path, ?_⟩
      have hslash : List.replicate n slash ++ slash :: baseName path =
          slash :: (List.replicate n slash ++ baseName path) := by
        rw [← List.cons_append, ← List.replicate_succ, List.replicate_succ', List.append_assoc]
        rfl
      conv_lhs => rw [hpath, hn, List.append_assoc, hslash]

end Path

namespace FileSystem

variable {fs mid after : FileSystem} {base location : Location} {path more : Text}

/-! ## Where paths lead through -/

/-- The path leads through directories that are there and through places below the given one. -/
def LeadsInto (fs : FileSystem) (base : Location) (path : Text) : Prop :=
  ∀ before, before <+: Path.names path →
    fs.isDirectoryAt (Path.follow (fs.startOf path) before) = true ∨
      base <+: Path.follow (fs.startOf path) before

/-- Everything that has been added is below the place. -/
def AddsBelow (fs after : FileSystem) (base : Location) : Prop :=
  ∀ l, fs.find? l = none → (after.find? l).isSome = true → base <+: l

lemma AddsBelow.refl (fs : FileSystem) (base : Location) : fs.AddsBelow fs base := by
  intro l hnone hsome
  rw [hnone] at hsome
  cases hsome

lemma AddsBelow.trans (h : fs.AddsBelow mid base) (h' : mid.AddsBelow after base) :
    fs.AddsBelow after base := by
  intro l hnone hsome
  cases hmid : mid.find? l with
  | none => exact h' l hmid hsome
  | some entry => exact h l hnone (by rw [hmid]; rfl)

namespace LeadsInto

lemma mono (h : fs.LeadsInto base path) (hgrows : fs.GrowsTo after) :
    after.LeadsInto base path := by
  intro before hbefore
  rw [hgrows.startOf_eq]
  exact (h before hbefore).imp_left hgrows.isDirectoryAt

/-- A directory that is there is reached through directories. -/
lemma of_locate (hlocate : fs.locate path = .ok location)
    (hdirectory : fs.isDirectoryAt location = true) : fs.LeadsInto base path := by
  rintro before ⟨rest, hrest⟩
  left
  obtain ⟨_, -, hfollow⟩ := Except.bind_eq_ok_iff.mp hlocate
  rw [← hrest, follow_append, Except.bind_eq_ok_iff] at hfollow
  obtain ⟨l, hl, hrest⟩ := hfollow
  rw [← eq_of_follow_eq_ok hl]
  exact isDirectoryAt_of_follow hrest hdirectory

/-- A path below another one leads on from where this one ends. -/
lemma join (h : fs.LeadsInto base path) (hpath : path ≠ []) (hmore : Path.isAbsolute more = false)
    (hlast : ∀ before, before <+: Path.names more →
      fs.isDirectoryAt (Path.follow (Path.location fs.workingDirectory path) before) = true ∨
        base <+: Path.follow (Path.location fs.workingDirectory path) before) :
    fs.LeadsInto base (Path.join path more) := by
  intro before hbefore
  rw [startOf, Path.isAbsolute_join hpath hmore]
  obtain ⟨front, hfront, hfollow, hnames⟩ := Path.exists_front_join hpath hmore
  have hend : Path.follow (fs.startOf path) front = Path.location fs.workingDirectory path :=
    hfollow _
  obtain ⟨rest, hrest⟩ := hbefore
  rw [hnames, List.append_eq_append_iff] at hrest
  obtain ⟨more', hmore', -⟩ | ⟨before', rfl, hbefore'⟩ := hrest
  · have hstarts : before <+: front := hmore' ▸ List.prefix_append _ _
    exact h before (hstarts.trans hfront)
  · have hafter := hlast before' (hbefore' ▸ List.prefix_append _ _)
    rw [← hend, ← Path.follow_append] at hafter
    exact hafter

/-- The path before a slash leads through fewer places. -/
lemma of_append_slash {rest : Text} (hpath : path ≠ [])
    (h : fs.LeadsInto base (path ++ Path.slash :: rest)) : fs.LeadsInto base path := by
  intro before hbefore
  have hstart : fs.startOf (path ++ Path.slash :: rest) = fs.startOf path := by
    obtain ⟨c, path, rfl⟩ := List.exists_cons_of_ne_nil hpath
    simp [startOf, Path.isAbsolute, Text.startsWith, Text.ofString, List.isPrefixOf]
  rw [← hstart]
  refine h before (hbefore.trans ?_)
  rw [Path.names_append_slash]
  exact List.prefix_append _ _

/-- Slashes lead to the root only. -/
lemma slashes (n : Nat) : fs.LeadsInto base (List.replicate (n + 1) Path.slash) := by
  intro before hbefore
  rw [Path.names_slashes] at hbefore
  obtain ⟨-, hempty⟩ := List.prefix_replicate_iff.mp hbefore
  left
  rw [hempty, Path.follow_replicate_nil]
  rfl

lemma directoryName (h : fs.LeadsInto base path) (hpath : Path.directoryName path ≠ []) :
    fs.LeadsInto base (Path.directoryName path) := by
  obtain hnone | ⟨n, hn⟩ | ⟨rest, hrest⟩ := Path.directoryName_cases path
  · exact absurd hnone hpath
  · rw [hn]
    exact slashes n
  · rw [hrest] at h
    exact h.of_append_slash hpath

/-- The directory around the end of the path is reached through fewer places. -/
lemma splitPath (h : fs.LeadsInto base path) (haround : (splitPath path).1 ≠ []) :
    fs.LeadsInto base (FileSystem.splitPath path).1 := by
  cases hname : Path.baseName path with
  | nil =>
    simp only [FileSystem.splitPath, hname] at haround ⊢
    have hdirectory : Path.directoryName path ≠ [] := by
      intro hnone
      rw [hnone] at haround
      exact haround rfl
    exact (h.directoryName hdirectory).directoryName haround
  | cons c name =>
    simp only [FileSystem.splitPath, hname] at haround ⊢
    exact h.directoryName haround

end LeadsInto

/-! ## Making directories -/

/-- A directory that is made is at the end of its path. -/
lemma addsBelow_of_makeDirectoryAt (hpath : fs.LeadsInto base path)
    (h : fs.makeDirectoryAt path = .ok after) : fs.AddsBelow after base := by
  simp only [makeDirectoryAt, locateParent, Except.bind_eq_ok_iff, Except.refuse_eq_ok_iff,
    Prod.exists] at h
  obtain ⟨parent, name, ⟨_, -, _, hparent, -, hpair⟩, hdots, -, hfree, h⟩ := h
  cases hpair
  cases h
  obtain ⟨init, hnames⟩ := Path.exists_names_eq (path.dropEndWhile (· = Path.slash))
  rw [hnames, List.dropLast_concat] at hparent
  rw [hnames, List.getLastD_concat] at hdots hfree ⊢
  simp only [Bool.or_eq_true, not_or, Bool.not_eq_true] at hdots
  -- the last name is no dots, so it leads one level down
  have hplace : Path.follow (fs.startOf path) (init ++ [Path.baseName (path.dropEndWhile
      (· = Path.slash))]) = parent ++ [Path.baseName (path.dropEndWhile (· = Path.slash))] := by
    rw [Path.follow_append, ← eq_of_follow_eq_ok hparent, path_follow_cons, hdots.1, hdots.2]
    rfl
  intro l hnone hsome
  rw [fs.find?_put _ (by simp)] at hsome
  split_ifs at hsome with hl
  · obtain hdirectory | hbelow := hpath _ (hnames ▸ Path.names_dropEndWhile_prefix path)
    · rw [hplace, ← hl, isDirectoryAt, hnone] at hdirectory
      cases hdirectory
    · rwa [hl, ← hplace]
  · rw [hnone] at hsome
    cases hsome

lemma addsBelow_makeDirectory (hpath : fs.LeadsInto base path) :
    fs.AddsBelow (fs.makeDirectory path).2 base := by
  rw [makeDirectory]
  split
  next after hmade => exact addsBelow_of_makeDirectoryAt hpath (onPath_eq_ok_iff.mp hmade).2
  next =>
    split_ifs
    · exact .refl fs base
    · exact .refl fs base

lemma addsBelow_finish (hpath : fs.LeadsInto base path) (name : Text) :
    fs.AddsBelow (makeDirectoriesFrom.finish fs name path).2 base := by
  rw [makeDirectoriesFrom.finish]
  split_ifs
  · exact .refl fs base
  · exact addsBelow_makeDirectory hpath

lemma addsBelow_makeDirectoriesFrom (fuel : Nat) (hpath : fs.LeadsInto base path) :
    fs.AddsBelow (makeDirectoriesFrom fuel fs path).2 base := by
  induction fuel generalizing path with
  | zero => exact addsBelow_makeDirectory hpath
  | succ fuel ih =>
    rw [makeDirectoriesFrom]
    dsimp only
    split_ifs with hthere
    · exact addsBelow_makeDirectory hpath
    · have haround : (splitPath path).1 ≠ [] := by
        rintro hnone
        simp [hnone] at hthere
      have hmade := ih (hpath.splitPath haround)
      have hgrows := growsTo_makeDirectoriesFrom fuel fs (splitPath path).1
      -- the directories around the end are made first, then the one at the end
      split
      next heq =>
        rw [heq] at hmade hgrows
        exact hmade.trans (addsBelow_finish (hpath.mono hgrows) _)
      next heq => exact heq ▸ hmade
      next heq =>
        rw [heq] at hmade hgrows
        exact hmade.trans (addsBelow_finish (hpath.mono hgrows) _)

/-- **Directories are made only where the path leads through.** -/
theorem addsBelow_makeDirectories (hpath : fs.LeadsInto base path) :
    fs.AddsBelow (fs.makeDirectories path).2 base :=
  addsBelow_makeDirectoriesFrom path.length hpath

end FileSystem

end MovePack
