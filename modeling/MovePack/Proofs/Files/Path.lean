/-
# The last name of a path

A path is cut at its slashes, so its last name is what follows the last slash.  A name that is put
below a directory is the last name of the path that results, and an ending without slashes is the
ending of the last name.
-/
import Mathlib.Data.List.TakeWhile
import Mathlib.Tactic.SplitIfs
import MovePack.Files.Path

namespace MovePack.Path

variable {base path name ending : Text}

lemma names_ne_nil (path : Text) : names path ≠ [] := by
  fun_cases names path <;> simp

/-- The names on both sides of a slash. -/
lemma names_append_slash (before after : Text) :
    names (before ++ slash :: after) = names before ++ names after := by
  induction before with
  | nil => simp [names]
  | cons c before ih =>
    rw [List.cons_append, names, names, ih]
    split_ifs with hc
    · rfl
    · cases hnames : names before with
      | nil => exact absurd hnames (names_ne_nil before)
      | cons name others => rfl

lemma names_of_notMem (h : slash ∉ name) : names name = [name] := by
  induction name with
  | nil => rfl
  | cons c name ih =>
    rw [List.mem_cons, not_or] at h
    rw [names, if_neg (Ne.symm h.1), ih h.2]

/-! ## What follows the last slash -/

lemma slash_notMem_baseName (path : Text) : slash ∉ baseName path := by
  intro h
  rw [baseName, List.mem_reverse] at h
  simpa using List.mem_takeWhile_imp h

/-- A path has no slash, or it is cut at its last one. -/
lemma eq_baseName_or_eq_append (path : Text) :
    path = baseName path ∨ ∃ before, path = before ++ slash :: baseName path := by
  have hcut := List.takeWhile_append_dropWhile (p := (· ≠ slash)) (l := path.reverse)
  cases hdrop : path.reverse.dropWhile (· ≠ slash) with
  | nil =>
    rw [hdrop, List.append_nil] at hcut
    left
    rw [baseName, hcut, List.reverse_reverse]
  | cons c rest =>
    -- what is left out begins with the slash
    have hc : c = slash := by
      have hhead := List.head?_dropWhile_not (· ≠ slash) path.reverse
      rw [hdrop] at hhead
      simpa using hhead
    right
    refine ⟨rest.reverse, ?_⟩
    rw [hdrop, hc] at hcut
    have hreverse := congrArg List.reverse hcut
    rw [List.reverse_reverse, List.reverse_append, List.reverse_cons, List.append_assoc] at hreverse
    exact hreverse.symm

/-- The last name of a path is what follows its last slash. -/
lemma exists_names_eq (path : Text) : ∃ before, names path = before ++ [baseName path] := by
  have hlast := names_of_notMem (slash_notMem_baseName path)
  obtain h | ⟨before, h⟩ := eq_baseName_or_eq_append path
  · refine ⟨[], ?_⟩
    rw [List.nil_append, ← hlast, ← h]
  · refine ⟨names before, ?_⟩
    rw [← hlast, ← names_append_slash, ← h]

/-- An ending without slashes is the ending of the last name. -/
lemma baseName_append (path : Text) (h : slash ∉ ending) :
    baseName (path ++ ending) = baseName path ++ ending := by
  have hending : ∀ c ∈ ending.reverse, decide (c ≠ slash) = true := by
    intro c hc
    rw [decide_eq_true_eq]
    rintro rfl
    exact h (List.mem_reverse.mp hc)
  rw [baseName, List.reverse_append, List.takeWhile_append_of_pos hending, List.reverse_append,
    List.reverse_reverse]
  rfl

lemma baseName_append_slash (path : Text) (h : slash ∉ name) :
    baseName (path ++ slash :: name) = name := by
  rw [List.append_cons, baseName_append _ h]
  simp [baseName]

/-- A name below a directory is the last name of the path to it. -/
lemma baseName_join (base : Text) (h : slash ∉ name) : baseName (join base name) = name := by
  have hbase : base = [] ∨ base.endsWith "/" = true → baseName base = [] := by
    rintro (rfl | hslash)
    · rfl
    · obtain ⟨before, rfl⟩ := List.isSuffixOf_iff_suffix.mp hslash
      exact baseName_append_slash before List.not_mem_nil
  rw [join]
  split_ifs with habsolute hends
  · -- an absolute path begins with a slash
    obtain ⟨rest, rfl⟩ := List.isPrefixOf_iff_prefix.mp habsolute
    exact absurd (List.mem_append_left _ List.mem_cons_self) h
  · rw [baseName_append _ h, hbase (by simpa using hends), List.nil_append]
  · exact baseName_append_slash base h

/-- Whatever is put below a directory keeps its ending. -/
lemma exists_join_append (base path ending : Text) :
    ∃ before, join base (path ++ ending) = before ++ ending := by
  rw [join]
  split_ifs
  · exact ⟨path, rfl⟩
  · exact ⟨base ++ path, by rw [List.append_assoc]⟩
  · exact ⟨base ++ slash :: path, by simp⟩

/-- The last name of a path whose end is put below a directory. -/
lemma exists_baseName_join_append (base path : Text) (h : slash ∉ ending) :
    ∃ before, baseName (join base (path ++ ending)) = before ++ ending := by
  obtain ⟨before, hbefore⟩ := exists_join_append base path ending
  exact ⟨_, by rw [hbefore, baseName_append before h]⟩

/-! ## Names without their extension -/

lemma mem_of_mem_stem {c : CodePoint} (h : c ∈ stem name) : c ∈ name := by
  have hdots : ∀ c ∈ name.takeWhile (· = .scalar '.'), c ∈ name :=
    fun _ hc => List.takeWhile_subset _ hc
  rw [stem] at h
  split at h
  · exact h
  next shortened hshortened =>
    obtain h | h := List.mem_append.mp h
    · exact hdots c h
    · -- what is left of the body is a part of it
      rw [List.mem_reverse] at h
      have hbody : c ∈ (name.drop (name.takeWhile (· = .scalar '.')).length).reverse :=
        (List.dropWhile_sublist _).subset ((List.drop_sublist 1 _).subset h)
      exact (List.drop_sublist _ _).subset (List.mem_reverse.mp hbody)

/-! ## Parts of a path -/

lemma mem_of_mem_baseName {c : CodePoint} (h : c ∈ baseName path) : c ∈ path := by
  rw [baseName, List.mem_reverse] at h
  exact List.mem_reverse.mp ((List.takeWhile_sublist _).subset h)

lemma mem_of_mem_directoryName {c : CodePoint} (h : c ∈ directoryName path) : c ∈ path := by
  have hbefore : c ∈ (path.reverse.dropWhile (· ≠ slash)).reverse → c ∈ path := by
    intro hc
    exact List.mem_reverse.mp ((List.dropWhile_sublist _).subset (List.mem_reverse.mp hc))
  rw [directoryName, dropSlashes] at h
  split at h
  · exact hbefore h
  · -- slashes at the end are dropped
    refine hbefore (List.mem_reverse.mp ?_)
    rw [Text.dropEndWhile, List.mem_reverse] at h
    exact (List.dropWhile_sublist _).subset h

lemma mem_join_iff {c : CodePoint} (hc : c ≠ slash) (h : isAbsolute path = false) :
    c ∈ join base path ↔ c ∈ base ∨ c ∈ path := by
  rw [join, h, if_neg Bool.false_ne_true]
  split_ifs <;> simp [hc]

lemma mem_of_mem_join {c : CodePoint} (hc : c ≠ slash) (h : c ∈ join base path) :
    c ∈ base ∨ c ∈ path := by
  cases habsolute : isAbsolute path with
  | false => exact (mem_join_iff hc habsolute).mp h
  | true =>
    rw [join, if_pos habsolute] at h
    exact .inr h

end MovePack.Path
