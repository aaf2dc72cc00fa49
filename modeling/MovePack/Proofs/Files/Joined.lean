/-
# Paths below paths

A relative path that is put below another one is followed where the other one ends: its names come
after those of the other path.  So the location it leads to depends on the location of the other
path and on its own names.
-/
import MovePack.Proofs.Files.Path

namespace MovePack.Path

variable {base path : Text}

/-- The path along names below another one. -/
def below (base : Text) (names : List Text) : Text := names.foldl join base

@[simp] lemma below_cons (base name : Text) (names : List Text) :
    below base (name :: names) = below (join base name) names := rfl

lemma join_ne_nil (hbase : base ≠ []) (h : isAbsolute path = false) : join base path ≠ [] := by
  rw [join, h, if_neg Bool.false_ne_true]
  split_ifs <;> simp [hbase]

lemma isAbsolute_join (hbase : base ≠ []) (h : isAbsolute path = false) :
    isAbsolute (join base path) = isAbsolute base := by
  obtain ⟨c, rest, rfl⟩ := List.exists_cons_of_ne_nil hbase
  have happend : ∀ more, isAbsolute (c :: (rest ++ more)) = isAbsolute (c :: rest) := by
    intro more
    simp [isAbsolute, Text.startsWith, Text.ofString, List.isPrefixOf]
  rw [join, h, if_neg Bool.false_ne_true]
  split_ifs
  · exact happend _
  · exact happend _

lemma isAbsolute_eq_false_of_notMem {name : Text} (h : slash ∉ name) :
    isAbsolute name = false := by
  rw [Bool.eq_false_iff]
  intro habsolute
  obtain ⟨rest, rfl⟩ := List.isPrefixOf_iff_prefix.mp habsolute
  exact h (List.mem_append_left _ List.mem_cons_self)

lemma below_ne_nil {base : Text} {names : List Text} (hbase : base ≠ [])
    (h : ∀ name ∈ names, slash ∉ name) : below base names ≠ [] := by
  induction names generalizing base with
  | nil => exact hbase
  | cons name names ih =>
    obtain ⟨hname, hnames⟩ := List.forall_mem_cons.mp h
    exact ih (join_ne_nil hbase (isAbsolute_eq_false_of_notMem hname)) hnames

/-- The names of a path below a directory are those of both, but for an empty one between them. -/
lemma exists_names_join (hbase : base ≠ []) (h : isAbsolute path = false) :
    ∃ front, (names base = front ∨ names base = front ++ [[]]) ∧
      names (join base path) = front ++ names path := by
  rw [join, h, if_neg Bool.false_ne_true]
  split_ifs with hends
  · -- the directory ends with a slash
    have hslash : base.endsWith "/" = true := by simpa [hbase] using hends
    obtain ⟨before, rfl⟩ := List.isSuffixOf_iff_suffix.mp hslash
    refine ⟨names before, .inr (names_append_slash before []), ?_⟩
    rw [show before ++ Text.ofString "/" ++ path = before ++ slash :: path from
      List.append_assoc _ _ _, names_append_slash]
  · exact ⟨names base, .inl rfl, names_append_slash base path⟩

/-- What is no slash stands in a name. -/
lemma exists_mem_names {c : CodePoint} (hc : c ≠ slash) (h : c ∈ path) :
    ∃ name ∈ names path, c ∈ name := by
  induction path with
  | nil => cases h
  | cons d path ih =>
    have hrest : c ∈ path → ∃ name ∈ names path, c ∈ name := ih
    rw [names]
    split_ifs with hd
    · obtain h | h := List.mem_cons.mp h
      · exact absurd (h.trans hd) hc
      · obtain ⟨name, hname, hmem⟩ := hrest h
        exact ⟨name, List.mem_cons_of_mem _ hname, hmem⟩
    · cases hnames : names path with
      | nil => exact absurd hnames (names_ne_nil path)
      | cons first others =>
        rw [hnames] at hrest
        obtain rfl | h := List.mem_cons.mp h
        · exact ⟨c :: first, List.mem_cons_self, List.mem_cons_self⟩
        · obtain ⟨name, hname, hmem⟩ := hrest h
          obtain rfl | hname := List.mem_cons.mp hname
          · exact ⟨d :: name, List.mem_cons_self, List.mem_cons_of_mem _ hmem⟩
          · exact ⟨name, List.mem_cons_of_mem _ hname, hmem⟩

/-! ## Locations -/

lemma follow_append (before names names' : List Text) :
    follow before (names ++ names') = follow (follow before names) names' :=
  List.foldl_append

/-- The names of a path below a directory begin with names of the directory that lead there, too. -/
lemma exists_front_join (hbase : base ≠ []) (h : isAbsolute path = false) :
    ∃ front, front <+: names base ∧
      (∀ before, follow before front = follow before (names base)) ∧
      names (join base path) = front ++ names path := by
  obtain ⟨front, hfront | hfront, hnames⟩ := exists_names_join hbase h
  · exact ⟨front, hfront ▸ List.prefix_refl _, fun _ => hfront ▸ rfl, hnames⟩
  · refine ⟨front, hfront ▸ List.prefix_append _ _, fun before => ?_, hnames⟩
    -- an empty name leads nowhere else
    rw [hfront, follow_append]
    rfl

/-- A path below a directory is followed from the location of the directory. -/
lemma location_join (workingDirectory : List Text) (hbase : base ≠ [])
    (h : isAbsolute path = false) :
    location workingDirectory (join base path) =
      follow (location workingDirectory base) (names path) := by
  obtain ⟨front, -, hfollow, hnames⟩ := exists_front_join hbase h
  rw [location, location, isAbsolute_join hbase h, hnames, follow_append, hfollow]

/-! ## Slashes -/

/-- Between slashes are empty names. -/
lemma names_slashes (n : Nat) :
    names (List.replicate n slash) = List.replicate (n + 1) [] := by
  induction n with
  | zero => rfl
  | succ n ih => rw [List.replicate_succ, names, if_pos rfl, ih, ← List.replicate_succ]

lemma follow_replicate_nil (before : List Text) (n : Nat) :
    follow before (List.replicate n []) = before := by
  induction n with
  | zero => rfl
  | succ n ih => exact ih

end MovePack.Path
