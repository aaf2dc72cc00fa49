/-
# Names of excluded modules

A module is excluded by a name when the file name that the name stands for is that of its file in
small letters.  Names with the extension stand for their own lower case, so that neither case nor a
repetition matters.  A name without the extension stands for the same file as with it, unless it
ends in a capital sigma: that is final in the name alone, and is not in front of the extension.
-/
import MovePack.Proofs.Command.Bundle
import MovePack.Proofs.Text.LowerCase

namespace MovePack.Package

variable {name : Text} {names : List Text} {path : Text}

/-! ## The names of files -/

/-- The extension consists of small characters, and of letters behind a dot. -/
lemma isLowered_moduleExtension : ∀ c ∈ (moduleExtension : Text), c.IsLowered := by
  decide +kernel

lemma nearestIsCased_moduleExtension : Text.nearestIsCased moduleExtension = true := by
  decide +kernel

/-- The name in small letters has the extension. -/
def HasExtension (name : Text) : Prop := (moduleExtension : Text) <:+ Text.toLower name

instance : Decidable (HasExtension name) := inferInstanceAs (Decidable (_ <:+ _))

lemma moduleFileName_of_hasExtension (h : HasExtension name) :
    moduleFileName name = Text.toLower name :=
  if_pos (List.isSuffixOf_iff_suffix.mpr h)

lemma moduleFileName_of_not_hasExtension (h : ¬ HasExtension name) :
    moduleFileName name = Text.toLower name ++ moduleExtension :=
  if_neg fun hends => h (List.isSuffixOf_iff_suffix.mp hends)

lemma hasExtension_append (name : Text) : HasExtension (name ++ moduleExtension) := by
  obtain ⟨front, hfront⟩ := Text.exists_toLower_append name isLowered_moduleExtension
  exact ⟨front, hfront.symm⟩

/-- The spelling in small letters stands for the same file. -/
lemma moduleFileName_toLower (name : Text) :
    moduleFileName (Text.toLower name) = moduleFileName name := by
  rw [moduleFileName, moduleFileName, Text.toLower_toLower]

/-- A name of a file stands for that file. -/
lemma moduleFileName_moduleFileName (name : Text) :
    moduleFileName (moduleFileName name) = moduleFileName name := by
  by_cases h : HasExtension name
  · rw [moduleFileName_of_hasExtension h, moduleFileName_toLower, moduleFileName_of_hasExtension h]
  · have hlowered : ∀ c ∈ Text.toLower name ++ moduleExtension, c.IsLowered := by
      intro c hc
      obtain hc | hc := List.mem_append.mp hc
      · exact Text.isLowered_of_mem_toLowerAfter hc
      · exact isLowered_moduleExtension c hc
    rw [moduleFileName_of_not_hasExtension h,
      moduleFileName_of_hasExtension (hasExtension_append _), Text.toLower_of_isLowered hlowered]

/-- Without the extension a name stands for the same file as with it, unless it ends in a capital
sigma. -/
lemma moduleFileName_eq_append_iff (h : ¬ HasExtension name) :
    moduleFileName name = moduleFileName (name ++ moduleExtension) ↔
      ¬ Text.EndsInSigma [] name := by
  rw [moduleFileName_of_not_hasExtension h, moduleFileName_of_hasExtension (hasExtension_append _),
    eq_comm, Text.toLower_append_eq_iff nearestIsCased_moduleExtension isLowered_moduleExtension]

/-! ## Excluded files -/

lemma isExcluded_iff : isExcluded names path = true ↔
    ∃ name ∈ names, moduleFileName name = Text.toLower (Path.baseName path) := by
  rw [isExcluded, List.contains_iff_mem, List.mem_map]

/-- One of the names is that of the file at the path, in any case, and with or without the
extension. -/
def IsExcludedBy (names : List Text) (path : Text) : Prop :=
  ∃ name ∈ names, Text.toLower (Path.baseName path) = Text.toLower name ∧ HasExtension name ∨
    Text.toLower (Path.baseName path) = Text.toLower name ++ moduleExtension ∧ ¬ HasExtension name

instance (names : List Text) (path : Text) : Decidable (IsExcludedBy names path) :=
  inferInstanceAs (Decidable (∃ name ∈ names, _))

lemma isExcluded_iff_isExcludedBy : isExcluded names path = true ↔ IsExcludedBy names path := by
  rw [isExcluded_iff]
  refine exists_congr fun name => and_congr_right fun _ => ?_
  by_cases h : HasExtension name
  · simp [moduleFileName_of_hasExtension h, h, eq_comm]
  · simp [moduleFileName_of_not_hasExtension h, h, eq_comm]

/-- A name that stands for the file in small letters excludes it. -/
lemma not_mem_selected {p : Package} {fs : FileSystem} (hname : name ∈ names)
    (h : moduleFileName name = Text.toLower (Path.baseName path)) : path ∉ p.selected names fs := by
  intro hpath
  have hkept := List.of_mem_filter hpath
  rw [isExcluded_iff.mpr ⟨name, hname, h⟩] at hkept
  cases hkept

/-- The spelling is one by which a module is excluded: the name with the extension, or the same in
small letters, or the name alone or in small letters, if it has no extension of its own and does not
end in a capital sigma. -/
def IsSpelling (spelling name : Text) : Prop :=
  spelling = name ++ moduleExtension ∨ spelling = Text.toLower (name ++ moduleExtension) ∨
    (¬ HasExtension name ∧ ¬ Text.EndsInSigma [] name) ∧
      (spelling = name ∨ spelling = Text.toLower name)

/-- All these spellings stand for the same file. -/
lemma IsSpelling.moduleFileName_eq {spelling : Text} (h : IsSpelling spelling name) :
    moduleFileName spelling = Text.toLower (name ++ moduleExtension) := by
  have hfile := moduleFileName_of_hasExtension (hasExtension_append name)
  obtain rfl | rfl | ⟨⟨hextension, hsigma⟩, rfl | rfl⟩ := h
  · exact hfile
  · rw [moduleFileName_toLower, hfile]
  · rw [(moduleFileName_eq_append_iff hextension).mpr hsigma, hfile]
  · rw [moduleFileName_toLower, (moduleFileName_eq_append_iff hextension).mpr hsigma, hfile]

/-- **Modules are excluded in any case, and with or without the extension.**  With the extension a
name stands for its lower case, and what a name stands for stands for itself.  A name without the
extension stands for the same as with it exactly when it does not end in a capital sigma.  The files
with the name and the extension are left out of the bundle if one of the spellings is given, and for
the name alone in no other case. -/
theorem exclusion_insensitive (name : Text) :
    moduleFileName (name ++ moduleExtension) = Text.toLower (name ++ moduleExtension) ∧
    moduleFileName (moduleFileName name) = moduleFileName name ∧
    (¬ HasExtension name →
      (moduleFileName name = moduleFileName (name ++ moduleExtension) ↔
        ¬ Text.EndsInSigma [] name) ∧
      ∀ path, Path.baseName path = name ++ moduleExtension →
        (isExcluded [name] path = true ↔ ¬ Text.EndsInSigma [] name)) ∧
    ∀ (p : Package) (w : Workspace) names, (∃ spelling ∈ names, IsSpelling spelling name) →
      ∃ paths log, (Work.selectModules p names).runOn w = (.ok paths, { w with log }) ∧
        ∀ path ∈ p.compiledModules w.files,
          Path.baseName path = name ++ moduleExtension → path ∉ paths := by
  refine ⟨moduleFileName_of_hasExtension (hasExtension_append name),
    moduleFileName_moduleFileName name, fun hextension => ?_, ?_⟩
  · have hiff := moduleFileName_eq_append_iff hextension
    refine ⟨hiff, fun path hpath => ?_⟩
    rw [← hiff, moduleFileName_of_hasExtension (hasExtension_append name), isExcluded_iff, hpath]
    simp
  · rintro p w names ⟨spelling, hmem, hspelling⟩
    obtain ⟨log, hselect⟩ := Work.runOn_selectModules p names w
    refine ⟨_, log, hselect, fun path _ hpath => not_mem_selected hmem ?_⟩
    rw [hpath, hspelling.moduleFileName_eq]

/-- A name in capital letters with a sigma that is not the last one, and a module of a package. -/
theorem exclusion_insensitive_module :
    moduleFileName "ΣΑ" = moduleFileName "ΣΑ.mv" ∧
    isExcluded ["ΣΑ"] "bytecode_modules/ΣΑ.mv" = true ∧
    ∃ paths log, (Work.selectModules builtPackage ["a"]).runOn { files := builtFiles [] } =
        (.ok paths, { ({ files := builtFiles [] } : Workspace) with log }) ∧
      ("./build/p/bytecode_modules/a.mv" : Text) ∉ paths := by
  obtain ⟨-, -, hnames, -⟩ := exclusion_insensitive "ΣΑ"
  obtain ⟨hiff, hpaths⟩ := hnames (by decide +kernel)
  have hsigma : ¬ Text.EndsInSigma [] "ΣΑ" := by decide +kernel
  have hfile : Path.baseName "bytecode_modules/ΣΑ.mv" = ("ΣΑ" : Text) ++ moduleExtension := by
    decide
  refine ⟨hiff.mpr hsigma, (hpaths _ hfile).mpr hsigma, ?_⟩
  obtain ⟨-, -, -, hselect⟩ := exclusion_insensitive "a"
  have hspelling : IsSpelling "a" "a" :=
    .inr (.inr ⟨⟨by decide +kernel, by decide +kernel⟩, .inl rfl⟩)
  obtain ⟨paths, log, hrun, hleft⟩ := hselect builtPackage { files := builtFiles [] } ["a"]
    ⟨_, List.mem_singleton_self _, hspelling⟩
  refine ⟨paths, log, hrun, hleft _ ?_ (by decide)⟩
  rw [compiledModules_builtPackage]
  exact List.mem_singleton_self _

/-- A name that ends in a capital sigma excludes the file with this name and the extension only if
it is given with the extension. -/
theorem exclusion_insensitive_sigma :
    ¬ HasExtension "aΣ" ∧ Text.EndsInSigma [] "aΣ" ∧ moduleFileName "aΣ" ≠ moduleFileName "aΣ.mv" ∧
    isExcluded ["aΣ"] "bytecode_modules/aΣ.mv" = false ∧
    isExcluded ["aΣ.mv"] "bytecode_modules/aΣ.mv" = true := by
  decide +kernel

end MovePack.Package
