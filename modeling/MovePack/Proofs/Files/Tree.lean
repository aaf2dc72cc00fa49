/-
# Trees of files

In a sound file system everything stands in a directory under a name of its own, so a location
below another one is reached by putting its names behind each other.  What a directory holds is then
listed completely and in strictly ascending order, whatever the order in which it is stored.
-/
import Mathlib.Data.List.Induction
import Mathlib.Data.List.Nodup
import MovePack.Proofs.Bundle.ModuleOrder
import MovePack.Proofs.Files.Directories
import MovePack.Proofs.Files.Joined

namespace MovePack

/-- The text comes before the other in code point order. -/
def Text.Before (s t : Text) : Prop := Text.compare s t = .lt

namespace Text

variable {s t : Text}

lemma Before.asymm (h : Before s t) : ¬ Before t s := by
  have hswap : compare t s = (compare s t).swap := Std.OrientedCmp.eq_swap
  rw [Before, hswap, show compare s t = .lt from h]
  nofun

lemma le_iff_before_or_eq : le s t = true ↔ Before s t ∨ s = t := by
  have heq : compare s t = .eq ↔ s = t := Std.LawfulEqCmp.compare_eq_iff_eq
  rw [← heq, le, Before]
  cases compare s t <;> simp

lemma le_trans (a b c : Text) (hab : le a b) (hbc : le b c) : le a c := by
  unfold le at hab hbc ⊢
  exact Std.TransCmp.isLE_trans hab hbc

lemma le_total (a b : Text) : le a b || le b a := by
  have hswap : compare b a = (compare a b).swap := Std.OrientedCmp.eq_swap
  unfold le
  rw [hswap]
  cases compare a b <;> rfl

end Text

namespace FileSystem

variable {fs fs' : FileSystem} {location place : Location} {entry : Entry} {base path name : Text}

/-! ## Following paths below a path -/

lemma startOf_join (hbase : base ≠ []) (h : Path.isAbsolute path = false) :
    fs.startOf (Path.join base path) = fs.startOf base := by
  rw [startOf, startOf, Path.isAbsolute_join hbase h]

/-- A path below a directory leads from there where its own names lead. -/
lemma follow_join (hbase : base ≠ []) (h : Path.isAbsolute path = false)
    (hfollow : fs.follow (fs.startOf base) (Path.names base) = .ok location) :
    fs.follow (fs.startOf (Path.join base path)) (Path.names (Path.join base path)) =
      fs.follow location (Path.names path) := by
  obtain ⟨front, hfront, hnames⟩ := Path.exists_names_join hbase h
  have hto : fs.follow (fs.startOf base) front = .ok location := by
    obtain hbase' | hbase' := hfront
    · rw [← hbase', hfollow]
    · -- an empty name leads nowhere else
      rw [hbase', follow_append, Except.bind_eq_ok_iff] at hfollow
      obtain ⟨l, hl, hlast⟩ := hfollow
      rw [follow] at hlast
      split_ifs at hlast with hdirectory hdot
      · cases hlast
        exact hl
      · exact absurd rfl hdot
      all_goals exact absurd rfl hdot
  rw [startOf_join hbase h, hnames, follow_append, hto, Except.ok_bind]

lemma isSome_find?_of_isDirectoryAt (h : fs.isDirectoryAt location = true) :
    (fs.find? location).isSome = true := by
  rw [isDirectoryAt, decide_eq_true_eq] at h
  rw [h]
  rfl

lemma checkLength_eq_ok_iff {u : Unit} :
    checkLength path = .ok u ↔ path ≠ [] ∧ byteCount path < maxPathBytes := by
  rw [checkLength]
  split_ifs with hempty hlong
  · simp [List.isEmpty_iff.mp hempty]
  · simp [hlong]
  · rw [List.isEmpty_iff] at hempty
    simp [hempty, Nat.not_le.mp hlong]

/-! ## Sound file systems -/

/-- The text is the name of something in a directory. -/
structure IsName (name : Text) : Prop where
  /-- The name is not that of the directory itself. -/
  isDot_eq : isDot name = false
  /-- The name is not that of the directory above. -/
  isDotDot_eq : isDotDot name = false
  /-- The name is one name. -/
  slash_notMem : Path.slash ∉ name
  /-- The name does not hold the null character. -/
  hasNull_eq : hasNull name = false
  /-- The name is not too long. -/
  byteCount_le : byteCount name ≤ maxNameBytes

instance (name : Text) : Decidable (IsName name) :=
  decidable_of_iff (isDot name = false ∧ isDotDot name = false ∧ Path.slash ∉ name ∧
      hasNull name = false ∧ byteCount name ≤ maxNameBytes)
    ⟨fun ⟨hdot, hdotdot, hslash, hnull, hlong⟩ => ⟨hdot, hdotdot, hslash, hnull, hlong⟩,
      fun h => ⟨h.isDot_eq, h.isDotDot_eq, h.slash_notMem, h.hasNull_eq, h.byteCount_le⟩⟩

/-- Everything stands once in a directory and has a name. -/
structure IsSound (fs : FileSystem) : Prop where
  /-- Everything stands in a directory. -/
  isTree : fs.IsTree
  /-- Nothing stands in the place of something else. -/
  nodup : (fs.entries.map Prod.fst).Nodup
  /-- What is below the root is reached by names. -/
  isName : ∀ e ∈ fs.entries, e.1 ≠ [] ∧ ∀ name ∈ e.1, IsName name

instance (fs : FileSystem) : Decidable fs.IsSound :=
  decidable_of_iff (fs.IsTree ∧ (fs.entries.map Prod.fst).Nodup ∧
      ∀ e ∈ fs.entries, e.1 ≠ [] ∧ ∀ name ∈ e.1, IsName name)
    ⟨fun ⟨htree, hnodup, hname⟩ => ⟨htree, hnodup, hname⟩,
      fun h => ⟨h.isTree, h.nodup, h.isName⟩⟩

/-- Without repetitions, what is looked up is what is there. -/
lemma lookup_eq_some_iff_mem {entries : List (Location × Entry)}
    (hnodup : (entries.map Prod.fst).Nodup) :
    entries.lookup location = some entry ↔ (location, entry) ∈ entries := by
  induction entries with
  | nil => simp
  | cons e entries ih =>
    obtain ⟨hfirst, hrest⟩ := List.nodup_cons.mp hnodup
    rw [lookup_cons_eq, List.mem_cons, ← ih hrest]
    split_ifs with he
    · -- nothing else is at this location
      have hother : entries.lookup location ≠ some entry := by
        rw [Ne, ih hrest]
        exact fun hmem => hfirst (he ▸ List.mem_map_of_mem (f := Prod.fst) hmem)
      subst he
      simp [hother, Prod.ext_iff, eq_comm]
    · simp [Prod.ext_iff, he]

namespace IsSound

lemma find?_eq_some_iff (hsound : fs.IsSound) (h : location ≠ []) :
    fs.find? location = some entry ↔ (location, entry) ∈ fs.entries := by
  rw [find?, if_neg h, lookup_eq_some_iff_mem hsound.nodup]

lemma isName_of_find? (hsound : fs.IsSound) (h : (fs.find? location).isSome = true)
    (hname : name ∈ location) : IsName name := by
  obtain ⟨entry, hentry⟩ := Option.isSome_iff_exists.mp h
  rw [hsound.find?_eq_some_iff (List.ne_nil_of_mem hname)] at hentry
  exact (hsound.isName _ hentry).2 name hname

/-- What is above something is a directory. -/
lemma isDirectoryAt_of_find? (hsound : fs.IsSound) {names : List Text} (hnames : names ≠ [])
    (h : (fs.find? (location ++ names)).isSome = true) : fs.isDirectoryAt location = true := by
  induction names using List.reverseRecOn with
  | nil => exact absurd rfl hnames
  | append_singleton names name ih =>
    obtain ⟨entry, hentry⟩ := Option.isSome_iff_exists.mp h
    have hparent : fs.isDirectoryAt (location ++ names) = true := by
      rw [hsound.find?_eq_some_iff (by simp), ← List.append_assoc] at hentry
      simpa using hsound.isTree _ hentry
    by_cases hlast : names = []
    · simpa [hlast] using hparent
    · exact ih hlast (isSome_find?_of_isDirectoryAt hparent)

/-- Names lead from a directory to what is below it. -/
lemma follow_below (hsound : fs.IsSound) {names : List Text} (hbase : base ≠ [])
    (hfollow : fs.follow (fs.startOf base) (Path.names base) = .ok location)
    (h : (fs.find? (location ++ names)).isSome = true) :
    fs.follow (fs.startOf (Path.below base names)) (Path.names (Path.below base names)) =
      .ok (location ++ names) := by
  induction names generalizing base location with
  | nil => simpa [Path.below] using hfollow
  | cons name names ih =>
    have hname : IsName name := hsound.isName_of_find? h (by simp)
    have hrelative := Path.isAbsolute_eq_false_of_notMem hname.slash_notMem
    rw [List.append_cons] at h ⊢
    have hfound : (fs.find? (location ++ [name])).isSome = true := by
      by_cases hlast : names = []
      · simpa [hlast] using h
      · exact isSome_find?_of_isDirectoryAt (hsound.isDirectoryAt_of_find? hlast h)
    refine ih (Path.join_ne_nil hbase hrelative) ?_ h
    rw [follow_join hbase hrelative hfollow, Path.names_of_notMem hname.slash_notMem]
    exact (follow_singleton hname.isDot_eq hname.isDotDot_eq).mpr
      ⟨hsound.isDirectoryAt_of_find? (by simp) hfound, hname.byteCount_le, hfound, rfl⟩

/-- Names in a sound file system do not hold the null character. -/
lemma hasNull_of_follow (hsound : fs.IsSound) {names : List Text}
    (h : fs.follow location names = .ok place) : ∀ name ∈ names, hasNull name = false := by
  induction names generalizing location with
  | nil => simp
  | cons name names ih =>
    rw [follow] at h
    split_ifs at h with hdirectory hdot hdotdot hlong hmissing
    · -- a dot is no null character
      have hname : name = [] ∨ name = Text.ofString "." := by simpa [isDot] using hdot
      have hnull : hasNull name = false := by
        rcases hname with rfl | rfl <;> decide
      exact List.forall_mem_cons.mpr ⟨hnull, ih h⟩
    · have hnull : hasNull name = false := by
        obtain rfl : name = Text.ofString ".." := by simpa [isDotDot] using hdotdot
        decide
      exact List.forall_mem_cons.mpr ⟨hnull, ih h⟩
    · have hname : IsName name := by
        have hfound : (fs.find? (location ++ [name])).isSome = true := by
          simpa [Option.isSome_iff_ne_none] using hmissing
        exact hsound.isName_of_find? hfound (by simp)
      exact List.forall_mem_cons.mpr ⟨hname.hasNull_eq, ih h⟩

/-- A path that leads somewhere does not hold the null character. -/
lemma hasNull_of_locate (hsound : fs.IsSound) (h : fs.locate path = .ok place) :
    hasNull path = false := by
  obtain ⟨_, -, hfollow⟩ := Except.bind_eq_ok_iff.mp h
  refine hasNull_eq_false_iff.mpr fun c hc hzero => ?_
  obtain ⟨name, hname, hmem⟩ := Path.exists_mem_names (ne_slash_of_toNat_eq_zero hzero) hc
  exact hasNull_eq_false_iff.mp (hsound.hasNull_of_follow hfollow name hname) c hmem hzero

/-! ## Paths to what is below a directory -/

section Below

variable {names : List Text} (hsound : fs.IsSound) (hbase : fs.locate base = .ok location)
  (h : (fs.find? (location ++ names)).isSome = true)

include hsound hbase h

/-- A path to something below a directory leads there unless it is too long. -/
lemma locate_below_iff : fs.locate (Path.below base names) = .ok (location ++ names) ↔
    byteCount (Path.below base names) < maxPathBytes := by
  obtain ⟨_, hlength, hfollow⟩ := Except.bind_eq_ok_iff.mp hbase
  have hempty : base ≠ [] := (checkLength_eq_ok_iff.mp hlength).1
  have hne : Path.below base names ≠ [] := Path.below_ne_nil hempty fun name hname =>
    (hsound.isName_of_find? h (List.mem_append_right _ hname)).slash_notMem
  rw [locate, hsound.follow_below hempty hfollow h, Except.bind_eq_ok_iff]
  simp [checkLength_eq_ok_iff, hne]

/-- A path to a file below a directory leads to a file unless it is too long. -/
lemma isFile_below_iff {content : Bytes}
    (hfile : fs.find? (location ++ names) = some (.file content)) :
    fs.isFile (Path.below base names) = true ↔
      byteCount (Path.below base names) < maxPathBytes := by
  rw [← hsound.locate_below_iff hbase h, isFile_iff]
  constructor
  · rintro ⟨content', hread⟩
    obtain ⟨-, place, hplace, -⟩ := read_eq_ok_iff.mp hread
    obtain ⟨_, hlength, -⟩ := Except.bind_eq_ok_iff.mp hplace
    exact (hsound.locate_below_iff hbase h).mpr (checkLength_eq_ok_iff.mp hlength).2
  · intro hlocate
    exact ⟨content, read_eq_ok_iff.mpr ⟨hsound.hasNull_of_locate hlocate, _, hlocate, hfile⟩⟩

end Below

/-- No location is longer than the height. -/
lemma length_le_height (hsound : fs.IsSound) (h : (fs.find? location).isSome = true) :
    location.length ≤ fs.height := by
  have hmax : ∀ (lengths : List Nat) (start : Nat),
      start ≤ lengths.foldl max start ∧ ∀ n ∈ lengths, n ≤ lengths.foldl max start := by
    intro lengths
    induction lengths with
    | nil => simp
    | cons first lengths ih =>
      intro start
      obtain ⟨hstart, hlengths⟩ := ih (max start first)
      refine ⟨(le_max_left _ _).trans hstart, List.forall_mem_cons.mpr ⟨?_, hlengths⟩⟩
      exact (le_max_right _ _).trans hstart
  by_cases hroot : location = []
  · simp [hroot]
  · obtain ⟨entry, hentry⟩ := Option.isSome_iff_exists.mp h
    rw [hsound.find?_eq_some_iff hroot] at hentry
    exact (hmax _ 0).2 _ (List.mem_map_of_mem (f := fun e => e.1.length) hentry)

/-! ## Listing a directory -/

/-- What a directory lists is one level below it. -/
lemma eq_of_listed {e : Location × Entry} {child : Text × Entry}
    (h : (match e.1.getLast? with
      | some name => if e.1.dropLast = location then some (name, e.2) else none
      | none => none) = some child) : e = (location ++ [child.1], child.2) := by
  obtain ⟨l, entry⟩ := e
  cases hlast : l.getLast? with
  | none => simp [hlast] at h
  | some last =>
    simp only [hlast, Option.ite_none_right_eq_some, Option.some.injEq] at h
    obtain ⟨rfl, rfl⟩ := h
    rw [List.dropLast_append_getLast? _ hlast]

/-- What a directory holds is what is one level below it. -/
lemma mem_children_iff (hsound : fs.IsSound) :
    (name, entry) ∈ fs.children location ↔ fs.find? (location ++ [name]) = some entry := by
  rw [hsound.find?_eq_some_iff (by simp), children, List.mem_mergeSort, List.mem_filterMap]
  constructor
  · rintro ⟨e, hmem, h⟩
    obtain rfl := eq_of_listed h
    exact hmem
  · intro hmem
    exact ⟨_, hmem, by simp⟩

lemma nodup_children (hsound : fs.IsSound) (location : Location) :
    (fs.children location).Nodup := by
  rw [children, (List.mergeSort_perm _ _).nodup_iff]
  refine (List.Nodup.of_map _ hsound.nodup).filterMap fun e e' child h h' => ?_
  rw [eq_of_listed h, eq_of_listed h']

/-- What a directory holds is listed in ascending order. -/
lemma pairwise_children (hsound : fs.IsSound) (location : Location) :
    (fs.children location).Pairwise fun a b => Text.Before a.1 b.1 := by
  have hle : (fs.children location).Pairwise fun a b => Text.le a.1 b.1 = true :=
    List.pairwise_mergeSort (fun a b c => Text.le_trans a.1 b.1 c.1)
      (fun a b => Text.le_total a.1 b.1) _
  have hne : (fs.children location).Pairwise fun a b => a.1 ≠ b.1 := by
    refine (hsound.nodup_children location).imp_of_mem ?_
    rintro ⟨name, entry⟩ ⟨name', entry'⟩ hmem hmem' hne rfl
    -- nothing else has the same name
    rw [hsound.mem_children_iff] at hmem hmem'
    obtain rfl := Option.some.inj (hmem.symm.trans hmem')
    exact hne rfl
  refine (hle.and hne).imp fun ⟨hab, hab'⟩ => ?_
  exact (Text.le_iff_before_or_eq.mp hab).resolve_right hab'

end IsSound

end FileSystem

end MovePack
