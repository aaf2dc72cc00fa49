/-
# What a command line comes to

Reading a command line leads from the outermost command to one that does something itself, and
collects settings on the way.  The options of all commands on this way are known from the grammar
alone.  Whatever words are read, each setting belongs to one of these options, and its values are
those that the option has accepted; an option that takes texts of a kind therefore never has a text
of another kind as its value.
-/
import MovePack.Options.Reader
import MovePack.Proofs.Except

namespace MovePack.Options

/-! ## Settings of options -/

/-- The value is what the option makes of some word. -/
def OptionSpec.Accepts (o : OptionSpec) (v : Value) : Prop := ∃ word, o.valueOf word = .ok v

/-- Every setting is one of an option, and holds values that this option accepts. -/
def Settings.AreOf (options : List OptionSpec) (s : Settings) : Prop :=
  ∀ entry ∈ s, ∃ o ∈ options, o.long = entry.1 ∧ ∀ v ∈ entry.2, o.Accepts v

namespace Settings

variable {options options' : List OptionSpec} {s s' : Settings} {long : String} {t : Text}

lemma AreOf.nil : AreOf options [] := nofun

lemma AreOf.append (h : s.AreOf options) (h' : s'.AreOf options) :
    AreOf options (s ++ s') :=
  List.forall_mem_append.mpr ⟨h, h'⟩

lemma AreOf.mono (h : s.AreOf options) (hsub : options ⊆ options') : s.AreOf options' := by
  intro entry hentry
  obtain ⟨o, ho, haccepts⟩ := h entry hentry
  exact ⟨o, hsub ho, haccepts⟩

lemma mem_of_last?_eq_some {values : List Value} (h : s.last? long = some values) :
    (long, values) ∈ s := by
  obtain ⟨entry, hfind, rfl⟩ := Option.map_eq_some_iff.mp h
  have hlong : entry.1 = long := by simpa using List.find?_some hfind
  have hmem := List.mem_reverse.mp (List.mem_of_find?_eq_some hfind)
  rwa [← hlong]

/-- The text of a setting is one that an option of this name accepts. -/
lemma AreOf.exists_of_text? (h : s.AreOf options) (ht : s.text? long = some t) :
    ∃ o ∈ options, o.long = long ∧ o.Accepts (.text t) := by
  obtain ⟨v, hv, hvalue⟩ := List.mem_filterMap.mp (List.mem_of_head? ht)
  cases hlast : s.last? long with
  | none =>
    rw [hlast] at hv
    cases hv
  | some values =>
    rw [hlast] at hv
    obtain ⟨o, ho, hlong, haccepts⟩ := h _ (mem_of_last?_eq_some hlast)
    refine ⟨o, ho, hlong, ?_⟩
    cases v with
    | number n => cases hvalue
    | text t' =>
      cases hvalue
      exact haccepts _ hv

end Settings

/-! ## Options found in words -/

section Words

variable {options : List OptionSpec} {o : OptionSpec} {word name : Text}

/-- If the word names an option, it is one of these. -/
def WordKind.IsOf (options : List OptionSpec) : WordKind → Prop
  | .option o _ _ => o ∈ options
  | _ => True

lemma mem_of_mem_namesOf (h : (name, o) ∈ namesOf options) : o ∈ options := by
  obtain ⟨o', ho', hname⟩ := List.mem_flatMap.mp h
  obtain ⟨_, -, heq⟩ := List.mem_map.mp hname
  cases heq
  exact ho'

lemma mem_of_named?_eq_some (h : named? options name = some o) : o ∈ options := by
  obtain ⟨before, after, heq, -⟩ := List.lookup_eq_some_iff.mp h
  have hmem : (name, o) ∈ namesOf options := heq ▸ List.mem_append_right _ List.mem_cons_self
  exact mem_of_mem_namesOf hmem

lemma mem_of_mem_candidates {candidate : OptionSpec × Text × Option Text}
    (h : candidate ∈ candidates options word) : candidate.1 ∈ options := by
  rw [candidates] at h
  split at h
  · obtain ⟨⟨name, o⟩, hmem, hcandidate⟩ := List.mem_filterMap.mp h
    dsimp only at hcandidate
    split_ifs at hcandidate
    cases hcandidate
    exact mem_of_mem_namesOf hmem
  · obtain ⟨⟨name, o⟩, hmem, hcandidate⟩ := List.mem_filterMap.mp h
    dsimp only at hcandidate
    split_ifs at hcandidate <;>
    · cases hcandidate
      exact mem_of_mem_namesOf hmem

lemma isOf_of_beforeEquals? {kind : WordKind} (h : beforeEquals? options word = some kind) :
    kind.IsOf options := by
  obtain ⟨⟨name, text⟩, -, h⟩ := Option.bind_eq_some_iff.mp h
  obtain ⟨o, ho, h⟩ := Option.bind_eq_some_iff.mp h
  cases h
  exact mem_of_named?_eq_some ho

lemma isOf_of_classifyPartial {kind : WordKind} (h : classifyPartial options word = .ok kind) :
    kind.IsOf options := by
  rw [classifyPartial] at h
  split at h
  next hequals =>
    cases h
    exact isOf_of_beforeEquals? hequals
  next =>
    split at h
    next hcandidates =>
      cases h
      exact mem_of_mem_candidates (hcandidates ▸ List.mem_singleton_self _)
    next =>
      split_ifs at h <;>
      · cases h
        trivial
    next => cases h

lemma isOf_of_classify {kind : WordKind} (h : classify options word = .ok kind) :
    kind.IsOf options := by
  rw [classify] at h
  split at h
  next =>
    cases h
    trivial
  next =>
    split at h
    next o ho =>
      cases h
      exact mem_of_named?_eq_some ho
    next =>
      split at h
      next =>
        cases h
        trivial
      next => exact isOf_of_classifyPartial h

lemma isOf_of_classifyAll {words : List Text} {classified : List (Text × WordKind)}
    (h : classifyAll options words = .ok classified) :
    ∀ entry ∈ classified, entry.2.IsOf options := by
  induction words generalizing classified with
  | nil =>
    cases h
    nofun
  | cons word rest ih =>
    rw [classifyAll] at h
    split_ifs at h with hseparator
    · cases h
      simp [WordKind.IsOf]
    · obtain ⟨kind, hkind, h⟩ := Except.bind_eq_ok_iff.mp h
      obtain ⟨others, hothers, h⟩ := Except.bind_eq_ok_iff.mp h
      cases h
      exact List.forall_mem_cons.mpr ⟨isOf_of_classify hkind, ih hothers⟩

lemma classify_of_head?_ne (h : word.head? ≠ some hyphen) :
    classify options word = .ok .value := by
  rw [classify, if_pos h]

lemma map_fst_of_classifyAll {words : List Text} {classified : List (Text × WordKind)}
    (h : classifyAll options words = .ok classified) : classified.map Prod.fst = words := by
  induction words generalizing classified with
  | nil =>
    cases h
    rfl
  | cons word rest ih =>
    rw [classifyAll] at h
    split_ifs at h with hseparator
    · cases h
      simp [Function.comp_def]
    · obtain ⟨kind, -, h⟩ := Except.bind_eq_ok_iff.mp h
      obtain ⟨others, hothers, h⟩ := Except.bind_eq_ok_iff.mp h
      cases h
      rw [List.map_cons, ih hothers]

lemma exists_classifyAll {words : List Text}
    (h : ∀ word ∈ words, ∃ kind, classify options word = .ok kind) :
    ∃ classified, classifyAll options words = .ok classified := by
  induction words with
  | nil => exact ⟨[], rfl⟩
  | cons word rest ih =>
    obtain ⟨⟨kind, hkind⟩, hrest⟩ := List.forall_mem_cons.mp h
    obtain ⟨others, hothers⟩ := ih hrest
    rw [classifyAll]
    split_ifs with hseparator
    · exact ⟨_, rfl⟩
    · exact ⟨(word, kind) :: others, by rw [hkind, hothers]; rfl⟩

/-- The options in the word are some of these. -/
def Joined.AreOf (options : List OptionSpec) (joined : Joined) : Prop :=
  joined.flags ⊆ options ∧ joined.last ∈ options

lemma areOf_of_spread {t : Text} {joined : Joined} (ho : o ∈ options)
    (h : spread options o t = .ok joined) : joined.AreOf options := by
  induction t generalizing o joined with
  | nil => cases h
  | cons c rest ih =>
    rw [spread] at h
    split at h
    next => cases h
    next next hnext =>
      have hmem := mem_of_named?_eq_some hnext
      split_ifs at h with hempty harity
      · cases h
        exact ⟨List.cons_subset.mpr ⟨ho, List.nil_subset _⟩, hmem⟩
      · cases h
        exact ⟨List.cons_subset.mpr ⟨ho, List.nil_subset _⟩, hmem⟩
      · obtain ⟨inner, hinner, rfl⟩ := Except.map_eq_ok_iff.mp h
        obtain ⟨hflags, hlast⟩ := ih hmem hinner
        exact ⟨List.cons_subset.mpr ⟨ho, hflags⟩, hlast⟩

lemma areOf_of_optionsIn {attached? : Option Text} {joined : Joined} (ho : o ∈ options)
    (h : optionsIn options o name attached? = .ok joined) : joined.AreOf options := by
  cases attached? with
  | none =>
    cases h
    exact ⟨List.nil_subset _, ho⟩
  | some attached =>
    rw [optionsIn] at h
    split_ifs at h
    · cases h
      exact ⟨List.nil_subset _, ho⟩
    · exact areOf_of_spread ho h

end Words

/-! ## Reading one command -/

section Scan

variable {options : List OptionSpec} {o : OptionSpec} {command : Text} {s s' : Settings}

lemma areOf_of_give {words : List Text} (hs : s.AreOf options) (ho : o ∈ options)
    (h : o.give command words s = .ok s') : s'.AreOf options := by
  rw [OptionSpec.give] at h
  split_ifs at h with hhelp
  split at h
  next values hvalues =>
    cases h
    refine hs.append (List.forall_mem_singleton.mpr ⟨o, ho, rfl, fun v hv => ?_⟩)
    obtain ⟨word, -, hword⟩ := (Except.mapM_eq_ok_iff.mp hvalues).exists_of_mem_right hv
    exact ⟨word, hword⟩
  next => cases h

lemma areOf_of_giveAll {flags : List OptionSpec} (hs : s.AreOf options) (hflags : flags ⊆ options)
    (h : giveAll flags command s = .ok s') : s'.AreOf options := by
  induction flags generalizing s with
  | nil =>
    cases h
    exact hs
  | cons o flags ih =>
    obtain ⟨ho, hflags⟩ := List.cons_subset.mp hflags
    obtain ⟨mid, hmid, h⟩ := Except.bind_eq_ok_iff.mp h
    exact ih (areOf_of_give hs ho hmid) hflags h

lemma inCommand_eq_ok_iff {α : Type} {x : Except Problem α} {a : α} :
    inCommand command x = .ok a ↔ x = .ok a := by
  cases x <;> simp [inCommand]

/-- The settings stay settings of the options, word by word. -/
lemma areOf_of_scan {isGroup : Bool} {words : List (Text × WordKind)} {p p' : Progress}
    {rest : List Text} (hwords : ∀ entry ∈ words, entry.2.IsOf options)
    (hp : p.settings.AreOf options)
    (h : scan command options isGroup words p = .ok (p', rest)) : p'.settings.AreOf options := by
  fun_induction scan command options isGroup words p with
  | case1 p =>
    cases h
    exact hp
  | case2 | case4 =>
    cases h
    exact hp
  | case3 _ _ _ _ ih | case5 _ _ _ _ ih | case6 _ _ _ ih =>
    exact ih (List.forall_mem_cons.mp hwords).2 hp h
  | case7 word o name attached? rest p ihAttached ihTaken =>
    obtain ⟨ho, hrest⟩ := List.forall_mem_cons.mp hwords
    obtain ⟨joined, hjoined, h⟩ := Except.bind_eq_ok_iff.mp h
    obtain ⟨hflags, hlast⟩ := areOf_of_optionsIn ho (inCommand_eq_ok_iff.mp hjoined)
    split at h
    next attached hattached =>
      obtain ⟨mid, hmid, h⟩ := Except.bind_eq_ok_iff.mp h
      obtain ⟨settings, hsettings, h⟩ := Except.bind_eq_ok_iff.mp h
      exact ihAttached _ hrest (areOf_of_give (areOf_of_giveAll hp hflags hmid) hlast hsettings) h
    next hattached =>
      obtain ⟨taken, -, h⟩ := Except.bind_eq_ok_iff.mp h
      obtain ⟨mid, hmid, h⟩ := Except.bind_eq_ok_iff.mp h
      obtain ⟨settings, hsettings, h⟩ := Except.bind_eq_ok_iff.mp h
      exact ihTaken _ _ (fun entry hentry => hrest entry (List.mem_of_mem_drop hentry))
        (areOf_of_give (areOf_of_giveAll hp hflags hmid) hlast hsettings) h

end Scan

/-! ## Ways to an action -/

/-- A command leads to one that does something itself, by way of commands with these options. -/
inductive CommandSpec.LeadsTo {α : Type} :
    CommandSpec α → List OptionSpec → (Settings → α) → Prop
  | action {options : List OptionSpec} {build : Settings → α} :
    LeadsTo (.action options build) (.help :: options) build
  | choice {options inner : List OptionSpec} {title name : String}
      {choices : List (String × CommandSpec α)} {spec : CommandSpec α} {build : Settings → α}
      (hmem : (name, spec) ∈ choices) (h : spec.LeadsTo inner build) :
    LeadsTo (.group options title choices) (.help :: options ++ inner) build

section LeadsTo

variable {α : Type} {options inner : List OptionSpec} {title : String}
  {choices : List (String × CommandSpec α)} {build build' : Settings → α}

lemma leadsTo_action_iff :
    (CommandSpec.action options build).LeadsTo inner build' ↔
      inner = .help :: options ∧ build' = build := by
  constructor
  · rintro ⟨⟩
    exact ⟨rfl, rfl⟩
  · rintro ⟨rfl, rfl⟩
    exact .action

lemma leadsTo_group_iff :
    (CommandSpec.group options title choices).LeadsTo inner build ↔
      ∃ choice ∈ choices, ∃ below, choice.2.LeadsTo below build ∧
        inner = .help :: options ++ below := by
  constructor
  · rintro (_ | ⟨hmem, h⟩)
    exact ⟨_, hmem, _, h, rfl⟩
  · rintro ⟨⟨name, spec⟩, hmem, below, h, rfl⟩
    exact .choice hmem h

end LeadsTo

/-- The reading is that of an action, with settings of the options on the way to it. -/
def Reading.IsOf {α : Type} (spec : CommandSpec α) (reading : Reading α) : Prop :=
  ∃ options, spec.LeadsTo options reading.build ∧ reading.settings.AreOf options

section Read

variable {α : Type} {options : List OptionSpec} {command : Text}

/-- The words of an action, step by step. -/
lemma CommandSpec.read_action {build : Settings → α} {words rest : List Text}
    {classified : List (Text × WordKind)} {p : Progress}
    (hclassified : classifyAll (.help :: options) words = .ok classified)
    (hscan : scan command (.help :: options) false classified {} = .ok (p, rest))
    (hmissing : missing (.help :: options) p.settings = []) :
    (CommandSpec.action options build).read command words = .ok ⟨build, p.settings, p.extras⟩ := by
  rw [read]
  simp only [hclassified, inCommand, Except.ok_bind, hscan, hmissing]
  rfl

/-- The first word of a command with sub commands chooses one, unless it looks like an option. -/
lemma CommandSpec.read_group {title : String} {choices : List (String × CommandSpec α)}
    {name : Text} {rest : List Text} {chosen : Reading α} (hname : name.head? ≠ some hyphen)
    (hrest : ∀ word ∈ rest, ∃ kind, classify (.help :: options) word = .ok kind)
    (hmissing : missing (.help :: options) [] = [])
    (hchosen : readChoice choices command title (choices.map Prod.fst) name rest = .ok chosen) :
    (CommandSpec.group options title choices).read command (name :: rest) = .ok chosen := by
  have hseparator : name ≠ separator := by
    rintro rfl
    exact hname rfl
  obtain ⟨classified, hclassified⟩ := exists_classifyAll hrest
  have hscan : scan command (.help :: options) true ((name, .value) :: classified) {} =
      .ok ({}, name :: rest) := by
    rw [scan, if_pos rfl, map_fst_of_classifyAll hclassified]
  rw [read]
  simp only [classifyAll, if_neg hseparator, classify_of_head?_ne hname, hclassified, inCommand,
    hscan, bind, Except.bind, pure, Except.pure, hchosen, hmissing]
  rfl

lemma Reading.IsOf.choice {title name : String}
    {choices : List (String × CommandSpec α)} {spec : CommandSpec α} {chosen : Reading α}
    {s : Settings} {extras : List Text} (hmem : (name, spec) ∈ choices)
    (hchosen : chosen.IsOf spec) (hs : s.AreOf (.help :: options)) :
    Reading.IsOf (.group options title choices)
      ⟨chosen.build, s ++ chosen.settings, extras⟩ := by
  obtain ⟨inner, hleads, hinner⟩ := hchosen
  exact ⟨_, .choice hmem hleads, (hs.mono (List.subset_append_left _ _)).append
    (hinner.mono (List.subset_append_right _ _))⟩

mutual

/-- **Whatever the words, a reading is that of an action, and its settings hold what the options on
the way to it have accepted.** -/
theorem CommandSpec.isOf_of_read : (spec : CommandSpec α) → {command : Text} →
    {words : List Text} → {reading : Reading α} → spec.read command words = .ok reading →
    reading.IsOf spec
  | .action options build, command, words, reading, h => by
    rw [CommandSpec.read] at h
    obtain ⟨classified, hclassified, h⟩ := Except.bind_eq_ok_iff.mp h
    obtain ⟨⟨p, rest⟩, hscan, h⟩ := Except.bind_eq_ok_iff.mp h
    have hp := areOf_of_scan (isOf_of_classifyAll (inCommand_eq_ok_iff.mp hclassified)) .nil hscan
    dsimp only at h
    split at h
    next =>
      cases h
      exact ⟨_, .action, hp⟩
    next => cases h
  | .group options title choices, command, words, reading, h => by
    rw [CommandSpec.read] at h
    obtain ⟨classified, hclassified, h⟩ := Except.bind_eq_ok_iff.mp h
    obtain ⟨⟨p, rest⟩, hscan, h⟩ := Except.bind_eq_ok_iff.mp h
    have hp := areOf_of_scan (isOf_of_classifyAll (inCommand_eq_ok_iff.mp hclassified)) .nil hscan
    dsimp only at h
    split at h
    next => cases h
    next name rest =>
      obtain ⟨chosen, hchosen, h⟩ := Except.bind_eq_ok_iff.mp h
      obtain ⟨known, spec, hmem, hspec⟩ := exists_isOf_of_readChoice choices hchosen
      split at h
      next =>
        cases h
        exact .choice hmem hspec hp
      next => cases h

/-- The reading of the chosen one of sub commands is one of them. -/
theorem exists_isOf_of_readChoice : (choices : List (String × CommandSpec α)) → {command : Text} →
    {title : String} → {names : List String} → {name : Text} → {words : List Text} →
    {reading : Reading α} →
    readChoice choices command title names name words = .ok reading →
    ∃ known spec, (known, spec) ∈ choices ∧ reading.IsOf spec
  | [], _, _, _, _, _, _, h => by
    rw [readChoice] at h
    cases h
  | (known, spec) :: others, _, _, _, _, _, _, h => by
    rw [readChoice] at h
    split_ifs at h
    · exact ⟨known, spec, List.mem_cons_self, spec.isOf_of_read h⟩
    · obtain ⟨known', spec', hmem, hspec⟩ := exists_isOf_of_readChoice others h
      exact ⟨known', spec', List.mem_cons_of_mem _ hmem, hspec⟩

end

end Read

end MovePack.Options
