/-
# Texts in strings

What stands between the quotes of a JSON string is a row of pieces: characters that stand for
themselves, backslashes with a letter, and backslashes with the number of a code point.  Each piece
stands for a character, except that the numbers of a high and a low surrogate next to each other
stand for one character together.  This grammar is said here without the reader, and shown to be
what the reader takes: a string ends at the first quote that is not part of a piece.
-/
import Mathlib.Algebra.Ring.Parity
import Mathlib.Data.List.DropRight
import MovePack.Json.Reader
import MovePack.Proofs.Except
import MovePack.Proofs.Text.CodePoint
import MovePack.Proofs.Text.Hex

namespace MovePack.Json

/-- A piece of what stands between the quotes of a string. -/
inductive Piece where
  /-- A character that stands for itself. -/
  | plain (c : CodePoint)
  /-- A backslash and the letter of a character. -/
  | letter (mark c : Char)
  /-- A backslash, the letter `u` and the number of a code point in four digits. -/
  | number (d₁ d₂ d₃ d₄ c : CodePoint)

/-- The letters of characters. -/
def letters : List (Char × Char) :=
  [('\x22', '\x22'), ('\x5c', '\x5c'), ('/', '/'), ('b', '\x08'), ('f', '\x0c'), ('n', '\n'),
   ('r', '\r'), ('t', '\t')]

/-- The character can stand for itself in a string. -/
def IsPlain (c : CodePoint) : Prop := c ≠ .scalar '\x22' ∧ c ≠ .scalar '\x5c' ∧ 0x20 ≤ c.toNat

namespace Piece

/-- The piece can stand in a string. -/
def IsValid : Piece → Prop
  | plain c => IsPlain c
  | letter mark c => (mark, c) ∈ letters
  | number d₁ d₂ d₃ d₄ c => ∃ a b e f, d₁.hexDigit? = some a ∧ d₂.hexDigit? = some b ∧
      d₃.hexDigit? = some e ∧ d₄.hexDigit? = some f ∧
      c.toNat = ((a * 16 + b) * 16 + e) * 16 + f

/-- The text of a piece. -/
def text : Piece → Text
  | plain c => [c]
  | letter mark _ => [.scalar '\x5c', .scalar mark]
  | number d₁ d₂ d₃ d₄ _ => [.scalar '\x5c', .scalar 'u', d₁, d₂, d₃, d₄]

/-- The character that a piece stands for on its own. -/
def character : Piece → CodePoint
  | plain c => c
  | letter _ c => .scalar c
  | number _ _ _ _ c => c

/-- The character that two pieces stand for together. -/
def joined? : Piece → Piece → Option CodePoint
  | number _ _ _ _ c, number _ _ _ _ c' => c.joined? c'
  | _, _ => none

end Piece

/-- The text that a row of pieces stands for. -/
def meaning : List Piece → Text
  | p :: q :: rest =>
    match p.joined? q with
    | some both => both :: meaning rest
    | none => p.character :: meaning (q :: rest)
  | [p] => [p.character]
  | [] => []

/-- Between quotes, the first text stands for the second one. -/
def IsEscaped (t s : Text) : Prop :=
  ∃ pieces : List Piece, (∀ p ∈ pieces, p.IsValid) ∧ t = pieces.flatMap Piece.text ∧
    s = meaning pieces

/-! ## What the reader takes for a piece -/

lemma simpleEscape?_eq_some_iff {mark c : CodePoint} :
    Reader.simpleEscape? mark = some c ↔
      ∃ m x, mark = .scalar m ∧ c = .scalar x ∧ (m, x) ∈ letters := by
  constructor
  · intro h
    unfold Reader.simpleEscape? at h
    split at h <;> cases h <;> exact ⟨_, _, rfl, rfl, by decide⟩
  · rintro ⟨m, x, rfl, rfl, h⟩
    simp only [letters, List.mem_cons, List.not_mem_nil, or_false, Prod.mk.injEq] at h
    rcases h with ⟨rfl, rfl⟩ | ⟨rfl, rfl⟩ | ⟨rfl, rfl⟩ | ⟨rfl, rfl⟩ | ⟨rfl, rfl⟩ | ⟨rfl, rfl⟩ |
      ⟨rfl, rfl⟩ | ⟨rfl, rfl⟩ <;> rfl

lemma escapedCodePoint?_eq_some_iff {d₁ d₂ d₃ d₄ c : CodePoint} :
    Reader.escapedCodePoint? d₁ d₂ d₃ d₄ = some c ↔ (Piece.number d₁ d₂ d₃ d₄ c).IsValid := by
  rw [Reader.escapedCodePoint?, Piece.IsValid]
  constructor
  · intro h
    split at h
    next a b e f h₁ h₂ h₃ h₄ =>
      exact ⟨a, b, e, f, h₁, h₂, h₃, h₄, CodePoint.ofNat?_eq_some_iff.mp h⟩
    next => cases h
  · rintro ⟨a, b, e, f, h₁, h₂, h₃, h₄, hc⟩
    rw [h₁, h₂, h₃, h₄]
    exact CodePoint.ofNat?_eq_some_iff.mpr hc

/-! ## Numbers next to each other -/

lemma meaning_cons_of_joined? {p q : Piece} {rest : List Piece} {both : CodePoint}
    (h : p.joined? q = some both) : meaning (p :: q :: rest) = both :: meaning rest := by
  rw [meaning, h]

/-- A piece that is not joined to the next one stands for its own character. -/
lemma meaning_cons {p : Piece} {pieces : List Piece}
    (h : ∀ q ∈ pieces.head?, p.joined? q = none) :
    meaning (p :: pieces) = p.character :: meaning pieces := by
  cases pieces with
  | nil => rfl
  | cons q rest => rw [meaning, h q rfl]

/-- The reader joins a number to the character that comes next. -/
lemma meaning_number_number (d₁ d₂ d₃ d₄ c e₁ e₂ e₃ e₄ c' : CodePoint) (rest : List Piece) :
    meaning (.number d₁ d₂ d₃ d₄ c :: .number e₁ e₂ e₃ e₄ c' :: rest) =
      Reader.joinEscapes c (meaning (.number e₁ e₂ e₃ e₄ c' :: rest)) := by
  cases hjoined : c.joined? c' with
  | some both =>
    -- a low surrogate is joined to nothing behind it
    obtain ⟨-, hlow⟩ := CodePoint.exists_of_joined? hjoined
    have hnext : ∀ q ∈ rest.head?, (Piece.number e₁ e₂ e₃ e₄ c').joined? q = none := by
      intro q _
      cases q with
      | number => exact hlow _
      | _ => rfl
    have hboth : (Piece.number d₁ d₂ d₃ d₄ c).joined? (.number e₁ e₂ e₃ e₄ c') = some both :=
      hjoined
    rw [meaning_cons_of_joined? hboth, meaning_cons hnext, Reader.joinEscapes, Piece.character,
      hjoined]
  | none =>
    rw [meaning_cons fun q hq => Option.some.inj hq ▸ hjoined, Piece.character]
    -- what comes next is the second number, or the character that it makes up with a third one
    obtain ⟨head, tail, hmeaning, hhead⟩ : ∃ head tail,
        meaning (.number e₁ e₂ e₃ e₄ c' :: rest) = head :: tail ∧ c.joined? head = none := by
      cases rest with
      | nil => exact ⟨c', [], rfl, hjoined⟩
      | cons q rest =>
        cases hboth : (Piece.number e₁ e₂ e₃ e₄ c').joined? q with
        | none => exact ⟨c', _, meaning_cons fun q' hq' => Option.some.inj hq' ▸ hboth, hjoined⟩
        | some both =>
          refine ⟨both, _, meaning_cons_of_joined? hboth, ?_⟩
          cases q with
          | number f₁ f₂ f₃ f₄ c'' =>
            obtain ⟨⟨x, rfl⟩, -⟩ := CodePoint.exists_of_joined? (a := c') (b := c'') hboth
            cases c <;> rfl
          | _ => cases hboth
    rw [hmeaning, Reader.joinEscapes, hhead]

/-- The reader looks for a further number where one comes next. -/
lemma beginsEscape_iff {pieces : List Piece} (h : ∀ p ∈ pieces, p.IsValid) (tail : Text) :
    Reader.beginsEscape (pieces.flatMap Piece.text ++ .scalar '\x22' :: tail) = true ↔
      ∃ d₁ d₂ d₃ d₄ c rest, pieces = .number d₁ d₂ d₃ d₄ c :: rest := by
  rw [Reader.beginsEscape, Text.startsWith, List.isPrefixOf_iff_prefix]
  cases pieces with
  | nil => simp [Text.ofString]
  | cons p rest =>
    cases p with
    | plain c =>
      have hplain : IsPlain c := h _ List.mem_cons_self
      simp [Text.ofString, Piece.text, hplain.2.1.symm]
    | letter mark c =>
      have hmark : mark ≠ 'u' := by
        rintro rfl
        have hletter : ('u', c) ∈ letters := h _ List.mem_cons_self
        simp [letters] at hletter
      simp [Text.ofString, Piece.text, hmark.symm]
    | number d₁ d₂ d₃ d₄ c => simp [Text.ofString, Piece.text]

lemma meaning_number_cons (d₁ d₂ d₃ d₄ c : CodePoint) {pieces : List Piece}
    (h : ∀ p ∈ pieces, p.IsValid) (tail : Text) :
    meaning (.number d₁ d₂ d₃ d₄ c :: pieces) =
      if Reader.beginsEscape (pieces.flatMap Piece.text ++ .scalar '\x22' :: tail) then
        Reader.joinEscapes c (meaning pieces)
      else c :: meaning pieces := by
  split_ifs with hbegins
  · obtain ⟨e₁, e₂, e₃, e₄, c', rest, rfl⟩ := (beginsEscape_iff h tail).mp hbegins
    exact meaning_number_number ..
  · refine meaning_cons fun q hq => ?_
    cases q with
    | number e₁ e₂ e₃ e₄ c' =>
      obtain ⟨rest, rfl⟩ := List.head?_eq_some_iff.mp hq
      exact absurd ((beginsEscape_iff h tail).mpr ⟨_, _, _, _, _, _, rfl⟩) hbegins
    | _ => rfl

/-! ## Reading a string -/

section Steps

variable (opening rest : Text) {c : CodePoint}

lemma string_quote : Reader.string opening (.scalar '\x22' :: rest) = .ok ([], rest) := by
  rw [Reader.string.eq_def]
  exact if_pos rfl

lemma string_plain (hc : IsPlain c) :
    Reader.string opening (c :: rest) =
      (Reader.string opening rest).map fun found => (c :: found.1, found.2) := by
  obtain ⟨hquote, hbackslash, hcontrol⟩ := hc
  rw [Reader.string.eq_def]
  simp [hquote, hbackslash, Nat.not_lt.mpr hcontrol]

lemma string_letter {mark x : Char} (h : (mark, x) ∈ letters) :
    Reader.string opening (.scalar '\x5c' :: .scalar mark :: rest) =
      (Reader.string opening rest).map fun found => (.scalar x :: found.1, found.2) := by
  have hescape := simpleEscape?_eq_some_iff.mpr ⟨mark, x, rfl, rfl, h⟩
  have hmark : mark ≠ 'u' := by
    rintro rfl
    cases hescape
  rw [Reader.string.eq_def]
  simp [hmark, hescape]

lemma string_number {d₁ d₂ d₃ d₄ : CodePoint} (h : (Piece.number d₁ d₂ d₃ d₄ c).IsValid)
    (next : CodePoint) :
    Reader.string opening (.scalar '\x5c' :: .scalar 'u' :: d₁ :: d₂ :: d₃ :: d₄ :: next :: rest) =
      (Reader.string opening (next :: rest)).map fun found =>
        (if Reader.beginsEscape (next :: rest) then Reader.joinEscapes c found.1 else c :: found.1,
          found.2) := by
  have hescape := escapedCodePoint?_eq_some_iff.mpr h
  rw [Reader.string.eq_def]
  simp [hescape]

end Steps

/-- The reader takes a row of pieces up to a quote for what they stand for. -/
lemma string_pieces (opening : Text) {pieces : List Piece} (h : ∀ p ∈ pieces, p.IsValid)
    (tail : Text) :
    Reader.string opening (pieces.flatMap Piece.text ++ .scalar '\x22' :: tail) =
      .ok (meaning pieces, tail) := by
  induction pieces with
  | nil => exact string_quote opening tail
  | cons p pieces ih =>
    obtain ⟨hp, hpieces⟩ := List.forall_mem_cons.mp h
    rw [List.flatMap_cons, List.append_assoc]
    cases p with
    | plain c =>
      rw [Piece.text, List.singleton_append, string_plain opening _ hp, ih hpieces,
        meaning_cons fun q _ => rfl]
      rfl
    | letter mark c =>
      change Reader.string opening (.scalar '\x5c' :: .scalar mark ::
        (pieces.flatMap Piece.text ++ .scalar '\x22' :: tail)) = _
      rw [string_letter opening _ hp, ih hpieces, meaning_cons fun q _ => rfl]
      rfl
    | number d₁ d₂ d₃ d₄ c =>
      have hread := ih hpieces
      have hmeaning := meaning_number_cons d₁ d₂ d₃ d₄ c hpieces tail
      -- the reader looks at one more character behind the digits, which is the quote at the latest
      obtain ⟨next, rest, hnext⟩ : ∃ next rest,
          pieces.flatMap Piece.text ++ .scalar '\x22' :: tail = next :: rest :=
        List.exists_cons_of_ne_nil (by simp)
      rw [hnext] at hread hmeaning ⊢
      change Reader.string opening (.scalar '\x5c' :: .scalar 'u' :: d₁ :: d₂ :: d₃ :: d₄ :: next ::
        rest) = _
      rw [string_number opening rest hp next, hread, hmeaning]
      rfl

/-- What the reader takes is a row of pieces up to a quote. -/
lemma exists_pieces_of_string {opening t s tail : Text}
    (h : Reader.string opening t = .ok (s, tail)) :
    ∃ pieces : List Piece, (∀ p ∈ pieces, p.IsValid) ∧
      t = pieces.flatMap Piece.text ++ .scalar '\x22' :: tail := by
  fun_induction Reader.string opening t generalizing s tail with
  | case2 rest =>
    cases h
    exact ⟨[], by simp, rfl⟩
  | case4 d₁ d₂ d₃ d₄ next rest c hescape hquote ih =>
    obtain ⟨⟨s', tail'⟩, hread, heq⟩ := Except.map_eq_ok_iff.mp h
    cases heq
    obtain ⟨pieces, hpieces, ht⟩ := ih hread
    refine ⟨.number d₁ d₂ d₃ d₄ c :: pieces, List.forall_mem_cons.mpr
      ⟨escapedCodePoint?_eq_some_iff.mp hescape, hpieces⟩, ?_⟩
    rw [ht]
    rfl
  | case7 mark rest hmark c hescape hquote ih =>
    obtain ⟨⟨s', tail'⟩, hread, heq⟩ := Except.map_eq_ok_iff.mp h
    cases heq
    obtain ⟨pieces, hpieces, ht⟩ := ih hread
    obtain ⟨m, x, rfl, rfl, hletter⟩ := simpleEscape?_eq_some_iff.mp hescape
    exact ⟨.letter m x :: pieces, List.forall_mem_cons.mpr ⟨hletter, hpieces⟩, by rw [ht]; rfl⟩
  | case10 c rest hquote hbackslash hcontrol ih =>
    obtain ⟨⟨s', tail'⟩, hread, heq⟩ := Except.map_eq_ok_iff.mp h
    cases heq
    obtain ⟨pieces, hpieces, ht⟩ := ih hread
    exact ⟨.plain c :: pieces, List.forall_mem_cons.mpr
      ⟨⟨hquote, hbackslash, Nat.le_of_not_lt hcontrol⟩, hpieces⟩, by rw [ht]; rfl⟩
  | _ => cases h

/-- A string is read up to the first quote that is not escaped. -/
theorem string_eq_ok_iff {opening t s tail : Text} :
    Reader.string opening t = .ok (s, tail) ↔
      ∃ body, IsEscaped body s ∧ t = body ++ .scalar '\x22' :: tail := by
  constructor
  · intro h
    obtain ⟨pieces, hpieces, rfl⟩ := exists_pieces_of_string h
    rw [string_pieces opening hpieces tail] at h
    cases h
    exact ⟨_, ⟨pieces, hpieces, rfl, rfl⟩, rfl⟩
  · rintro ⟨_, ⟨pieces, hpieces, rfl, rfl⟩, rfl⟩
    exact string_pieces opening hpieces tail

variable {t s s' : Text}

/-- A text stands for one text at most. -/
theorem IsEscaped.unique (h : IsEscaped t s) (h' : IsEscaped t s') : s = s' := by
  have hread := (@string_eq_ok_iff [] _ s []).mpr ⟨t, h, rfl⟩
  rw [string_eq_ok_iff.mpr ⟨t, h', rfl⟩] at hread
  cases hread
  rfl

/-- Characters that can stand for themselves do so. -/
lemma isEscaped_self (h : ∀ c ∈ t, IsPlain c) : IsEscaped t t := by
  refine ⟨t.map .plain, List.forall_mem_map.mpr h, ?_, ?_⟩
  · simp [List.flatMap_map, Piece.text]
  · clear h
    induction t with
    | nil => rfl
    | cons c t ih => rw [List.map_cons, meaning_cons fun q _ => rfl, ← ih, Piece.character]

/-! ## A text between quotes -/

lemma skipSpace_quote (rest : Text) :
    Reader.skipSpace (.scalar '\x22' :: rest) = .scalar '\x22' :: rest :=
  List.dropWhile_cons_of_neg (by decide)

/-- A document that begins with a quote is a string and white space. -/
lemma document_quote (rest : Text) :
    Reader.document (.scalar '\x22' :: rest) =
      match Reader.string (.scalar '\x22' :: rest) rest with
      | .error stop => .error stop
      | .ok (s, tail) =>
        match Reader.skipSpace tail with
        | [] => .ok (.str s)
        | tail => Reader.stop .extraData tail := by
  rw [Reader.document, skipSpace_quote]
  simp only [Reader.value]
  cases Reader.string (.scalar '\x22' :: rest) rest <;> rfl

/-- A text between quotes is read as a string, and the quote at the end is the one that ends it. -/
theorem ofText_between_eq_ok_iff {v : Json} :
    Json.ofText (t.between '\x22') = .ok v ↔ ∃ s, IsEscaped t s ∧ v = .str s := by
  have hdocument : Json.ofText (t.between '\x22') = .ok v ↔
      Reader.document (.scalar '\x22' :: (t ++ [.scalar '\x22'])) = .ok v := by
    rw [Json.ofText, if_neg (by simp [Text.between, CodePoint.toNat]), ofUnmarkedText, Text.between]
    cases Reader.document (.scalar '\x22' :: (t ++ [.scalar '\x22'])) <;> simp
  rw [hdocument, document_quote]
  constructor
  · intro h
    split at h
    next => cases h
    next s tail hread =>
      obtain ⟨body, hbody, ht⟩ := string_eq_ok_iff.mp hread
      -- if the string ended before, a quote would be left over
      rcases List.eq_nil_or_concat tail with rfl | ⟨front, last, rfl⟩
      · obtain ⟨rfl, -⟩ := List.append_inj' ht rfl
        cases h
        exact ⟨s, hbody, rfl⟩
      · rw [List.concat_eq_append, ← List.cons_append, ← List.append_assoc] at ht
        obtain ⟨-, hlast⟩ := List.append_inj' ht rfl
        cases hlast
        split at h
        next hspace =>
          have hquote := List.dropWhile_eq_nil_iff.mp hspace (.scalar '\x22') (by simp)
          exact absurd hquote (by decide)
        next => cases h
  · rintro ⟨s, hs, rfl⟩
    rw [string_eq_ok_iff.mpr ⟨t, hs, rfl⟩]
    rfl

/-! ## Quotes and backslashes -/

/-- The number of backslashes at the end of a text. -/
def trailingBackslashes (t : Text) : Nat := (t.rtakeWhile (· = .scalar '\x5c')).length

lemma trailingBackslashes_concat (t : Text) (c : CodePoint) :
    trailingBackslashes (t ++ [c]) =
      if c = .scalar '\x5c' then trailingBackslashes t + 1 else 0 := by
  rw [trailingBackslashes, List.rtakeWhile_concat]
  split_ifs <;> simp_all [trailingBackslashes]

lemma scalar_ne_of_hexDigit? {c : CodePoint} {x : Char} {d : Nat} (h : c.hexDigit? = some d)
    (hx : (CodePoint.scalar x).hexDigit? = none) : c ≠ .scalar x := by
  rintro rfl
  rw [hx] at h
  cases h

/-- Backslashes at the end of pieces come in pairs. -/
lemma even_trailingBackslashes {pieces : List Piece} (h : ∀ p ∈ pieces, p.IsValid) :
    Even (trailingBackslashes (pieces.flatMap Piece.text)) := by
  induction pieces using List.reverseRecOn with
  | nil => exact Even.zero
  | append_singleton pieces p ih =>
    obtain ⟨hpieces, hp⟩ := List.forall_mem_append.mp h
    have hp : p.IsValid := hp p (List.mem_singleton_self p)
    rw [List.flatMap_append, List.flatMap_singleton]
    cases p with
    | plain c =>
      obtain ⟨-, hbackslash, -⟩ := hp
      rw [Piece.text, trailingBackslashes_concat, if_neg hbackslash]
      exact Even.zero
    | letter mark c =>
      -- a backslash that is a letter follows the one of its piece
      rw [Piece.text, ← List.singleton_append, ← List.append_assoc, trailingBackslashes_concat,
        trailingBackslashes_concat, if_pos rfl]
      split_ifs
      · exact (ih hpieces).add even_two
      · exact Even.zero
    | number d₁ d₂ d₃ d₄ c =>
      obtain ⟨a, b, e, f, -, -, -, hd₄, -⟩ := hp
      have htext : (Piece.number d₁ d₂ d₃ d₄ c).text =
          [.scalar '\x5c', .scalar 'u', d₁, d₂, d₃] ++ [d₄] := rfl
      rw [htext, ← List.append_assoc, trailingBackslashes_concat,
        if_neg (scalar_ne_of_hexDigit? hd₄ (by decide))]
      exact Even.zero

/-- A quote in a piece is its letter. -/
lemma eq_of_text_eq_quote {p : Piece} {before after : Text} (hp : p.IsValid)
    (h : p.text = before ++ .scalar '\x22' :: after) : before = [.scalar '\x5c'] := by
  have hmem : CodePoint.scalar '\x22' ∈ p.text := by simp [h]
  cases p with
  | plain c =>
    obtain ⟨hquote, -, -⟩ := hp
    exact absurd (List.mem_singleton.mp hmem).symm hquote
  | letter mark c =>
    rcases before with _ | ⟨x, _ | ⟨y, before⟩⟩
    · cases h
    · cases h
      rfl
    · simp [Piece.text] at h
  | number d₁ d₂ d₃ d₄ c =>
    obtain ⟨a, b, e, f, hd₁, hd₂, hd₃, hd₄, -⟩ := hp
    have hdigit : ∀ {d : CodePoint} {n : Nat}, d.hexDigit? = some n → .scalar '\x22' ≠ d :=
      fun hd => (scalar_ne_of_hexDigit? hd (by decide)).symm
    simp [Piece.text, hdigit hd₁, hdigit hd₂, hdigit hd₃, hdigit hd₄] at hmem

/-- A quote among pieces stands behind pieces and a backslash. -/
lemma exists_pieces_before_quote {pieces : List Piece} (h : ∀ p ∈ pieces, p.IsValid)
    {before after : Text} (ht : pieces.flatMap Piece.text = before ++ .scalar '\x22' :: after) :
    ∃ front : List Piece, (∀ p ∈ front, p.IsValid) ∧
      before = front.flatMap Piece.text ++ [.scalar '\x5c'] := by
  induction pieces generalizing before with
  | nil => simp at ht
  | cons p pieces ih =>
    obtain ⟨hp, hpieces⟩ := List.forall_mem_cons.mp h
    rw [List.flatMap_cons, List.append_eq_append_iff] at ht
    obtain ⟨before', rfl, hrest⟩ | ⟨within, htext, hrest⟩ := ht
    · obtain ⟨front, hfront, rfl⟩ := ih hpieces hrest
      exact ⟨p :: front, List.forall_mem_cons.mpr ⟨hp, hfront⟩, by simp⟩
    · cases within with
      | nil =>
        obtain ⟨front, -, hfront⟩ := @ih hpieces [] hrest.symm
        simp at hfront
      | cons c within =>
        cases hrest
        exact ⟨[], by simp, eq_of_text_eq_quote hp htext⟩

/-- In a text that stands for another one every quote follows an odd number of backslashes, and an
even number of them stands at the end. -/
lemma IsEscaped.backslashes (h : IsEscaped t s) :
    (∀ before after, t = before ++ .scalar '\x22' :: after → Odd (trailingBackslashes before)) ∧
      Even (trailingBackslashes t) := by
  obtain ⟨pieces, hpieces, rfl, -⟩ := h
  refine ⟨fun before after ht => ?_, even_trailingBackslashes hpieces⟩
  obtain ⟨front, hfront, rfl⟩ := exists_pieces_before_quote hpieces ht
  rw [trailingBackslashes_concat, if_pos rfl]
  exact (even_trailingBackslashes hfront).add_one

end MovePack.Json
