/-
# Steps that succeed

A step after another succeeds when both do, and a result that is turned into another one has been
found before.  Results and faults are turned into others step by step.  What is known of the results
of steps and of their faults is known of steps after each other.  A row of steps succeeds when each
of them does, and fails with the first of them that does not.
-/
import Mathlib.Data.List.Forall2
import Mathlib.Tactic.Basic
import Mathlib.Tactic.SplitIfs

namespace List.Forall₂

variable {α β : Type} {R : α → β → Prop} {l : List α} {r : List β}

lemma exists_of_mem_left (h : Forall₂ R l r) {a : α} (ha : a ∈ l) : ∃ b ∈ r, R a b := by
  induction h with
  | nil => cases ha
  | cons hb _ ih =>
    obtain rfl | ha := mem_cons.mp ha
    · exact ⟨_, mem_cons_self, hb⟩
    · obtain ⟨b, hbr, hb⟩ := ih ha
      exact ⟨b, mem_cons_of_mem _ hbr, hb⟩

lemma exists_of_mem_right (h : Forall₂ R l r) {b : β} (hb : b ∈ r) : ∃ a ∈ l, R a b :=
  exists_of_mem_left h.flip hb

/-- Members that each have a partner have them in a row. -/
lemma exists_of_forall (h : ∀ a ∈ l, ∃ b, R a b) : ∃ r, Forall₂ R l r := by
  induction l with
  | nil => exact ⟨[], .nil⟩
  | cons a l ih =>
    obtain ⟨⟨b, hb⟩, hl⟩ := forall_mem_cons.mp h
    obtain ⟨r, hr⟩ := ih hl
    exact ⟨b :: r, .cons hb hr⟩

/-- Members without the ones at a place are partners in a row. -/
lemma eraseIdx (h : Forall₂ R l r) (k : Nat) : Forall₂ R (l.eraseIdx k) (r.eraseIdx k) := by
  induction h generalizing k with
  | nil => exact .nil
  | cons hb hrest ih =>
    cases k with
    | zero => exact hrest
    | succ k => exact .cons hb (ih k)

end List.Forall₂

namespace Except

variable {ε α β : Type} {x : Except ε α} {b : β}

lemma ok_bind (a : α) (f : α → Except ε β) : (.ok a : Except ε α) >>= f = f a := rfl

lemma bind_eq_ok_iff {f : α → Except ε β} : x >>= f = .ok b ↔ ∃ a, x = .ok a ∧ f a = .ok b := by
  cases x <;> simp [bind, Except.bind]

lemma map_eq_ok_iff {f : α → β} : x.map f = .ok b ↔ ∃ a, x = .ok a ∧ f a = b := by
  cases x <;> simp [Except.map]

lemma map_eq_error_iff {f : α → β} {e : ε} : x.map f = .error e ↔ x = .error e := by
  cases x <;> simp [Except.map]

/-- A result behind a refusal is that of what follows when nothing is refused. -/
lemma refuse_eq_ok_iff {γ : Type} {c : Prop} [Decidable c] {e : ε} {f : γ → Except ε β}
    {y : Except ε β} : (if c then throw e >>= f else y) = .ok b ↔ ¬ c ∧ y = .ok b := by
  split_ifs with h <;> simp [h, bind_eq_ok_iff, throw, throwThe, MonadExceptOf.throw]

lemma mapError_eq_ok_iff {δ : Type} {f : ε → δ} {a : α} : x.mapError f = .ok a ↔ x = .ok a := by
  cases x <;> simp [Except.mapError]

lemma mapError_eq_error_iff {δ : Type} {f : ε → δ} {d : δ} :
    x.mapError f = .error d ↔ ∃ e, x = .error e ∧ f e = d := by
  cases x <;> simp [Except.mapError]

/-! ## Turning results and faults into others -/

section Turn

variable {γ δ : Type}

lemma throw_bind (e : ε) (f : α → Except ε β) : (throw e : Except ε α) >>= f = throw e := rfl

lemma mapError_throw (g : ε → δ) (e : ε) : (throw e : Except ε α).mapError g = throw (g e) := rfl

lemma mapError_pure (g : ε → δ) (a : α) : (pure a : Except ε α).mapError g = pure a := rfl

lemma mapError_bind (g : ε → δ) (x : Except ε α) (f : α → Except ε β) :
    (x >>= f).mapError g = x.mapError g >>= fun a => (f a).mapError g := by
  cases x <;> rfl

lemma map_bind (g : β → γ) (x : Except ε α) (f : α → Except ε β) :
    (x >>= f).map g = x >>= fun a => (f a).map g := by
  cases x <;> rfl

end Turn

/-! ## What is known of results and faults -/

/-- The outcome is a result with the one property or a fault with the other. -/
inductive Settles (P : α → Prop) (E : ε → Prop) : Except ε α → Prop
  | ok {a : α} (h : P a) : Settles P E (.ok a)
  | error {e : ε} (h : E e) : Settles P E (.error e)

namespace Settles

variable {P : α → Prop} {Q : β → Prop} {E : ε → Prop} {x : Except ε α}

lemma bind {f : α → Except ε β} (hx : Settles P E x) (hf : ∀ a, P a → Settles Q E (f a)) :
    Settles Q E (x >>= f) := by
  cases hx with
  | ok h => exact hf _ h
  | error h => exact error h

lemma map {f : α → β} (hx : Settles P E x) (hf : ∀ a, P a → Q (f a)) :
    Settles Q E (x.map f) := by
  cases hx with
  | ok h => exact ok (hf _ h)
  | error h => exact error h

lemma mono {P' : α → Prop} (hx : Settles P E x) (h : ∀ a, P a → P' a) : Settles P' E x := by
  cases hx with
  | ok ha => exact ok (h _ ha)
  | error he => exact error he

end Settles

/-! ## Rows of steps -/

variable {f : α → Except ε β} {l : List α}

lemma mapM_eq_ok_iff {r : List β} :
    l.mapM f = .ok r ↔ List.Forall₂ (fun a b => f a = .ok b) l r := by
  induction l generalizing r with
  | nil => simp [pure, Except.pure, eq_comm]
  | cons a l ih =>
    simp only [List.mapM_cons, bind_eq_ok_iff, ih, List.forall₂_cons_left_iff]
    constructor
    · rintro ⟨b, hb, r, hr, h⟩
      cases h
      exact ⟨b, r, hb, hr, rfl⟩
    · rintro ⟨b, r, hb, hr, rfl⟩
      exact ⟨b, hb, r, hr, rfl⟩

lemma exists_mapM_eq_ok_and_map_eq_iff {γ : Type} {g : β → γ} {r : List γ} :
    (∃ s, l.mapM f = .ok s ∧ s.map g = r) ↔
      List.Forall₂ (fun a c => ∃ b, f a = .ok b ∧ g b = c) l r := by
  simp only [mapM_eq_ok_iff]
  constructor
  · rintro ⟨s, h, rfl⟩
    exact List.forall₂_map_right_iff.mpr (h.imp fun a b hb => ⟨b, hb, rfl⟩)
  · intro h
    induction h with
    | nil => exact ⟨[], .nil, rfl⟩
    | cons hb _ ih =>
      obtain ⟨b, hb, rfl⟩ := hb
      obtain ⟨s, hs, rfl⟩ := ih
      exact ⟨b :: s, .cons hb hs, rfl⟩

/-- Each step of a row that succeeds has succeeded. -/
lemma exists_of_mapM_eq_ok {r : List β} (h : l.mapM f = .ok r) {a : α} (ha : a ∈ l) :
    ∃ b ∈ r, f a = .ok b :=
  (mapM_eq_ok_iff.mp h).exists_of_mem_left ha

/-- A row of steps fails with the fault of the first one that does. -/
lemma mapM_eq_error_iff {e : ε} :
    l.mapM f = .error e ↔ ∃ before a after, l = before ++ a :: after ∧
      (∀ b ∈ before, ∃ c, f b = .ok c) ∧ f a = .error e := by
  induction l with
  | nil => simp [pure, Except.pure]
  | cons a l ih =>
    rw [List.mapM_cons]
    cases ha : f a with
    | error e' =>
      constructor
      · intro h
        cases h
        exact ⟨[], a, l, rfl, by simp, ha⟩
      · rintro ⟨_ | ⟨first, before⟩, a', after, heq, hbefore, ha'⟩ <;> cases heq
        · cases ha.symm.trans ha'
          rfl
        · obtain ⟨c, hc⟩ := hbefore a List.mem_cons_self
          cases ha.symm.trans hc
    | ok b =>
      -- what follows a step that succeeds decides
      have hrest : ((.ok b : Except ε β) >>= fun b => l.mapM f >>= fun r => pure (b :: r)) =
          .error e ↔ l.mapM f = .error e := by
        cases l.mapM f <;> simp [bind, Except.bind, pure, Except.pure]
      rw [hrest, ih]
      constructor
      · rintro ⟨before, a', after, rfl, hbefore, ha'⟩
        exact ⟨a :: before, a', after, rfl, List.forall_mem_cons.mpr ⟨⟨b, ha⟩, hbefore⟩, ha'⟩
      · rintro ⟨_ | ⟨first, before⟩, a', after, heq, hbefore, ha'⟩ <;> cases heq
        · cases ha.symm.trans ha'
        · exact ⟨before, a', after, rfl, (List.forall_mem_cons.mp hbefore).2, ha'⟩

/-- A row of steps fails because one of them does. -/
lemma exists_of_mapM_eq_error {e : ε} (h : l.mapM f = .error e) : ∃ a ∈ l, f a = .error e := by
  obtain ⟨before, a, after, rfl, -, ha⟩ := mapM_eq_error_iff.mp h
  exact ⟨a, List.mem_append_right before List.mem_cons_self, ha⟩

/-- A row of steps succeeds when each of them does. -/
lemma exists_mapM_eq_ok (h : ∀ a ∈ l, ∃ b, f a = .ok b) : ∃ r, l.mapM f = .ok r := by
  simp only [mapM_eq_ok_iff]
  exact List.Forall₂.exists_of_forall h

end Except
