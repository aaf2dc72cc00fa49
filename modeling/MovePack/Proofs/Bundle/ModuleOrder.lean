/-
# The order of modules

Modules are compared by the bytes of their address, and under one address by the code points of
their name.  Both comparisons are lexicographic, so modules are linearly ordered, and an ascending
list of modules without repetitions is determined by its members.
-/
import Mathlib.Data.List.Basic
import MovePack.Bytecode.ModuleId
import MovePack.Proofs.Text.CodePoint

namespace MovePack

open Std

/-! ## Comparing through a function -/

section Through

variable {α β : Type} (cmp : β → β → Ordering)

lemma transCmp_through [TransCmp cmp] (f : α → β) : TransCmp fun a b => cmp (f a) (f b) where
  eq_swap := OrientedCmp.eq_swap
  isLE_trans := TransCmp.isLE_trans

lemma lawfulEqCmp_through [LawfulEqCmp cmp] {f : α → β} (hf : Function.Injective f) :
    LawfulEqCmp fun a b => cmp (f a) (f b) where
  compare_self := ReflCmp.compare_self
  eq_of_compare h := hf (LawfulEqCmp.eq_of_compare h)

end Through

/-! ## The comparisons are linear -/

lemma Text.compare_eq_compareLex :
    Text.compare = List.compareLex fun a b : CodePoint => Ord.compare a.toNat b.toNat := by
  funext s t
  induction s generalizing t with
  | nil => cases t <;> rfl
  | cons a s ih =>
    cases t with
    | nil => rfl
    | cons b t => rw [Text.compare, List.compareLex_cons_cons, ih]

lemma Bytes.compare_eq_compareLex :
    Bytes.compare = List.compareLex fun a b : UInt8 => Ord.compare a.toNat b.toNat := by
  funext s t
  induction s generalizing t with
  | nil => cases t <;> rfl
  | cons a s ih =>
    cases t with
    | nil => rfl
    | cons b t => rw [Bytes.compare, List.compareLex_cons_cons, ih]

instance : TransCmp Text.compare := by
  rw [Text.compare_eq_compareLex]
  have := transCmp_through Ord.compare CodePoint.toNat
  infer_instance

instance : LawfulEqCmp Text.compare := by
  rw [Text.compare_eq_compareLex]
  have := lawfulEqCmp_through Ord.compare CodePoint.toNat_injective
  infer_instance

instance : TransCmp Bytes.compare := by
  rw [Bytes.compare_eq_compareLex]
  have := transCmp_through Ord.compare UInt8.toNat
  infer_instance

instance : LawfulEqCmp Bytes.compare := by
  rw [Bytes.compare_eq_compareLex]
  have := lawfulEqCmp_through Ord.compare
    (fun a b h => UInt8.toNat_inj.mp h : Function.Injective UInt8.toNat)
  infer_instance

lemma Address.bytes_injective : Function.Injective Address.bytes := by
  rintro ⟨a, ha⟩ ⟨b, hb⟩ rfl
  rfl

namespace ModuleId

lemma compare_eq_compareLex :
    ModuleId.compare = compareLex (fun a b => Bytes.compare a.address.bytes b.address.bytes)
      fun a b => Text.compare a.name b.name := rfl

instance : TransCmp ModuleId.compare := by
  rw [compare_eq_compareLex]
  have := transCmp_through Bytes.compare fun m : ModuleId => m.address.bytes
  have := transCmp_through Text.compare ModuleId.name
  infer_instance

instance : LawfulEqCmp ModuleId.compare where
  compare_self := by
    intro m
    simp [compare_eq_compareLex, compareLex, ReflCmp.compare_self]
  eq_of_compare := by
    rintro ⟨a, s⟩ ⟨b, t⟩ h
    rw [compare_eq_compareLex, compareLex_eq_eq] at h
    have haddress : a = b := Address.bytes_injective (LawfulEqCmp.eq_of_compare h.1)
    have hname : s = t := LawfulEqCmp.eq_of_compare h.2
    rw [haddress, hname]

lemma le_trans (a b c : ModuleId) (hab : a.le b) (hbc : b.le c) : a.le c := by
  unfold le at hab hbc ⊢
  exact TransCmp.isLE_trans hab hbc

lemma le_total (a b : ModuleId) : a.le b || b.le a := by
  have hswap : b.compare a = (a.compare b).swap := OrientedCmp.eq_swap
  unfold le
  rw [hswap]
  cases a.compare b <;> rfl

lemma le_antisymm {a b : ModuleId} (hab : a.le b) (hba : b.le a) : a = b := by
  unfold le at hab hba
  have heq : a.compare b = .eq := OrientedCmp.isLE_antisymm hab hba
  exact LawfulEqCmp.eq_of_compare heq

/-- An ascending list of modules without repetitions is determined by its members. -/
theorem eq_of_ascending {l l' : List ModuleId} (hl : l.Pairwise (le · ·))
    (hl' : l'.Pairwise (le · ·)) (nodup : l.Nodup) (nodup' : l'.Nodup)
    (hmem : ∀ m, m ∈ l ↔ m ∈ l') : l = l' :=
  List.Perm.eq_of_pairwise (fun _ _ _ _ => le_antisymm) hl hl'
    ((List.perm_ext_iff_of_nodup nodup nodup').mpr hmem)

end ModuleId

end MovePack
