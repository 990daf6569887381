import Mathlib.Data.List.AList

/-! # Go maps and the order of `range`

A Go `map[K]V` is modelled by its content, an `AList` (one entry per key). A
`for ... range` loop over a map visits the entries in an order Go leaves
unspecified and changes from run to run, so every loop over a map takes that
order as a parameter: any permutation of what it visits. -/

namespace CnwanOperator

/-- The order in which one `for ... range` loop visits a map. -/
structure RangeOrder (α : Type) where
  visit : List α → List α
  perm : ∀ entries, (visit entries).Perm entries

namespace RangeOrder

/-- Visiting in the order the model stores the entries. -/
def stored (α : Type) : RangeOrder α := ⟨id, fun _ => List.Perm.refl _⟩

/-- Visiting `entry` first, when it is there, and the others in stored order. -/
def first [DecidableEq α] (entry : α) : RangeOrder α where
  visit entries := if entry ∈ entries then entry :: entries.erase entry else entries
  perm entries := by
    by_cases member : entry ∈ entries
    · simpa only [if_pos member] using (List.perm_cons_erase member).symm
    · simpa only [if_neg member] using List.Perm.refl _

@[simp] theorem mem_visit (order : RangeOrder α) {entries : List α} {entry : α} :
    entry ∈ order.visit entries ↔ entry ∈ entries :=
  (order.perm entries).mem_iff

theorem nodup_visit (order : RangeOrder α) {entries : List α} (nodup : entries.Nodup) :
    (order.visit entries).Nodup :=
  (order.perm entries).nodup_iff.mpr nodup

theorem visit_ne_nil (order : RangeOrder α) {entries : List α} (nonEmpty : entries ≠ []) :
    order.visit entries ≠ [] := by
  intro empty
  have permuted := order.perm entries
  rw [empty] at permuted
  exact nonEmpty permuted.symm.eq_nil

end RangeOrder

end CnwanOperator
