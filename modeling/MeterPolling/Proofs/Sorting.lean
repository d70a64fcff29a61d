import Mathlib.Data.List.Pairwise
/-!
Sorting by a key. The result ascends by the keys, and what has one key keeps its order.
-/
namespace MeterPolling

section Keys

variable {α κ : Type} [LE κ] [DecidableLE κ] [Std.IsLinearOrder κ] (key : α → κ)

theorem keys_trans (a b c : α) (first : decide (key a ≤ key b) = true)
    (second : decide (key b ≤ key c) = true) : decide (key a ≤ key c) = true :=
  decide_eq_true (Std.le_trans (of_decide_eq_true first) (of_decide_eq_true second))

theorem keys_total (a b : α) : (decide (key a ≤ key b) || decide (key b ≤ key a)) = true := by
  simpa using Std.le_total (a := key a) (b := key b)

theorem mergeSort_ascending (xs : List α) :
    (xs.mergeSort fun a b => key a ≤ key b).Pairwise fun a b => key a ≤ key b :=
  (List.pairwise_mergeSort (keys_trans key) (keys_total key) xs).imp of_decide_eq_true

/-- What has one key stands in the same order before and after. -/
theorem mergeSort_level [DecidableEq κ] (xs : List α) (k : κ) :
    ((xs.mergeSort fun a b => key a ≤ key b).filter fun a => key a == k) =
      xs.filter fun a => key a == k := by
  have level : (xs.filter fun a => key a == k).Pairwise fun a b => decide (key a ≤ key b) = true := by
    apply List.pairwise_of_forall_mem_list
    intro a memberA b memberB
    have atA := (List.mem_filter.mp memberA).2
    have atB := (List.mem_filter.mp memberB).2
    rw [beq_iff_eq] at atA atB
    rw [atA, atB, decide_eq_true_eq]
    exact Std.le_refl k
  have inside := List.sublist_mergeSort (keys_trans key) (keys_total key) level List.filter_sublist
  have within := inside.filter fun a => key a == k
  simp only [List.filter_filter, Bool.and_self] at within
  refine (within.eq_of_length ?_).symm
  exact ((List.mergeSort_perm _ _).filter _).length_eq.symm

end Keys

end MeterPolling
