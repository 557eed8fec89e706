import Mathlib
import CardBrowser.Proofs.Column.Registry

/-!
# Items in the order of their labels

`IsStableSort` says what a stable sort leaves: every item as often as before, in the order of the
keys, and items with equal keys in the order that they had. `sort_by_label_stable` proves it for the
order of the labels, and `IsStableSort.pairwise` is how the order from before is used: it decides
between items with equal keys.
-/

namespace CardBrowser

/-- What a list becomes when it is sorted by keys and the order of the items decides between equal
keys. -/
structure IsStableSort {α : Type} (key : α → String) (items sorted : List α) : Prop where
  perm : sorted.Perm items
  ordered : sorted.Pairwise fun a b => key a ≤ key b
  stable : ∀ k, sorted.filter (key · = k) = items.filter (key · = k)

/-- Of two items the one with the smaller key comes first, and of items with equal keys the one that
came first before. -/
theorem IsStableSort.pairwise {α : Type} {key : α → String} {items sorted : List α}
    {R : α → α → Prop} (h : IsStableSort key items sorted) (hitems : items.Pairwise R) :
    sorted.Pairwise fun a b => key a < key b ∨ key a = key b ∧ R a b := by
  rw [List.pairwise_iff_forall_sublist] at hitems ⊢
  intro a b hsub
  rcases (List.pairwise_iff_forall_sublist.1 h.ordered hsub).lt_or_eq with hlt | heq
  · exact Or.inl hlt
  · have hsame : [a, b].Sublist (items.filter (key · = key a)) := by
      have hfilter := hsub.filter (key · = key a)
      rw [h.stable] at hfilter
      simpa [heq] using hfilter
    exact Or.inr ⟨heq, hitems (hsame.trans List.filter_sublist)⟩

namespace Registry

variable {α : Type} (label : α → String) (items : List α)

/-- The keys that stand beside the items while they are sorted may be computed again for every
comparison. -/
theorem sort_by_label_eq :
    sortByLabel label items =
      items.mergeSort fun a b => decide (Text.lowercase (label a) ≤ Text.lowercase (label b)) := by
  let keyed := fun item => (Text.lowercase (label item), item)
  have hsort : (items.mergeSort fun a b => decide ((keyed a).1 ≤ (keyed b).1)).map keyed =
      (items.map keyed).mergeSort fun a b => decide (a.1 ≤ b.1) :=
    List.map_mergeSort fun _ _ _ _ => rfl
  show ((items.map keyed).mergeSort fun a b => decide (a.1 ≤ b.1)).map Prod.snd = _
  rw [← hsort, List.map_map]
  exact List.map_id _

/-- Sorting by labels is a stable sort by the labels in lower case. -/
theorem sort_by_label_stable :
    IsStableSort (fun item => Text.lowercase (label item)) items (sortByLabel label items) := by
  let key := fun item => Text.lowercase (label item)
  let le := fun a b => decide (key a ≤ key b)
  have htrans : ∀ a b c, le a b = true → le b c = true → le a c = true := by
    simp only [le, decide_eq_true_eq]
    exact fun a b c => le_trans
  have htotal : ∀ a b, (le a b || le b a) = true := by
    simp only [le, Bool.or_eq_true, decide_eq_true_eq]
    exact fun a b => le_total (key a) (key b)
  refine ⟨perm_sort_by_label label items, ?_, fun k => ?_⟩
  · rw [sort_by_label_eq]
    exact (List.pairwise_mergeSort htrans htotal items).imp of_decide_eq_true
  · -- The items with the key are in order already, so the sort leaves them as they are.
    let same := fun item => decide (key item = k)
    have hsame : (items.filter same).Pairwise fun a b => le a b = true := by
      refine List.pairwise_of_forall_mem_list fun a ha b hb => decide_eq_true (le_of_eq ?_)
      rw [of_decide_eq_true (List.mem_filter.1 ha).2, of_decide_eq_true (List.mem_filter.1 hb).2]
    have hsub : (items.filter same).Sublist ((items.mergeSort le).filter same) := by
      have hfilter := (List.sublist_mergeSort htrans htotal hsame List.filter_sublist).filter same
      rwa [List.filter_filter, List.filter_congr fun _ _ => Bool.and_self _] at hfilter
    rw [sort_by_label_eq]
    exact (hsub.eq_of_length ((List.mergeSort_perm items le).filter same).length_eq.symm).symm

end Registry

end CardBrowser
