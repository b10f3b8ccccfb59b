/-!
The order of texts: by the code points of their characters, which is also the
order of their UTF-8 bytes.
-/

namespace BookmarkViews.Text

open Std (OrientedCmp TransCmp)

/-- Compare two characters by code point. -/
def charOrder (c d : Char) : Ordering :=
  compare c.toNat d.toNat

/-- Compare two texts character by character; a text comes after its leading
parts. -/
def order (s t : String) : Ordering :=
  List.compareLex charOrder s.toList t.toList

/-- Texts in their order. -/
def sorted (texts : List String) : List String :=
  texts.mergeSort fun s t => (order s t).isLE

instance : Std.LawfulEqCmp charOrder where
  compare_self := by simp [charOrder]
  eq_of_compare {c d} h := by
    rw [charOrder, Nat.compare_eq_eq] at h
    exact Char.toNat_inj.mp h

instance : TransCmp charOrder :=
  inferInstanceAs (TransCmp (compareOn Char.toNat))

instance : TransCmp order where
  eq_swap {s t} := @OrientedCmp.eq_swap _ (List.compareLex charOrder) _ s.toList t.toList
  isLE_trans {s t u} :=
    @TransCmp.isLE_trans _ (List.compareLex charOrder) _ s.toList t.toList u.toList

/-- Only equal texts are in no order. -/
theorem order_eq_eq_iff {s t : String} : order s t = .eq ↔ s = t := by
  rw [order, Std.LawfulEqCmp.compare_eq_iff_eq, String.toList_inj]

theorem ne_of_order_lt {s t : String} (h : order s t = .lt) : s ≠ t := by
  intro same
  rw [order_eq_eq_iff.mpr same] at h
  exact nomatch h

/-! ### Sorting -/

variable {texts texts' : List String}

theorem sorted_perm (texts : List String) : (sorted texts).Perm texts :=
  List.mergeSort_perm _ _

@[simp] theorem length_sorted (texts : List String) : (sorted texts).length = texts.length :=
  (sorted_perm texts).length_eq

@[simp] theorem mem_sorted {s : String} : s ∈ sorted texts ↔ s ∈ texts :=
  (sorted_perm texts).mem_iff

theorem pairwise_sorted (texts : List String) :
    (sorted texts).Pairwise fun s t => (order s t).isLE := by
  refine List.pairwise_mergeSort (fun _ _ _ => TransCmp.isLE_trans) (fun s t => ?_) texts
  rw [@OrientedCmp.eq_swap _ order _ t s]
  cases order s t <;> rfl

/-- Different texts are strictly in order once sorted. -/
theorem strictly_sorted (distinct : texts.Nodup) :
    (sorted texts).Pairwise fun s t => order s t = .lt := by
  have different := ((sorted_perm texts).nodup_iff.mpr distinct)
  refine (pairwise_sorted texts).imp₂ ?_ different
  intro s t le ne
  cases h : order s t with
  | lt => rfl
  | eq => exact absurd (order_eq_eq_iff.mp h) ne
  | gt => simp [h] at le

/-- Lists of the same texts that are strictly in order are the same. -/
theorem eq_of_strictly_ordered (first : texts.Pairwise fun s t => order s t = .lt)
    (second : texts'.Pairwise fun s t => order s t = .lt) (same : ∀ s, s ∈ texts ↔ s ∈ texts') :
    texts = texts' := by
  have distinct {texts : List String} (ordered : texts.Pairwise fun s t => order s t = .lt) :
      texts.Nodup := ordered.imp ne_of_order_lt
  have perm := (List.perm_ext_iff_of_nodup (distinct first) (distinct second)).mpr same
  refine perm.eq_of_pairwise (fun s t _ _ below above => ?_) first second
  rw [@OrientedCmp.eq_swap _ order _ t s, below] at above
  exact nomatch above

end BookmarkViews.Text
