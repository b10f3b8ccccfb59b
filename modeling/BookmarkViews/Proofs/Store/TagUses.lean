import BookmarkViews.Proofs.SortingOut
import BookmarkViews.Store.Tags
import Mathlib.Data.List.Perm.Basic

/-!
The uses of tags, and what the row of a tag says of them.

* `Tags.least?_eq_some_iff`, `Tags.greatest?_eq_some_iff`: the extremes of some texts are among
  them and bound them all, by the order of texts;
* `Tags.rowOfUses_perm`: the row of a tag does not depend on the order of its uses;
* `Tags.derive_eq_foldl`: rows of tags are derived by taking the uses one by one, each adding to
  the count and the extremes of its tag.
-/

namespace BookmarkViews.Tags

open Std (OrientedCmp TransCmp)

variable {texts texts' : List String} {s t : String}

/-! ### Extremes -/

/-- A choice between two texts that is one of them and stands before both. -/
structure Chooses (before : String → String → Prop) (choose : String → String → String) : Prop where
  one : ∀ s t, choose s t = s ∨ choose s t = t
  first : ∀ s t, before (choose s t) s
  second : ∀ s t, before (choose s t) t
  refl : ∀ s, before s s
  trans : ∀ s t u, before s t → before t u → before s u

/-- Choosing again and again leaves one of the texts, which stands before all of them. -/
theorem Chooses.foldl {before : String → String → Prop} {choose : String → String → String}
    (h : Chooses before choose) (s : String) (texts : List String) :
    texts.foldl choose s ∈ s :: texts ∧ ∀ t ∈ s :: texts, before (texts.foldl choose s) t := by
  induction texts generalizing s with
  | nil => exact ⟨List.mem_cons_self, List.forall_mem_singleton.mpr (h.refl s)⟩
  | cons t texts ih =>
    obtain ⟨mem, below⟩ := ih (choose s t)
    obtain ⟨chosen, rest⟩ := List.forall_mem_cons.mp below
    rw [List.foldl_cons]
    constructor
    · rcases List.mem_cons.mp mem with same | later
      · rw [same]
        rcases h.one s t with one | one <;> rw [one] <;> simp
      · exact List.mem_cons_of_mem _ (List.mem_cons_of_mem _ later)
    · refine List.forall_mem_cons.mpr ⟨h.trans _ _ _ chosen (h.first s t), ?_⟩
      exact List.forall_mem_cons.mpr ⟨h.trans _ _ _ chosen (h.second s t), rest⟩

theorem isLE_refl (s : String) : (Text.order s s).isLE = true := by
  rw [Text.order_eq_eq_iff.mpr rfl]
  rfl

theorem isLE_of_order_ne_lt (h : Text.order t s ≠ .lt) : (Text.order s t).isLE = true := by
  rw [@OrientedCmp.eq_swap _ Text.order _ s t]
  cases order : Text.order t s with
  | lt => exact absurd order h
  | eq | gt => rfl

/-- Texts that stand before each other are the same. -/
theorem eq_of_isLE (below : (Text.order s t).isLE = true) (above : (Text.order t s).isLE = true) :
    s = t := by
  rw [@OrientedCmp.eq_swap _ Text.order _ t s] at above
  cases order : Text.order s t with
  | eq => exact Text.order_eq_eq_iff.mp order
  | lt => simp [order] at above
  | gt => simp [order] at below

theorem chooses_lesser : Chooses (fun s t => (Text.order s t).isLE = true) lesser where
  one s t := by
    unfold lesser
    split <;> simp
  first s t := by
    unfold lesser
    split
    · next lt => rw [lt]; rfl
    · exact isLE_refl s
  second s t := by
    unfold lesser
    split
    · exact isLE_refl t
    · next notLt => exact isLE_of_order_ne_lt notLt
  refl := isLE_refl
  trans _ _ _ := TransCmp.isLE_trans

theorem chooses_greater : Chooses (fun s t => (Text.order t s).isLE = true) greater where
  one s t := by
    unfold greater
    split <;> simp
  first s t := by
    unfold greater
    split
    · next gt => exact isLE_of_order_ne_lt (by rw [gt]; exact Ordering.noConfusion)
    · exact isLE_refl s
  second s t := by
    unfold greater
    split
    · exact isLE_refl t
    · next notGt =>
      cases order : Text.order t s with
      | lt | eq => rfl
      | gt => exact absurd order notGt
  refl := isLE_refl
  trans _ _ _ below above := TransCmp.isLE_trans above below

/-- **The least of some texts** is one of them and bounds them all. -/
theorem least?_eq_some_iff :
    least? texts = some s ↔ s ∈ texts ∧ ∀ t ∈ texts, (Text.order s t).isLE = true := by
  cases texts with
  | nil => simp [least?]
  | cons first texts =>
    obtain ⟨mem, below⟩ := chooses_lesser.foldl first texts
    rw [least?, Option.some_inj]
    constructor
    · rintro rfl
      exact ⟨mem, below⟩
    · rintro ⟨mem', below'⟩
      exact eq_of_isLE (below s mem') (below' _ mem)

/-- **The greatest of some texts** is one of them and bounds them all. -/
theorem greatest?_eq_some_iff :
    greatest? texts = some s ↔ s ∈ texts ∧ ∀ t ∈ texts, (Text.order t s).isLE = true := by
  cases texts with
  | nil => simp [greatest?]
  | cons first texts =>
    obtain ⟨mem, above⟩ := chooses_greater.foldl first texts
    rw [greatest?, Option.some_inj]
    constructor
    · rintro rfl
      exact ⟨mem, above⟩
    · rintro ⟨mem', above'⟩
      exact eq_of_isLE (above' _ mem) (above s mem')

theorem exists_least? (mem : s ∈ texts) : ∃ first, least? texts = some first := by
  cases texts with
  | nil => exact nomatch mem
  | cons first texts => exact ⟨_, rfl⟩

theorem exists_greatest? (mem : s ∈ texts) : ∃ last, greatest? texts = some last := by
  cases texts with
  | nil => exact nomatch mem
  | cons first texts => exact ⟨_, rfl⟩

theorem least?_perm (perm : texts.Perm texts') : least? texts = least? texts' := by
  ext s
  simp only [least?_eq_some_iff, perm.mem_iff]

theorem greatest?_perm (perm : texts.Perm texts') : greatest? texts = greatest? texts' := by
  ext s
  simp only [greatest?_eq_some_iff, perm.mem_iff]

/-! ### Uses -/

/-- The dates of the uses of a tag. -/
def datesOf (uses : List (String × Option String)) (name : String) : List String :=
  ((uses.filter (·.1 == name)).map (·.2)).filterMap id

theorem mem_datesOf {uses : List (String × Option String)} {name : String} :
    s ∈ datesOf uses name ↔ (name, some s) ∈ uses := by
  simp [datesOf, List.mem_filterMap, List.mem_filter]

theorem rowOfUses_eq (uses : List (String × Option String)) (name : String) :
    rowOfUses uses name = row name (uses.countP (·.1 == name)) (least? (datesOf uses name))
      (greatest? (datesOf uses name)) := by
  rw [List.countP_eq_length_filter, ← List.length_map]
  rfl

/-- The row of a tag does not depend on the order of its uses. -/
theorem rowOfUses_perm {uses uses' : List (String × Option String)} (perm : uses.Perm uses')
    (name : String) : rowOfUses uses name = rowOfUses uses' name := by
  have dates : (datesOf uses name).Perm (datesOf uses' name) :=
    ((perm.filter _).map _).filterMap _
  rw [rowOfUses_eq, rowOfUses_eq, perm.countP_eq, least?_perm dates, greatest?_perm dates]

/-! ### Uses one by one -/

/-- What is known of the uses of a tag. -/
structure Usage where
  count : Int
  first : Option String
  last : Option String

/-- The lesser of two texts, one of which may be missing. -/
def earlier : Option String → Option String → Option String
  | some s, some t => some (lesser s t)
  | some s, none => some s
  | none, t => t

/-- The greater of two texts, one of which may be missing. -/
def later : Option String → Option String → Option String
  | some s, some t => some (greater s t)
  | some s, none => some s
  | none, t => t

/-- What is known after one more use. -/
def Usage.join : Option Usage → String × Option String → Usage
  | some u, use => ⟨u.count + 1, earlier u.first use.2, later u.last use.2⟩
  | none, use => ⟨1, use.2, use.2⟩

/-- What is known of a tag with some uses. -/
def usage (uses : List (String × Option String)) (name : String) : Usage :=
  ⟨uses.countP (·.1 == name), least? (datesOf uses name), greatest? (datesOf uses name)⟩

theorem least?_append (texts : List String) (date : Option String) :
    least? (texts ++ date.toList) = earlier (least? texts) date := by
  cases texts <;> cases date <;> simp [least?, earlier]

theorem greatest?_append (texts : List String) (date : Option String) :
    greatest? (texts ++ date.toList) = later (greatest? texts) date := by
  cases texts <;> cases date <;> simp [greatest?, later]

theorem datesOf_append (uses : List (String × Option String)) (use : String × Option String)
    (name : String) :
    datesOf (uses ++ [use]) name =
      datesOf uses name ++ if use.1 = name then use.2.toList else [] := by
  obtain ⟨tag, date⟩ := use
  by_cases same : tag = name <;> cases date <;> simp [datesOf, same]

theorem datesOf_eq_nil {uses : List (String × Option String)} {name : String}
    (unused : name ∉ uses.map Prod.fst) : datesOf uses name = [] := by
  refine List.eq_nil_iff_forall_not_mem.mpr fun s mem => unused ?_
  exact List.mem_map_of_mem (mem_datesOf.mp mem)

/-- A use adds to the usage of its tag. -/
theorem accumulates_usage : Accumulates Prod.fst Usage.join usage where
  new uses use new := by
    have before : uses.countP (·.1 == use.1) = 0 :=
      List.countP_eq_zero.mpr fun other mem same =>
        new (beq_iff_eq.mp same ▸ List.mem_map_of_mem mem)
    rw [usage, datesOf_append, datesOf_eq_nil new, if_pos rfl, List.countP_append, before]
    obtain ⟨tag, date⟩ := use
    cases date <;> simp [Usage.join, least?, greatest?]
  known uses use _ := by
    rw [usage, datesOf_append, if_pos rfl, least?_append, greatest?_append, List.countP_append]
    simp [Usage.join, usage]
  other uses use name other := by
    rw [usage, datesOf_append, if_neg other, List.append_nil, List.countP_append]
    simp [usage, other]

/-- **Tags are derived by taking their uses one by one.** -/
theorem derive_eq_foldl (bookmarks : List Row) :
    derive bookmarks = ((bookmarks.flatMap usesOf).foldl (takeIn Prod.fst Usage.join) []).map
      fun e => row e.1 e.2.count e.2.first e.2.last := by
  rw [foldl_takeIn accumulates_usage, entriesOf, List.map_map, derive]
  exact List.map_congr_left fun name _ => rowOfUses_eq _ name

end BookmarkViews.Tags
