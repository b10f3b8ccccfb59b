import BookmarkViews.Keyed
import Mathlib.Data.List.Induction
import Mathlib.Data.List.Nodup
import Mathlib.Data.List.Perm.Basic

/-!
Sorting out the items of a list by keys.

`sortOut` lists the items that belong to each key, and behind them those that belong to none.
Where no item belongs to two keys, nothing is lost and nothing is listed twice
(`sortOut_perm`). Keys that are collected from a list come in the order in which they are met
first (`eraseDups_firstSeen`), and so do the entries of items that are taken in one by one, each
under its key (`foldl_takeIn`).
-/

namespace BookmarkViews

variable {κ α : Type}

/-! ### Items that belong to keys -/

section

variable {belongs : κ → α → Bool} {k : κ} {keys : List κ}

/-- The items that belong to each key, then those that belong to none. -/
def sortOut (belongs : κ → α → Bool) (keys : List κ) (items : List α) : List α :=
  keys.flatMap (fun k => items.filter (belongs k)) ++
    items.filter fun a => !keys.any fun k => belongs k a

/-- The items of the first key are listed, and what is left is sorted out by the others. -/
theorem sortOut_cons (apart : ∀ k' ∈ keys, ∀ a, belongs k a = true → belongs k' a = false)
    (items : List α) :
    sortOut belongs (k :: keys) items =
      items.filter (belongs k) ++ sortOut belongs keys (items.filter fun a => !belongs k a) := by
  have others : ∀ k' ∈ keys,
      (items.filter fun a => !belongs k a).filter (belongs k') = items.filter (belongs k') := by
    intro k' mem
    rw [List.filter_filter]
    refine List.filter_congr fun a _ => ?_
    by_cases first : belongs k a = true
    · rw [apart k' mem a first, Bool.false_and]
    · simp [first]
  rw [sortOut, sortOut, List.flatMap_cons, List.append_assoc, List.flatMap_congr others,
    List.filter_filter]
  simp only [List.any_cons, Bool.not_or, Bool.and_comm]

/-- **Sorting out loses nothing** where no item belongs to two keys. -/
theorem sortOut_perm
    (apart : keys.Pairwise fun k k' => ∀ a, belongs k a = true → belongs k' a = false)
    (items : List α) : (sortOut belongs keys items).Perm items := by
  induction keys generalizing items with
  | nil => simp [sortOut]
  | cons k keys ih =>
    obtain ⟨first, later⟩ := List.pairwise_cons.mp apart
    rw [sortOut_cons first]
    exact ((ih later _).append_left _).trans (List.filter_append_perm _ items)

end

/-! ### Items that have a key -/

section

variable [DecidableEq κ]

/-- Items that are sorted out by the keys that they have are all listed. -/
theorem flatMap_filter_perm (key : α → κ) {keys : List κ} (distinct : keys.Nodup)
    {items : List α} (all : ∀ a ∈ items, key a ∈ keys) :
    (keys.flatMap fun k => items.filter (key · == k)).Perm items := by
  have apart : keys.Pairwise fun k k' => ∀ a, (key a == k) = true → (key a == k') = false :=
    distinct.imp fun other a same => by simpa [beq_iff_eq.mp same] using other
  have rest : (items.filter fun a => !keys.any fun k => key a == k) = [] :=
    List.filter_eq_nil_iff.mpr fun a mem => by simpa using all a mem
  have sorted := sortOut_perm apart items
  rwa [sortOut, rest, List.append_nil] at sorted

/-- One more key stands last where it is new. -/
theorem eraseDups_concat (keys : List κ) (key : κ) :
    (keys ++ [key]).eraseDups =
      if key ∈ keys then keys.eraseDups else keys.eraseDups ++ [key] := by
  rw [List.eraseDups_append]
  by_cases known : key ∈ keys
  · simp [List.removeAll, known]
  · simp [List.removeAll, known, List.eraseDups_cons]

/-- Keys come in the order in which they are met first. -/
theorem eraseDups_firstSeen (keys : List κ) :
    keys.eraseDups.Pairwise fun k k' => keys.idxOf k < keys.idxOf k' := by
  induction keys using List.reverseRecOn with
  | nil => exact List.Pairwise.nil
  | append_singleton keys key ih =>
    have place {k : κ} (mem : k ∈ keys.eraseDups) : (keys ++ [key]).idxOf k = keys.idxOf k := by
      rw [List.idxOf_append, if_pos (List.mem_eraseDups.mp mem)]
    have earlier := ih.imp_of_mem fun mem mem' lt => (place mem).symm ▸ (place mem').symm ▸ lt
    rw [eraseDups_concat]
    split_ifs with known
    · exact earlier
    · refine List.pairwise_append.mpr ⟨earlier, List.pairwise_singleton _ _, ?_⟩
      intro k mem k' new
      obtain rfl := List.mem_singleton.mp new
      rw [place mem, List.idxOf_append, if_neg known]
      have before := List.idxOf_lt_length_of_mem (List.mem_eraseDups.mp mem)
      omega

theorem nodup_eraseDups (keys : List κ) : keys.eraseDups.Nodup :=
  (eraseDups_firstSeen keys).imp fun lt same => absurd (same ▸ lt) (Nat.lt_irrefl _)

end

/-! ### Items taken in one by one -/

section

variable [DecidableEq κ] {β : Type} {key : α → κ} {join : Option β → α → β}
  {value : List α → κ → β}

/-- Take an item into the entry of its key, or open an entry for it behind the others. -/
def takeIn (key : α → κ) (join : Option β → α → β) (entries : List (κ × β)) (a : α) :
    List (κ × β) :=
  Keyed.insert entries (key a) (join (Keyed.get? entries (key a)) a)

/-- What the items of a list come to under each key, when one more joins those of its key and
leaves the other keys alone. -/
structure Accumulates (key : α → κ) (join : Option β → α → β) (value : List α → κ → β) : Prop where
  new : ∀ items a, key a ∉ items.map key → value (items ++ [a]) (key a) = join none a
  known : ∀ items a, key a ∈ items.map key →
    value (items ++ [a]) (key a) = join (some (value items (key a))) a
  other : ∀ items a k, key a ≠ k → value (items ++ [a]) k = value items k

/-- What items come to under their keys, in the order in which the keys are met. -/
def entriesOf (key : α → κ) (value : List α → κ → β) (items : List α) : List (κ × β) :=
  (items.map key).eraseDups.map fun k => (k, value items k)

theorem keys_entriesOf (key : α → κ) (value : List α → κ → β) (items : List α) :
    Keyed.keys (entriesOf key value items) = (items.map key).eraseDups := by
  rw [entriesOf, Keyed.keys, List.map_map]
  exact List.map_id' _

/-- What items come to under a key that is met is found under it. -/
theorem get?_entriesOf {items : List α} {k : κ} (met : k ∈ items.map key) :
    Keyed.get? (entriesOf key value items) k = some (value items k) := by
  have distinct : (Keyed.keys (entriesOf key value items)).Nodup := by
    rw [keys_entriesOf]
    exact nodup_eraseDups _
  have entry : (k, value items k) ∈ entriesOf key value items :=
    List.mem_map.mpr ⟨k, List.mem_eraseDups.mpr met, rfl⟩
  exact Keyed.get?_of_mem distinct entry

/-- One more item. -/
theorem takeIn_entriesOf (h : Accumulates key join value) (items : List α) (a : α) :
    takeIn key join (entriesOf key value items) a = entriesOf key value (items ++ [a]) := by
  have listed : Keyed.has (entriesOf key value items) (key a) = true ↔ key a ∈ items.map key := by
    rw [Keyed.has_iff, keys_entriesOf, List.mem_eraseDups]
  have after : entriesOf key value (items ++ [a]) =
      (if key a ∈ items.map key then (items.map key).eraseDups
        else (items.map key).eraseDups ++ [key a]).map fun k => (k, value (items ++ [a]) k) := by
    rw [entriesOf, List.map_append, List.map_singleton, eraseDups_concat]
  rw [after]
  by_cases met : key a ∈ items.map key
  · rw [takeIn, get?_entriesOf met, Keyed.insert, if_pos (listed.mpr met), if_pos met, entriesOf,
      List.map_map]
    refine List.map_congr_left fun k _ => ?_
    by_cases same : k = key a
    · subst same
      rw [Function.comp_apply, if_pos rfl, h.known items a met]
    · rw [Function.comp_apply, if_neg same, h.other items a k (Ne.symm same)]
  · have new := mt listed.mp met
    rw [takeIn, Keyed.get?_eq_none_iff.mpr (Bool.eq_false_iff.mpr new), Keyed.insert, if_neg new,
      if_neg met, List.map_append, List.map_singleton, h.new items a met, entriesOf]
    refine congrArg (· ++ _) (List.map_congr_left fun k mem => ?_)
    have other : key a ≠ k := fun same => met (same ▸ List.mem_eraseDups.mp mem)
    rw [h.other items a k other]

/-- **Items that are taken in one by one** leave under each key what they come to. -/
theorem foldl_takeIn (h : Accumulates key join value) (items : List α) :
    items.foldl (takeIn key join) [] = entriesOf key value items := by
  induction items using List.reverseRecOn with
  | nil => rfl
  | append_singleton items a ih =>
    rw [List.foldl_append, List.foldl_cons, List.foldl_nil, ih, takeIn_entriesOf h]

end

/-- The first item is found where tests agree on all items. -/
theorem findIdx_congr {p q : α → Bool} {items : List α} (same : ∀ a ∈ items, p a = q a) :
    items.findIdx p = items.findIdx q := by
  induction items with
  | nil => rfl
  | cons a items ih =>
    obtain ⟨first, rest⟩ := List.forall_mem_cons.mp same
    rw [List.findIdx_cons, List.findIdx_cons, first, ih rest]

end BookmarkViews
