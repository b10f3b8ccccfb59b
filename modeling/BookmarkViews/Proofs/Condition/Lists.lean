import BookmarkViews.Condition.Quoting
import BookmarkViews.Proofs.Text.Trimming
import Mathlib.Data.List.Basic

/-!
Bracketed lists are read back.

The reader of a list goes through every item in one of two ways: a plain item is
collected character by character and trimmed where it ends, a quoted one is taken
between its quotes. Either way it ends in a state that finishes with the item
(`finish_stateAfter`), and what follows is read from there (`itemsFrom_listItem`).
`list?_list` is the induction over the items, each after the blank that follows a
comma.
-/

namespace BookmarkViews.Quoting

/-! ### Ends -/

theorem tight_quote (cs : List Char) : Text.Tight (quote cs) :=
  Text.tight_between _ (by decide) (by decide)

theorem tight_list (texts : List String) : Text.Tight (list texts) :=
  Text.tight_between _ (by decide) (by decide)

/-! ### Steps of the reader -/

variable {items : List String} {seen rest cs : List Char} {c : Char}

theorem itemsFrom_inside (notQuote : c ≠ '"') (notSlash : c ≠ '\\') :
    itemsFrom items (.inside seen) (c :: rest) = itemsFrom items (.inside (c :: seen)) rest := by
  rw [itemsFrom, if_neg notSlash, if_neg notQuote]
  rintro c' cs' slash
  exact absurd slash notSlash

theorem itemsFrom_close :
    itemsFrom items (.inside seen) ('"' :: rest) = itemsFrom items (.closed seen.reverse) rest := by
  rw [itemsFrom, if_neg (by decide), if_pos rfl]
  rintro c' cs' slash
  exact absurd slash (by decide)

theorem itemsFrom_open (blank : seen.all Text.isBlank = true) :
    itemsFrom items (.bare seen) ('"' :: rest) = itemsFrom items (.inside []) rest := by
  rw [itemsFrom, if_pos rfl, if_pos blank]
  intro comma
  exact absurd comma (by decide)

theorem itemsFrom_bare (plain : c ∉ ['"', ',', '[', ']']) :
    itemsFrom items (.bare seen) (c :: rest) = itemsFrom items (.bare (c :: seen)) rest := by
  simp only [List.mem_cons, List.not_mem_nil, or_false, not_or] at plain
  obtain ⟨quote, comma, opens, closes⟩ := plain
  rw [itemsFrom, if_neg quote, if_neg (by simp [opens, closes])]
  exact comma

/-- A comma ends the item before it. -/
theorem itemsFrom_comma {state : ItemState} {item : String} (ended : finish state = .ok item) :
    itemsFrom items state (',' :: rest) = itemsFrom (item :: items) (.bare []) rest := by
  cases state with
  | bare seen =>
    rw [itemsFrom, ended]
    · rfl
    · simp
  | inside seen => cases ended
  | closed item' =>
    rw [itemsFrom, ended]
    · rfl
    · simp

/-! ### Items -/

/-- Between quotes an escaped text is collected as it was. -/
theorem itemsFrom_escape :
    itemsFrom items (.inside seen) (escape cs ++ '"' :: rest) =
      itemsFrom items (.closed (seen.reverse ++ cs)) rest := by
  induction cs generalizing seen with
  | nil =>
    rw [escape, List.nil_append, itemsFrom_close, List.append_nil]
  | cons c cs ih =>
    have collected : (c :: seen).reverse ++ cs = seen.reverse ++ c :: cs := by simp
    rw [escape]
    split_ifs with special
    · rw [List.cons_append, List.cons_append, itemsFrom_escaped, ih, collected]
    · simp only [Bool.or_eq_true, decide_eq_true_eq, not_or] at special
      obtain ⟨quote, slash⟩ := special
      rw [List.cons_append, itemsFrom_inside quote slash, ih, collected]

/-- Plain characters are collected as they are. -/
theorem itemsFrom_plain (plain : ∀ c ∈ cs, c ∉ ['"', ',', '[', ']']) :
    itemsFrom items (.bare seen) (cs ++ rest) = itemsFrom items (.bare (cs.reverse ++ seen)) rest := by
  induction cs generalizing seen with
  | nil => rfl
  | cons c cs ih =>
    rw [List.cons_append, itemsFrom_bare (plain c List.mem_cons_self),
      ih fun d mem => plain d (List.mem_cons_of_mem _ mem), List.reverse_cons, List.append_assoc]
    rfl

/-- Where the reader stands after an item that follows these blanks. -/
def stateAfter (blanks cs : List Char) : ItemState :=
  if isPlainItem cs then .bare (cs.reverse ++ blanks) else .closed cs

theorem itemsFrom_listItem {blanks : List Char} (blank : blanks.all Text.isBlank = true) :
    itemsFrom items (.bare blanks) (listItem cs ++ rest) =
      itemsFrom items (stateAfter blanks cs) rest := by
  unfold listItem stateAfter
  split_ifs with plain
  · refine itemsFrom_plain fun c mem => ?_
    have allowed := List.all_eq_true.mp (Bool.and_eq_true_iff.mp plain).2 c mem
    simpa [and_assoc] using allowed
  · rw [quote, List.append_assoc, List.cons_append, itemsFrom_open blank]
    exact itemsFrom_escape

/-- A plain item is not empty and tight. -/
theorem tight_of_isPlainItem (plain : isPlainItem cs = true) : cs ≠ [] ∧ Text.Tight cs := by
  obtain ⟨front, -⟩ := Bool.and_eq_true_iff.mp plain
  obtain ⟨nonempty, tight⟩ := Bool.and_eq_true_iff.mp front
  exact ⟨by simpa using nonempty, Text.tight_iff_trim_eq.mpr (beq_iff_eq.mp tight)⟩

/-- **The state after an item finishes with the item.** -/
theorem finish_stateAfter {blanks : List Char} (blank : ∀ c ∈ blanks, Text.isBlank c = true) :
    finish (stateAfter blanks cs) = .ok (String.ofList cs) := by
  unfold stateAfter
  split_ifs with plain
  · obtain ⟨nonempty, tight⟩ := tight_of_isPlainItem plain
    have item : Text.trim (cs.reverse ++ blanks).reverse = cs := by
      rw [List.reverse_append, List.reverse_reverse, Text.trim_blanks_append, tight.trim_eq]
      exact fun c mem => blank c (List.mem_reverse.mp mem)
    dsimp only [finish]
    rw [item, if_neg (by simpa using nonempty)]
  · rfl

/-- The end of the text ends the last item. -/
theorem itemsFrom_stateAfter_nil {blanks : List Char}
    (blank : ∀ c ∈ blanks, Text.isBlank c = true) :
    itemsFrom items (stateAfter blanks cs) [] = .ok (items.reverse ++ [String.ofList cs]) := by
  have ended : finish (stateAfter blanks cs) = .ok (String.ofList cs) := finish_stateAfter blank
  unfold stateAfter at ended ⊢
  split_ifs at ended ⊢ with plain
  · obtain ⟨nonempty, tight⟩ := tight_of_isPlainItem plain
    -- The first character of the item is no blank, so the state is not an empty one.
    have something : (cs.reverse ++ blanks).all Text.isBlank = false := by
      cases cs with
      | nil => exact absurd rfl nonempty
      | cons c cs =>
        have first : Text.isBlank c = false := tight.first c (by simp)
        simp [first]
    rw [itemsFrom]
    simp only [something, Bool.and_false, Bool.false_eq_true, if_false, ended, Except.map,
      List.reverse_cons]
  · simp [itemsFrom, finish, Except.map]

/-! ### Lists -/

/-- **The items of a list are read back**, after those read before and a blank. -/
theorem itemsFrom_items {blanks : List Char} (blank : ∀ c ∈ blanks, Text.isBlank c = true)
    (texts : List String) (nonempty : texts ≠ []) :
    itemsFrom items (.bare blanks)
        (", ".toList.intercalate (texts.map fun s => listItem s.toList)) =
      .ok (items.reverse ++ texts) := by
  induction texts generalizing items blanks with
  | nil => exact absurd rfl nonempty
  | cons s texts ih =>
    have allBlank : blanks.all Text.isBlank = true := List.all_eq_true.mpr blank
    cases texts with
    | nil =>
      rw [List.map_singleton, List.intercalate_singleton]
      have last : itemsFrom items (.bare blanks) (listItem s.toList ++ []) =
          itemsFrom items (stateAfter blanks s.toList) [] := itemsFrom_listItem allBlank
      rw [List.append_nil] at last
      rw [last, itemsFrom_stateAfter_nil blank, String.ofList_toList]
    | cons t texts =>
      have onward : ", ".toList.intercalate ((s :: t :: texts).map fun s => listItem s.toList) =
          listItem s.toList ++ ',' :: ' ' ::
            ", ".toList.intercalate ((t :: texts).map fun s => listItem s.toList) := by
        simp [List.intercalate]
      have blank' : ∀ c ∈ [' '], Text.isBlank c = true := List.forall_mem_singleton.mpr rfl
      rw [onward, itemsFrom_listItem allBlank, itemsFrom_comma (finish_stateAfter blank),
        itemsFrom_bare (by decide), String.ofList_toList, ih blank' (List.cons_ne_nil t texts),
        List.reverse_cons, List.append_assoc, List.singleton_append]

/-- **A list is read back.** -/
theorem list?_list (texts : List String) : list? (list texts) = .ok texts := by
  have read : itemsFrom [] (.bare [])
      (", ".toList.intercalate (texts.map fun s => listItem s.toList)) = .ok texts := by
    cases texts with
    | nil => rfl
    | cons s texts => exact itemsFrom_items (by simp) (s :: texts) (List.cons_ne_nil s texts)
  unfold list?
  rw [(tight_list texts).trim_eq, list]
  generalize ", ".toList.intercalate (texts.map fun s => listItem s.toList) = inner at read
  have opened : Text.after? ['['] ('[' :: (inner ++ [']'])) = some (inner ++ [']']) :=
    Text.after?_eq_some_iff.mpr rfl
  have shut : Text.before? [']'] ('[' :: (inner ++ [']'])) = some ('[' :: inner) :=
    Text.before?_eq_some_iff.mpr rfl
  have between : Text.before? [']'] (inner ++ [']']) = some inner :=
    Text.before?_eq_some_iff.mpr rfl
  rw [List.cons_append]
  simp only [opened, shut, between, read]

end BookmarkViews.Quoting
