import BookmarkViews.Pattern.Standard
import BookmarkViews.Proofs.Condition.RoundTrip
import BookmarkViews.Proofs.Param.Slots
import BookmarkViews.Proofs.Text.LowerCase
import BookmarkViews.Proofs.Value.Integers

/-!
A list parameter means the same within a text as by itself.

Within a text a list becomes the text of a list, its items quoted where a bare one would
not be read back; by itself it stays a list. Both ask for the texts of its items, in order.

* `Value.inlineChars_list`: the text of a list of scalars;
* `Draft.becomes_members`, `Draft.becomes_any`: the two ways a list is asked for;
* `Draft.resolve?_of_fills`: a template is read once, after its slots are filled in;
* `Draft.list_parameter`: both ways agree, and no text of a value is scanned again.
-/

namespace BookmarkViews

/-! ### Texts of items -/

namespace Value

/-- The text of a scalar in a list: of a text, of an integer of 64 bits or of a truth
value. -/
def itemText? : Value → Option String
  | .text s => some s
  | .number n => n.int64?.map fun i => String.ofList (Decimal.ofInt i)
  | .bool b => some (if b then "true" else "false")
  | .null | .list _ | .object _ => none

variable {v : Value} {s : String}

/-- A scalar has one text, within a template and in a document value. -/
theorem texts_of_itemText? (h : v.itemText? = some s) :
    v.inlineChars = s.toList ∧ Condition.itemText? (Node.ofValue v) = .ok s := by
  cases v with
  | text t =>
    obtain rfl := Option.some_inj.mp h
    rw [inlineChars, Node.ofValue]
    exact ⟨rfl, rfl⟩
  | number n =>
    obtain ⟨i, small, rfl⟩ := Option.map_eq_some_iff.mp h
    have written (style : Decimal.FloatStyle) : n.render style = String.ofList (Decimal.ofInt i) := by
      rw [(Number.int64?_eq_some_iff.mp small).1, Number.render]
    rw [inlineChars, Node.ofValue, compactChars, Condition.itemText?, Number.text, Number.yamlText,
      written, written]
    · exact ⟨rfl, rfl⟩
    · simp
    · simp
  | bool b =>
    obtain rfl := Option.some_inj.mp h
    rw [inlineChars, Node.ofValue, compactChars, Condition.itemText?]
    · exact ⟨rfl, rfl⟩
    · simp
    · simp
  | null | list _ | object _ => exact nomatch h

variable {items : List Value}

/-- **Within a template a list of scalars is written as the list of their texts.** -/
theorem inlineChars_list (scalars : ∀ v ∈ items, v.itemText?.isSome) :
    (Value.list items).inlineChars = Quoting.list (items.filterMap itemText?) := by
  have texts : inlineItems items =
      (items.filterMap itemText?).map fun s => Quoting.listItem s.toList := by
    induction items with
    | nil => rw [inlineItems, List.filterMap_nil, List.map_nil]
    | cons v vs ih =>
      obtain ⟨first, later⟩ := List.forall_mem_cons.mp scalars
      obtain ⟨s, text⟩ := Option.isSome_iff_exists.mp first
      rw [inlineItems, ih later, List.filterMap_cons_some text, List.map_cons,
        (texts_of_itemText? text).1]
  rw [inlineChars, texts, Quoting.list, List.cons_append]

/-- By itself it has the same texts. -/
theorem itemTexts?_ofValues (scalars : ∀ v ∈ items, v.itemText?.isSome) :
    Condition.itemTexts? (Node.ofValues items) = .ok (items.filterMap itemText?) := by
  rw [Condition.itemTexts?, mapM_eq_ok_iff]
  induction items with
  | nil => exact .nil
  | cons v vs ih =>
    obtain ⟨first, later⟩ := List.forall_mem_cons.mp scalars
    obtain ⟨s, text⟩ := Option.isSome_iff_exists.mp first
    rw [Node.ofValues, List.filterMap_cons_some text]
    exact .cons (texts_of_itemText? text).2 (ih later)

end Value

/-! ### Conditions with slots -/

namespace Draft

variable {params : Params} {name s t : String} {items : List Value} {c : Condition}

section

variable [PatternEngine]

/-- A text waits for its slots, as the text of a condition and as a document value, and
becomes a condition when parameters are bound. -/
structure Becomes (params : Params) (s : String) (c : Condition) : Prop where
  text : Draft.ofText? s = .ok (.template (.text s))
  node : Draft.ofNode? (.text s) = .ok (.template (.text s))
  resolved : (Draft.template (.text s)).resolve? params = .ok c

theorem becomes_of_resolve? (opens : Template.opensSlot s = true)
    (resolved : (Draft.template (.text s)).resolve? params = .ok c) : Becomes params s c where
  text := by rw [ofText?, if_pos opens]
  node := by rw [ofNode?, Node.hasSlots, if_pos opens]
  resolved := resolved

/-- **A template is read once, after its slots are filled in.** -/
theorem resolve?_of_fills (filled : Template.Fills params s.toList t.toList)
    (more : ¬ Template.IsSlot s) :
    (Draft.template (.text s)).resolve? params = Condition.read? t := by
  rw [resolve?, Node.fill?, Node.fillText?_of_fills filled more]
  dsimp only
  rw [Condition.ofNode?]

/-- A list within a text is asked for by the quantifier before it. -/
theorem becomes_members (nameable : Template.Nameable name)
    (bound : Keyed.get? params name = some (.list items))
    (scalars : ∀ v ∈ items, v.itemText?.isSome) (q : Quantifier) :
    Becomes params (q.name ++ " " ++ Template.slotText name)
      (.members q (items.filterMap Value.itemText?)) := by
  have first : Template.First (q.name.toList ++ [' ']) := by cases q <;> decide
  have chars : (q.name ++ " " ++ Template.slotText name).toList =
      (q.name.toList ++ [' ']) ++ '\x7b' :: '\x7b' ::
        ("params.".toList ++ name.toList ++ '\x7d' :: '\x7d' :: []) := by
    rw [String.toList_append, String.toList_append, Template.toList_slotText]
    rfl
  have filled : Template.Fills params (q.name ++ " " ++ Template.slotText name).toList
      (q.name.toList ++ ' ' :: Quoting.list (items.filterMap Value.itemText?)) := by
    have nothing : Template.Fills params [] [] := .closed rfl
    have slot := Template.Fills.slot first nameable.names bound nothing
    rw [Value.inlineChars_list scalars] at slot
    rw [chars]
    simpa using slot
  have more : ¬ Template.IsSlot (q.name ++ " " ++ Template.slotText name) := by
    rintro ⟨inside, -, same, -⟩
    rw [chars] at same
    cases q <;> exact absurd (List.cons.inj same).1 (by decide)
  apply becomes_of_resolve?
  · rw [Template.opensSlot, chars, Text.occursIn_iff_infix]
    exact ⟨q.name.toList ++ [' '], "params.".toList ++ name.toList ++ ['\x7d', '\x7d'], by simp⟩
  · rw [← String.toList_ofList (l := q.name.toList ++ _)] at filled
    rw [resolve?_of_fills filled more]
    obtain ⟨k, named, read⟩ := Condition.ofKeyword?_members q (items.filterMap Value.itemText?)
    rw [← named]
    exact Condition.read?_keyword read

/-- A list by itself asks for any of its items. -/
theorem becomes_any (nameable : Template.Nameable name)
    (bound : Keyed.get? params name = some (.list items))
    (scalars : ∀ v ∈ items, v.itemText?.isSome) :
    Becomes params (Template.slotText name) (.members .any (items.filterMap Value.itemText?)) := by
  apply becomes_of_resolve? (Template.opensSlot_slotText name)
  rw [resolve?, Node.fill?, Node.fillText?_slotText nameable bound]
  dsimp only
  rw [Node.ofValue, Condition.ofNode?, Value.itemTexts?_ofValues scalars]
  rfl

/-- **A list parameter means the same within a text as by itself**: the quantifier before
it, or any, of the texts of its items in order. Whatever the values, a template with any
number of slots becomes the text outside of them with the texts of the values between, and
that is read as it is. -/
theorem list_parameter {params : Params} {name : String} {items : List Value}
    (nameable : Template.Nameable name) (bound : Keyed.get? params name = some (.list items))
    (scalars : ∀ v ∈ items, v.itemText?.isSome) :
    (∀ q : Quantifier, Becomes params (q.name ++ " " ++ Template.slotText name)
        (.members q (items.filterMap Value.itemText?))) ∧
      Becomes params (Template.slotText name) (.members .any (items.filterMap Value.itemText?)) ∧
      ∀ s t : String,
        (Template.fill? params s = .ok t ↔ Template.Fills params s.toList t.toList) ∧
        (Template.Fills params s.toList t.toList → ¬ Template.IsSlot s →
          (Draft.template (.text s)).resolve? params = Condition.read? t) :=
  ⟨becomes_members nameable bound scalars, becomes_any nameable bound scalars,
    fun _ _ => ⟨Template.fill?_eq_ok_iff, resolve?_of_fills⟩⟩

end

/-- A list with an empty text, a quote, a comma, brackets and an open slot among its items,
and a text that is a slot itself. -/
def unrulyList : Params :=
  [("p", .list [.text "", .text "a, \"b\"", .text "[\x7b\x7bparams.q\x7d\x7d]", .ofInt (-3),
    .bool true]), ("q", .text "\x7b\x7bparams.p\x7d\x7d")]

open StandardPatterns

/-- The list means the same both ways, and the slot that is a value stays as it is. -/
theorem list_parameter_unruly :
    Becomes unrulyList "none \x7b\x7bparams.p\x7d\x7d"
        (.members .none ["", "a, \"b\"", "[\x7b\x7bparams.q\x7d\x7d]", "-3", "true"]) ∧
      Becomes unrulyList "\x7b\x7bparams.p\x7d\x7d"
        (.members .any ["", "a, \"b\"", "[\x7b\x7bparams.q\x7d\x7d]", "-3", "true"]) ∧
      (Draft.template (.text "== \x7b\x7b params.q \x7d\x7d\x7b\x7bparams.q\x7d\x7d")).resolve?
          unrulyList =
        Condition.read? "== \x7b\x7bparams.p\x7d\x7d\x7b\x7bparams.p\x7d\x7d" := by
  have nameable : Template.Nameable "p" := ⟨by decide, by simp [Text.isBlank], by decide⟩
  have bound : Keyed.get? unrulyList "p" = some (.list _) := rfl
  obtain ⟨within, itself, filled⟩ := list_parameter nameable bound (by decide)
  refine ⟨within .none, itself, ?_⟩
  obtain ⟨fills, read⟩ := filled
    "== \x7b\x7b params.q \x7d\x7d\x7b\x7bparams.q\x7d\x7d"
    "== \x7b\x7bparams.p\x7d\x7d\x7b\x7bparams.p\x7d\x7d"
  refine read (fills.mp (by decide)) ?_
  rintro ⟨inside, -, chars, -⟩
  exact absurd (List.cons.inj chars).1 (by decide)

end Draft

end BookmarkViews
