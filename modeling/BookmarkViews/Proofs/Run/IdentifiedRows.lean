import BookmarkViews.Run.Composition
import Mathlib.Data.List.FinRange
import Mathlib.Data.List.Nodup

/-!
Lists of identified rows: what removing repeated identities keeps, and what an
intersection keeps.

* `Composition.dedup_map`: a row stays unless an earlier one has its identity, told by
  positions;
* `Composition.dedup_append`: a list in front of another is not touched by it;
* `Composition.nodup_keys_dedup` and `Composition.mem_keys_dedup`: every identity stays
  once;
* `Composition.foldl_keepCommon`: intersecting with several lists keeps what occurs in all.
-/

namespace BookmarkViews.Composition

/-! ### Repeated identities -/

theorem dedup_cons_of_mem {seen : List String} {e : Identified} (h : e.1 ∈ seen)
    (es : List Identified) : dedup seen (e :: es) = dedup seen es := by
  rw [dedup, if_pos (List.contains_iff_mem.mpr h)]

theorem dedup_cons_of_notMem {seen : List String} {e : Identified} (h : e.1 ∉ seen)
    (es : List Identified) : dedup seen (e :: es) = e :: dedup (e.1 :: seen) es := by
  rw [dedup, if_neg (by simpa using h)]

/-- What stays depends on which identities were met, not on their order. -/
theorem dedup_congr {seen seen' : List String} (h : ∀ key, key ∈ seen ↔ key ∈ seen')
    (es : List Identified) : dedup seen es = dedup seen' es := by
  induction es generalizing seen seen' with
  | nil => rfl
  | cons e es ih =>
    by_cases met : e.1 ∈ seen
    · rw [dedup_cons_of_mem met, dedup_cons_of_mem ((h _).mp met), ih h]
    · rw [dedup_cons_of_notMem met, dedup_cons_of_notMem (fun mem => met ((h _).mpr mem))]
      have onward := @ih (e.1 :: seen) (e.1 :: seen') (by simp [h])
      rw [onward]

/-- **A list in front keeps its rows**; behind it, its identities count as met. -/
theorem dedup_append (seen : List String) (es fs : List Identified) :
    dedup seen (es ++ fs) = dedup seen es ++ dedup (seen ++ es.map (·.1)) fs := by
  induction es generalizing seen with
  | nil => simp [dedup]
  | cons e es ih =>
    rw [List.cons_append]
    by_cases met : e.1 ∈ seen
    · rw [dedup_cons_of_mem met, dedup_cons_of_mem met, ih]
      exact congrArg _ (dedup_congr (by simp; grind) fs)
    · rw [dedup_cons_of_notMem met, dedup_cons_of_notMem met, ih, List.cons_append]
      exact congrArg _ (congrArg _ (dedup_congr (by simp; grind) fs))

/-- What was met may be left out beforehand. -/
theorem dedup_cons_seen (key : String) (seen : List String) (es : List Identified) :
    dedup (key :: seen) es = dedup seen (es.filter fun e => !(e.1 == key)) := by
  induction es generalizing seen with
  | nil => rfl
  | cons e es ih =>
    by_cases same : e.1 = key
    · rw [dedup_cons_of_mem (by simp [same]), List.filter_cons_of_neg (by simp [same]), ih]
    · rw [List.filter_cons_of_pos (by simpa using same)]
      by_cases met : e.1 ∈ seen
      · rw [dedup_cons_of_mem (List.mem_cons_of_mem _ met), dedup_cons_of_mem met, ih]
      · rw [dedup_cons_of_notMem (by simp [same, met]), dedup_cons_of_notMem met, ← ih]
        exact congrArg _ (dedup_congr (fun k => by simp [or_left_comm]) es)

/-- **The first row of every identity stays**, for rows that a function gives identities. -/
theorem dedup_identified (f : Row → String) (seen : List String) (rows : List Row) :
    dedup seen (rows.map fun row => (f row, row)) =
      ((rows.eraseDupsBy fun row other => f row == f other).filter fun row => f row ∉ seen).map
        fun row => (f row, row) := by
  -- The induction is on the number of rows, as a row leaves with all of its identity.
  induction size : rows.length using Nat.strong_induction_on generalizing rows with
  | _ n ih =>
    cases rows with
    | nil => rfl
    | cons row rest =>
      have smaller : (rest.filter fun other => !(f other == f row)).length < n :=
        size ▸ Nat.lt_succ_of_le (List.length_filter_le _ _)
      have behind := ih _ smaller _ rfl
      have moved : dedup (f row :: seen) (rest.map fun other => (f other, other)) =
          dedup seen ((rest.filter fun other => !(f other == f row)).map fun other =>
            (f other, other)) := by
        rw [dedup_cons_seen, List.filter_map]
        rfl
      have erased : (row :: rest).eraseDupsBy (fun row other => f row == f other) =
          row :: (rest.filter fun other => !(f other == f row)).eraseDupsBy
            fun row other => f row == f other := by
        rw [List.eraseDupsBy_cons]
        refine congrArg _ (congrArg _ (List.filter_congr fun other _ => ?_))
        cases f other == f row <;> rfl
      rw [List.map_cons, erased]
      by_cases met : f row ∈ seen
      · rw [dedup_cons_of_mem met, List.filter_cons_of_neg (by simpa using met), ← behind, ← moved]
        exact dedup_congr (by simp; grind) _
      · rw [dedup_cons_of_notMem met, List.filter_cons_of_pos (by simpa using met), List.map_cons,
          ← behind, ← moved]

/-- **Every identity that was not met before stays.** -/
theorem mem_keys_dedup {seen : List String} {es : List Identified} {key : String} :
    key ∈ (dedup seen es).map (·.1) ↔ key ∈ es.map (·.1) ∧ key ∉ seen := by
  induction es generalizing seen with
  | nil => simp [dedup]
  | cons e es ih =>
    by_cases met : e.1 ∈ seen
    · rw [dedup_cons_of_mem met, ih]
      grind
    · rw [dedup_cons_of_notMem met, List.map_cons, List.mem_cons, ih]
      grind

/-- **No identity stays twice.** -/
theorem nodup_keys_dedup (seen : List String) (es : List Identified) :
    ((dedup seen es).map (·.1)).Nodup := by
  induction es generalizing seen with
  | nil => exact List.nodup_nil
  | cons e es ih =>
    by_cases met : e.1 ∈ seen
    · rw [dedup_cons_of_mem met]
      exact ih seen
    · rw [dedup_cons_of_notMem met, List.map_cons, List.nodup_cons]
      refine ⟨fun again => ?_, ih _⟩
      exact (mem_keys_dedup.mp again).2 List.mem_cons_self

/-- **A row is left out when an earlier one has its identity**, and else it stays: the
positions that stay, for rows that come from other things. -/
theorem dedup_map {α : Type} (f : α → Identified) (seen : List String) (items : List α) :
    dedup seen (items.map f) =
      ((List.finRange items.length).filter fun i =>
        (f items[i]).1 ∉ seen ∧ ∀ j < i, (f items[j]).1 ≠ (f items[i]).1).map fun i => f items[i] := by
  induction items generalizing seen with
  | nil => rfl
  | cons a items ih =>
    -- A later position is kept behind `a` when it is kept among the rows behind, with the
    -- identity of `a` as one that was met.
    have behind (i : Fin items.length) :
        (∀ j < i.succ, (f (a :: items)[j]).1 ≠ (f items[i]).1) ↔
          (f a).1 ≠ (f items[i]).1 ∧ ∀ j < i, (f items[j]).1 ≠ (f items[i]).1 := by
      simp [Fin.forall_fin_succ]
    have positions : List.finRange (a :: items).length =
        0 :: (List.finRange items.length).map Fin.succ := List.finRange_succ
    rw [List.map_cons, positions]
    by_cases met : (f a).1 ∈ seen
    · rw [dedup_cons_of_mem met, ih, List.filter_cons_of_neg (by simp [met]), List.filter_map,
        List.map_map]
      refine congrArg _ (List.filter_congr fun i _ => decide_eq_decide.mpr ?_)
      refine and_congr_right fun new => (behind i).trans ?_ |>.symm
      exact and_iff_right fun same => new (same ▸ met)
    · rw [dedup_cons_of_notMem met, ih, List.filter_cons_of_pos (by simp [met]), List.filter_map,
        List.map_cons, List.map_map]
      refine congrArg _ (congrArg _ (List.filter_congr fun i _ => decide_eq_decide.mpr ?_))
      refine Iff.trans ?_ (and_congr_right fun _ => behind i).symm
      rw [List.mem_cons, not_or, and_comm (a := _ ≠ _), and_assoc]
      exact and_congr_right fun _ => and_congr_left fun _ => ne_comm

/-! ### Common identities -/

/-- **Intersecting with lists keeps the rows whose identities occur in all of them.** -/
theorem foldl_keepCommon (lists : List (List Identified)) (rows : List Identified) :
    lists.foldl keepCommon rows =
      rows.filter fun e => lists.all fun others => (others.map (·.1)).contains e.1 := by
  induction lists generalizing rows with
  | nil => simp
  | cons others lists ih =>
    rw [List.foldl_cons, ih, keepCommon, List.filter_filter]
    exact List.filter_congr fun e _ => by rw [List.all_cons, Bool.and_comm]

end BookmarkViews.Composition
