import BookmarkViews.Proofs.Param.Scanning

/-!
Filling in a template succeeds exactly when its slots can be read and are all bound.

The slots of a document value are read by one recursion (`Node.slotNames?`) and filled in by
another (`Node.fill?`); both see the same texts, at every depth.

* `Template.exists_fill?_iff`: filling in a text;
* `Node.exists_fill?_iff`: filling in a document value;
* `Node.fillText?_slotText`: a text that is one slot becomes the value bound to it.
-/

namespace BookmarkViews

/-- Slots that can be read and name nothing but these parameters. -/
def SlotsAmong (declared : List String) (slots : Except Fault (List String)) : Prop :=
  ∃ names, slots = .ok names ∧ ∀ name ∈ names, name ∈ declared

variable {declared : List String} {params : Params}

theorem slotsAmong_nil : SlotsAmong declared (.ok []) :=
  ⟨[], rfl, fun _ mem => nomatch mem⟩

theorem slotsAmong_append {xs ys : Except Fault (List String)} :
    SlotsAmong declared (do let x ← xs; let y ← ys; return x ++ y) ↔
      SlotsAmong declared xs ∧ SlotsAmong declared ys := by
  cases xs <;> cases ys <;> simp [SlotsAmong, bind, Except.bind, pure, Except.pure, or_imp, forall_and]

namespace Template

theorem exists_bound?_iff {name : String} :
    (∃ v, bound? params name = .ok v) ↔ name ∈ Keyed.keys params := by
  rw [bound?]
  constructor
  · rintro ⟨v, h⟩
    by_contra unknown
    rw [Keyed.get?_eq_none_of_notMem unknown] at h
    exact nomatch h
  · intro known
    obtain ⟨v, found⟩ := Keyed.exists_get?_of_mem known
    exact ⟨v, by rw [found]⟩

theorem exists_fillPiece?_iff {piece : Piece} :
    (∃ cs, fillPiece? params piece = .ok cs) ↔
      ∀ name, piece = .slot name → name ∈ Keyed.keys params := by
  cases piece with
  | text cs => simp [fillPiece?]
  | slot name =>
    rw [fillPiece?, exists_map_eq_ok_iff, exists_bound?_iff]
    simp

theorem mem_pieceNames {pieces : List Piece} {name : String} :
    name ∈ Node.pieceNames pieces ↔ .slot name ∈ pieces := by
  rw [Node.pieceNames, List.mem_filterMap]
  constructor
  · rintro ⟨piece, mem, picked⟩
    cases piece with
    | text cs => exact nomatch picked
    | slot other => rwa [← Option.some.inj picked]
  · intro mem
    exact ⟨.slot name, mem, rfl⟩

/-- The pieces of a text can all be filled in when its slots are bound. -/
theorem exists_fillPieces?_iff {pieces : List Piece} :
    (∃ texts, pieces.mapM (fillPiece? params) = .ok texts) ↔
      ∀ name ∈ Node.pieceNames pieces, name ∈ Keyed.keys params := by
  rw [exists_mapM_eq_ok_iff]
  constructor
  · intro filled name mem
    exact exists_fillPiece?_iff.mp (filled _ (mem_pieceNames.mp mem)) name rfl
  · intro bound piece mem
    apply exists_fillPiece?_iff.mpr
    rintro name rfl
    exact bound name (mem_pieceNames.mpr mem)

/-- **A text is filled in exactly when its slots can be read and are bound.** -/
theorem exists_fill?_iff {s : String} :
    (∃ t, fill? params s = .ok t) ↔
      SlotsAmong (Keyed.keys params) ((scan? s).map Node.pieceNames) := by
  cases scanned : scan? s with
  | error fault => simp [fill?, scanned, SlotsAmong, bind, Except.bind, Except.map]
  | ok pieces =>
    have texts : (∃ t, fill? params s = .ok t) ↔
        ∃ texts, pieces.mapM (fillPiece? params) = .ok texts := by
      simp [fill?, scanned, bind_eq_ok, pure, Except.pure]
    rw [texts, exists_fillPieces?_iff]
    simp [SlotsAmong, Except.map]

end Template

namespace Node

/-- A lone slot becomes its value exactly when it could be filled in as a text. -/
theorem exists_fillText?_iff {s : String} :
    (∃ m, fillText? params s = .ok m) ↔ SlotsAmong (Keyed.keys params) (slotNames? (.text s)) := by
  rw [slotNames?]
  cases scanned : Template.scan? s with
  | error fault => simp [fillText?, scanned, SlotsAmong, bind, Except.bind, Except.map]
  | ok pieces =>
    rw [← scanned, ← Template.exists_fill?_iff]
    simp only [fillText?, scanned, bind, Except.bind]
    split
    · next name =>
      have filled : (∃ t, Template.fill? params s = .ok t) ↔
          ∃ v, Template.bound? params name = .ok v := by
        rw [Template.exists_fill?_iff, scanned, Template.exists_bound?_iff]
        simp [SlotsAmong, Except.map, pieceNames]
      rw [filled]
      cases Template.bound? params name <;> simp [pure, Except.pure]
    · cases Template.fill? params s <;> simp [pure, Except.pure]

mutual

/-- **A document value is filled in exactly when its slots can be read and are
bound.** -/
theorem exists_fill?_iff : (n : Node) →
    ((∃ m, n.fill? params = .ok m) ↔ SlotsAmong (Keyed.keys params) n.slotNames?)
  | .text s => by rw [fill?]; exact exists_fillText?_iff
  | .sequence items => by
    rw [fill?, slotNames?, exists_map_eq_ok_iff, exists_fillAll?_iff items]
  | .mapping entries => by
    rw [fill?, slotNames?, exists_map_eq_ok_iff, exists_fillEntries?_iff entries]
  | .tagged _ inner => by rw [fill?, slotNames?]; exact exists_fill?_iff inner
  | .null => iff_of_true ⟨_, fill?.eq_def params .null⟩ slotsAmong_nil
  | .bool _ => iff_of_true ⟨_, fill?.eq_def params _⟩ slotsAmong_nil
  | .number _ => iff_of_true ⟨_, fill?.eq_def params _⟩ slotsAmong_nil

theorem exists_fillAll?_iff : (items : List Node) →
    ((∃ ms, fillAll? params items = .ok ms) ↔
      SlotsAmong (Keyed.keys params) (allSlotNames? items))
  | [] => iff_of_true ⟨_, fillAll?.eq_def params _⟩ slotsAmong_nil
  | n :: ns => by
    rw [fillAll?, allSlotNames?, exists_both_eq_ok_iff, slotsAmong_append, exists_fill?_iff n,
      exists_fillAll?_iff ns]

theorem exists_fillEntries?_iff : (entries : List (Node × Node)) →
    ((∃ ms, fillEntries? params entries = .ok ms) ↔
      SlotsAmong (Keyed.keys params) (entrySlotNames? entries))
  | [] => iff_of_true ⟨_, fillEntries?.eq_def params _⟩ slotsAmong_nil
  | (k, n) :: es => by
    rw [fillEntries?, entrySlotNames?, exists_both_eq_ok_iff, slotsAmong_append,
      exists_fill?_iff n, exists_fillEntries?_iff es]

end

end Node

/-! ### Lone slots -/

/-- **A lone slot becomes the value bound to its name.** -/
theorem Node.fillText?_slotText {name : String} (h : Template.Nameable name) {v : Value}
    (bound : Keyed.get? params name = some v) :
    fillText? params (Template.slotText name) = .ok (Node.ofValue v) := by
  rw [fillText?, Template.scan?_slotText h]
  simp [bind, Except.bind, Template.bound?, bound, pure, Except.pure]

end BookmarkViews
