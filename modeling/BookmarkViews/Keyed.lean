/-!
Lists of keyed entries, in order.

`insert` keeps the place of a key that is already there and appends a new one, so
a list built by insertions has every key once (`nodup_keys_ofEntries`).
-/

namespace BookmarkViews.Keyed

variable {κ α : Type} [DecidableEq κ]

/-- The value of the first entry with a key. -/
def get? (entries : List (κ × α)) (key : κ) : Option α :=
  entries.lookup key

/-- The keys, in order. -/
def keys (entries : List (κ × α)) : List κ :=
  entries.map (·.1)

/-- Whether an entry has the key. -/
def has (entries : List (κ × α)) (key : κ) : Bool :=
  entries.any (·.1 == key)

/-- Set the value of a key in its place, or append an entry. -/
def insert (entries : List (κ × α)) (key : κ) (value : α) : List (κ × α) :=
  if has entries key then entries.map fun e => if e.1 = key then (key, value) else e
  else entries ++ [(key, value)]

/-- Remove a key; the other entries keep their order. -/
def erase (entries : List (κ × α)) (key : κ) : List (κ × α) :=
  entries.filter (·.1 != key)

/-- Insert entries one after another. -/
def insertAll (entries more : List (κ × α)) : List (κ × α) :=
  more.foldl (fun es e => insert es e.1 e.2) entries

/-- The list of entries with possibly repeated keys: the last value of a key
counts, at the place of the first. -/
def ofEntries (entries : List (κ × α)) : List (κ × α) :=
  insertAll [] entries

theorem has_iff {entries : List (κ × α)} {key : κ} :
    has entries key = true ↔ key ∈ keys entries := by
  simp [has, keys]

theorem keys_insert (entries : List (κ × α)) (key : κ) (value : α) :
    keys (insert entries key value) =
      if key ∈ keys entries then keys entries else keys entries ++ [key] := by
  unfold insert
  by_cases h : has entries key
  · rw [if_pos h, if_pos (has_iff.1 h)]
    simp only [keys, List.map_map]
    apply List.map_congr_left
    intro e _
    by_cases he : e.1 = key <;> simp [he]
  · rw [if_neg h, if_neg (fun m => h (has_iff.2 m))]
    simp [keys]

theorem nodup_keys_insert {entries : List (κ × α)} (h : (keys entries).Nodup) (key : κ)
    (value : α) : (keys (insert entries key value)).Nodup := by
  rw [keys_insert]
  split
  · exact h
  · next hn =>
    rw [List.nodup_append]
    exact ⟨h, by simp, fun a ha b hb => by
      simp at hb; exact fun e => hn (by rw [← hb, ← e]; exact ha)⟩

/-- Inserting entries one after another keeps every key single. -/
theorem nodup_keys_insertAll {entries : List (κ × α)} (h : (keys entries).Nodup)
    (more : List (κ × α)) : (keys (insertAll entries more)).Nodup := by
  induction more generalizing entries with
  | nil => exact h
  | cons e more ih => exact ih (nodup_keys_insert h _ _)

theorem nodup_keys_ofEntries (entries : List (κ × α)) : (keys (ofEntries entries)).Nodup :=
  nodup_keys_insertAll (by simp [keys]) entries

omit [DecidableEq κ] in
theorem keys_append (before after : List (κ × α)) :
    keys (before ++ after) = keys before ++ keys after :=
  List.map_append

omit [DecidableEq κ] in
theorem mem_keys_append {before after : List (κ × α)} {k : κ} :
    k ∈ keys (before ++ after) ↔ k ∈ keys before ∨ k ∈ keys after := by
  rw [keys_append, List.mem_append]

/-- Entries with new keys are appended. -/
theorem insertAll_of_nodup {entries more : List (κ × α)}
    (distinct : (keys (entries ++ more)).Nodup) : insertAll entries more = entries ++ more := by
  induction more generalizing entries with
  | nil => rw [List.append_nil]; rfl
  | cons e more ih =>
    rw [List.append_cons] at distinct
    have new : has entries e.1 = false := by
      rw [Bool.eq_false_iff, Ne, has_iff]
      intro known
      have front : (keys (entries ++ [e])).Nodup :=
        distinct.sublist ((List.sublist_append_left _ _).map _)
      rw [keys_append, List.nodup_append] at front
      exact front.2.2 e.1 known e.1 (List.mem_singleton.mpr rfl) rfl
    have step : insert entries e.1 e.2 = entries ++ [e] := by rw [insert, new]; rfl
    rw [List.append_cons, ← ih distinct, insertAll, List.foldl_cons, step]
    rfl

/-- Entries with distinct keys are kept as they are. -/
theorem ofEntries_of_nodup {entries : List (κ × α)} (distinct : (keys entries).Nodup) :
    ofEntries entries = entries :=
  insertAll_of_nodup distinct

@[simp] theorem get?_nil (k : κ) : get? ([] : List (κ × α)) k = none := rfl

theorem get?_cons (a k : κ) (v : α) (entries : List (κ × α)) :
    get? ((a, v) :: entries) k = if k = a then some v else get? entries k := by
  by_cases h : k = a
  · simp [get?, h]
  · have : (k == a) = false := by simpa using h
    simp [get?, List.lookup_cons, h, this]

theorem get?_eq_none_iff {entries : List (κ × α)} {k : κ} :
    get? entries k = none ↔ has entries k = false := by
  induction entries with
  | nil => simp [has]
  | cons e entries ih =>
    obtain ⟨a, v⟩ := e
    rw [get?_cons]
    by_cases h : k = a
    · simp [has, h]
    · simp only [has] at ih
      simp [has, h, ih, Ne.symm h]

/-- Overwriting the value of a key leaves the other keys alone. -/
theorem get?_map_overwrite (entries : List (κ × α)) (key k : κ) (value : α) :
    get? (entries.map fun e => if e.1 = key then (key, value) else e) k =
      if k = key then (if has entries key then some value else none) else get? entries k := by
  induction entries with
  | nil => simp [has]
  | cons e entries ih =>
    obtain ⟨a, v⟩ := e
    by_cases ha : a = key
    · subst ha
      by_cases hk : k = a
      · subst hk
        simp [get?_cons, has]
      · simp [get?_cons, hk, ih]
    · by_cases hk : k = key
      · subst hk
        have hak : (a == k) = false := by simpa using ha
        have hhas : has ((a, v) :: entries) k = has entries k := by
          unfold has
          rw [List.any_cons, hak, Bool.false_or]
        simp [get?_cons, ha, Ne.symm ha, ih, hhas]
      · simp [get?_cons, ha, ih, hk]

theorem mem_of_get? {entries : List (κ × α)} {k : κ} {v : α} (h : get? entries k = some v) :
    (k, v) ∈ entries := by
  induction entries with
  | nil => exact nomatch h
  | cons e entries ih =>
    obtain ⟨a, w⟩ := e
    rw [get?_cons] at h
    split at h
    · next same =>
      rw [same, Option.some_inj.mp h]
      exact List.mem_cons_self
    · exact List.mem_cons_of_mem _ (ih h)

/-- Values that depend on their keys are looked up by the value before. -/
theorem get?_map {β : Type} (f : κ → α → β) (entries : List (κ × α)) (k : κ) :
    get? (entries.map fun e => (e.1, f e.1 e.2)) k = (get? entries k).map (f k) := by
  induction entries with
  | nil => rfl
  | cons e entries ih =>
    obtain ⟨a, v⟩ := e
    rw [List.map_cons, get?_cons, get?_cons, ih]
    split
    · next same => rw [same, Option.map_some]
    · rfl

/-- A key is looked up in a first list, and else behind it. -/
theorem get?_append (before after : List (κ × α)) (k : κ) :
    get? (before ++ after) k = (get? before k).or (get? after k) :=
  List.lookup_append

/-- A key that is there has a value. -/
theorem exists_get?_of_mem {entries : List (κ × α)} {k : κ} (h : k ∈ keys entries) :
    ∃ v, get? entries k = some v := by
  refine Option.ne_none_iff_exists'.mp ?_
  rw [Ne, get?_eq_none_iff, Bool.not_eq_false, has_iff]
  exact h

theorem get?_append_of_mem {before : List (κ × α)} {k : κ} (h : k ∈ keys before)
    (after : List (κ × α)) : get? (before ++ after) k = get? before k := by
  obtain ⟨v, found⟩ := exists_get?_of_mem h
  rw [get?_append, found, Option.some_or]

theorem get?_eq_none_of_notMem {entries : List (κ × α)} {k : κ} (h : k ∉ keys entries) :
    get? entries k = none := by
  rw [get?_eq_none_iff, Bool.eq_false_iff]
  exact fun found => h (has_iff.mp found)

/-- Where no key is there twice, every entry is found under its key. -/
theorem get?_of_mem {entries : List (κ × α)} (distinct : (keys entries).Nodup) {e : κ × α}
    (mem : e ∈ entries) : get? entries e.1 = some e.2 := by
  induction entries with
  | nil => exact nomatch mem
  | cons first entries ih =>
    obtain ⟨a, v⟩ := first
    obtain ⟨new, rest⟩ : a ∉ keys entries ∧ (keys entries).Nodup := List.nodup_cons.mp distinct
    rw [get?_cons]
    rcases List.mem_cons.mp mem with rfl | later
    · exact if_pos rfl
    · have known : e.1 ∈ keys entries := List.mem_map_of_mem later
      have other : e.1 ≠ a := fun same => new (same ▸ known)
      rw [if_neg other, ih rest later]

/-- Where no key is there twice, at most one entry has a key. -/
theorem filter_key {entries : List (κ × α)} (distinct : (keys entries).Nodup) (k : κ)
    (p : α → Bool) :
    (entries.filter fun e => e.1 == k && p e.2) =
      ((get? entries k).filter p).toList.map fun v => (k, v) := by
  induction entries with
  | nil => rfl
  | cons first entries ih =>
    obtain ⟨a, v⟩ := first
    obtain ⟨new, rest⟩ := List.nodup_cons.mp distinct
    have onward := ih rest
    rw [get?_cons]
    by_cases same : k = a
    · subst same
      rw [get?_eq_none_of_notMem new] at onward
      by_cases kept : p v = true <;> simp [Option.filter, kept, onward]
    · rw [if_neg same, ← onward, List.filter_cons_of_neg (by simp [Ne.symm same])]

/-- The first entry of a key is the one that is found. -/
theorem get?_cut {before : List (κ × α)} {k : κ} (new : k ∉ keys before) (v : α)
    (after : List (κ × α)) : get? (before ++ (k, v) :: after) k = some v := by
  rw [get?_append, get?_eq_none_of_notMem new, Option.none_or, get?_cons, if_pos rfl]

theorem get?_append_single (entries : List (κ × α)) (key k : κ) (value : α) :
    get? (entries ++ [(key, value)]) k =
      (get? entries k).or (if k = key then some value else none) := by
  induction entries with
  | nil => simp [get?_cons]
  | cons e entries ih =>
    obtain ⟨a, v⟩ := e
    by_cases ha : k = a <;> simp [get?_cons, ha, ih]

/-- What is looked up after an insertion. -/
theorem get?_insert (entries : List (κ × α)) (key k : κ) (value : α) :
    get? (insert entries key value) k = if k = key then some value else get? entries k := by
  unfold insert
  split
  · next h => rw [get?_map_overwrite, h, if_pos rfl]
  · next h =>
    rw [get?_append_single]
    by_cases hk : k = key
    · subst hk
      simp [get?_eq_none_iff.2 (Bool.eq_false_iff.2 h)]
    · simp [hk]

end BookmarkViews.Keyed
