import BookmarkViews.Store.Basic

/-!
The answers of computations that ask a store.

A computation notes its requests as it goes. `SameAnswer` compares two
computations by what they answer or how they fail and forgets the notes, so two
ways to ask one store can be told to agree; it is kept by `pure` and by doing one
thing after another.
-/

namespace BookmarkViews

namespace Fetching

variable {α β : Type}

/-- What a computation answers after some requests were noted. -/
def answer (x : Fetching α) (noted : List FetchRequest) : Except RunFailure α :=
  (x.run.run noted).1

/-- Two computations answer the same, whatever was noted before either. -/
def SameAnswer (x y : Fetching α) : Prop :=
  ∀ noted noted', x.answer noted = y.answer noted'

@[simp] theorem answer_pure (a : α) (noted : List FetchRequest) :
    (pure a : Fetching α).answer noted = .ok a :=
  rfl

@[simp] theorem answer_given (x : Except RunFailure α) (noted : List FetchRequest) :
    (given x).answer noted = x :=
  rfl

@[simp] theorem answer_request (s : Store) (entity : Entity) (clauses : List StoreClause)
    (noted : List FetchRequest) :
    (s.request entity clauses).answer noted = (s.fetch entity clauses).mapError .store :=
  rfl

/-- A computation that goes on after `x` fails with it, or answers what follows. -/
theorem answer_bind (x : Fetching α) (f : α → Fetching β) (noted : List FetchRequest) :
    (x >>= f).answer noted =
      match x.answer noted with
      | .ok a => (f a).answer (x.run.run noted).2
      | .error e => .error e := by
  simp only [answer, ExceptT.run_bind, StateT.run_bind]
  cases x.run.run noted with
  | mk result noted' => cases result <;> rfl

/-- A computation comes to its end when both of its steps do. -/
theorem run_bind_eq_ok {x : Fetching α} {f : α → Fetching β} {b : β}
    {noted noted' : List FetchRequest} :
    (x >>= f).run.run noted = (.ok b, noted') ↔
      ∃ a between, x.run.run noted = (.ok a, between) ∧ (f a).run.run between = (.ok b, noted') := by
  rw [ExceptT.run_bind, StateT.run_bind]
  cases x.run.run noted with
  | mk result between =>
    cases result with
    | ok a =>
      constructor
      · exact fun h => ⟨a, between, rfl, h⟩
      · rintro ⟨_, _, same, h⟩
        cases same
        exact h
    | error e =>
      constructor
      · exact fun h => nomatch h
      · rintro ⟨_, _, same, _⟩
        exact nomatch same

theorem sameAnswer_pure (a : α) : SameAnswer (pure a) (pure a) :=
  fun _ _ => rfl

theorem sameAnswer_given (x : Except RunFailure α) : SameAnswer (given x) (given x) :=
  fun _ _ => rfl

/-- Steps that answer the same may be followed by steps that answer the same. -/
theorem SameAnswer.bind {x y : Fetching α} {f g : α → Fetching β} (first : SameAnswer x y)
    (next : ∀ a, SameAnswer (f a) (g a)) : SameAnswer (x >>= f) (y >>= g) := by
  intro noted noted'
  rw [answer_bind, answer_bind, first noted noted']
  cases y.answer noted' with
  | ok a => exact next a _ _
  | error e => rfl

end Fetching

end BookmarkViews
