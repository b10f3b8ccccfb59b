import BookmarkViews.Store.CellTest

/-!
How large the query of some tests is.

A relational database reads a query into a tree before it runs it. It refuses a query
with too many parameters and one whose condition is too high a tree, although it would
apply every test of it. Many patterns are a high tree, since each one is joined to all
before it, and so are many tests.
-/

namespace BookmarkViews

/-- The shape of a condition in a query. Which names, constants and operators stand in it
does not count. -/
inductive Fragment where
  /-- A name or a constant. -/
  | leaf
  | param
  | unary (x : Fragment)
  | binary (x y : Fragment)
  | and (x y : Fragment)
  /-- Whether a query by itself, with a condition, finds a row. -/
  | found (condition : Fragment)
deriving DecidableEq, Repr

namespace Fragment

/-! ### Measures -/

/-- The number of parameters. -/
def params : Fragment → Nat
  | .leaf => 0
  | .param => 1
  | .unary x => x.params
  | .binary x y | .and x y => x.params + y.params
  | .found c => c.params

/-- The height as a tree. -/
def height : Fragment → Nat
  | .leaf | .param => 1
  | .unary x => x.height + 1
  | .binary x y | .and x y => max x.height y.height + 1
  | .found c => c.height + 1

/-- The greatest height that queries within a condition have. Names in one are looked up
while those of the condition around it still are, so the two heights add up. -/
def innerHeight : Fragment → Nat
  | .leaf | .param => 0
  | .unary x => x.innerHeight
  | .binary x y | .and x y => max x.innerHeight y.innerHeight
  | .found c => c.height + c.innerHeight

/-! ### Conditions of several parts -/

/-- Parts in one condition; each part is joined to all before it. No parts are no
condition. -/
def chain (join : Fragment → Fragment → Fragment) : List Fragment → Fragment
  | [] => .leaf
  | c :: cs => cs.foldl join c

/-- The parts that all have to hold, in order. -/
def conjuncts : Fragment → List Fragment
  | .and x y => x.conjuncts ++ y.conjuncts
  | c => [c]

/-! ### Limits -/

/-- The greatest number of parameters that a database takes. -/
def mostParams : Nat := 32766

/-- The greatest height that a database takes. -/
def mostHeight : Nat := 1000

/-- Whether a database refuses a query with a condition. A condition on groups is moved
into their making part by part, the last one first. -/
def isRefused (grouped : Bool) (c : Fragment) : Bool :=
  mostParams < c.params || mostHeight < c.height + c.innerHeight ||
    (grouped && mostHeight < (chain .and c.conjuncts.reverse).height)

/-! ### Fragments of tests -/

/-- A column, with the name of its table before it. -/
def column : Fragment := .binary .leaf .leaf

/-- A test that is made only of cells of one kind. -/
def guarded (test : Fragment) : Fragment :=
  .and (.binary (.unary column) .leaf) test

/-- That a cell is an empty text. -/
def isEmptyText : Fragment :=
  guarded (.binary column .leaf)

end Fragment

/-- The fragment of a pattern: the text, or as many characters of it, are compared. -/
def TextPattern.fragment : TextPattern → Fragment
  | .exactly _ => .binary .column .param
  | .startingWith _ => .binary (.binary .column .param) .param

/-- The fragment of patterns, of which one has to be met. -/
def TextPattern.anyFragment (patterns : List TextPattern) : Fragment :=
  .chain .binary (patterns.map fragment)

namespace CellTest

/-- The fragment of a test. -/
def fragment : CellTest → Fragment
  | .isNull | .isNotNull => .unary .column
  | .number _ _ | .text _ _ => .guarded (.binary .column .param)
  | .flag _ _ => .guarded (.binary (.binary .column .leaf) .param)
  | .filled => .and (.unary .column) (.unary .isEmptyText)
  | .notFilled => .binary (.unary .column) .isEmptyText
  | .anyText patterns => TextPattern.anyFragment patterns
  | .anyTag patterns =>
    .found (.and (.binary .column .column) (TextPattern.anyFragment patterns))

/-- Whether a database refuses a query with these tests of an entity. -/
def areRefused (entity : Entity) (tests : List CellTest) : Bool :=
  (Fragment.chain .and (tests.map fragment)).isRefused (entity.stored = .tag)

end CellTest

end BookmarkViews
