import BookmarkViews.Files.Access
import BookmarkViews.Files.Path

/-!
Path patterns.

In a name, `?` stands for one character, `*` for any number of them, and brackets
for one of some characters. A name `**` stands for any number of directories.
`Glob.expand` finds the files that a pattern means, whatever order the file system
lists them in.
-/

namespace BookmarkViews

namespace Glob

inductive Token where
  | char (c : Char)
  | any
  | run
  | directories
  /-- One of some characters, or with `negated` none of them. -/
  | oneOf (negated : Bool) (ranges : List (Char × Char))
deriving DecidableEq, Repr

/-- What is wrong with a pattern. -/
inductive Cause where
  | wildcard
  | recursion
  | range
deriving DecidableEq, Repr

/-- Why a text is no pattern, and where. -/
structure Fault where
  position : Nat
  cause : Cause
deriving DecidableEq, Repr

def Cause.text : Cause → String
  | .wildcard => s!"wildcards are either regular {mark}*{mark} or recursive {mark}**{mark}"
  | .recursion => "recursive wildcards must form a single path component"
  | .range => "invalid range pattern"
where
  mark : String := "\x60"

def Fault.text (f : Fault) : String :=
  s!"Pattern syntax error near position {f.position}: {f.cause.text}"

/-! ### Reading -/

/-- The ranges between brackets. -/
def ranges : List Char → List (Char × Char)
  | a :: '-' :: b :: cs => (a, b) :: ranges cs
  | a :: cs => (a, a) :: ranges cs
  | [] => []

/-- The brackets after an opening one: whether they are negated, what stands between
them and how many characters they take. At least one character stands between
them. -/
def brackets? (cs : List Char) : Option (Bool × List Char × Nat) :=
  let (negated, inner) := match cs with
    | '!' :: inner => (true, inner)
    | inner => (false, inner)
  match inner with
  | [] => none
  | c :: rest =>
    if rest.contains ']' then
      let more := rest.takeWhile (· ≠ ']')
      some (negated, c :: more, more.length + (if negated then 3 else 2))
    else none

/-- Read a pattern from a position on, after the character `before`; `fuel` is not
less than the number of characters. -/
def readFrom? (before : Option Char) (position : Nat) :
    (fuel : Nat) → List Char → Except Fault (List Token)
  | 0, _ => .ok []
  | _, [] => .ok []
  | fuel + 1, c :: cs =>
    let go (t : Token) (last : Char) (taken : Nat) (rest : List Char) :=
      (readFrom? (some last) (position + taken) fuel rest).map (t :: ·)
    match c, cs with
    | '?', cs => go .any '?' 1 cs
    | '*', '*' :: '*' :: _ => .error ⟨position + 2, .wildcard⟩
    | '*', '*' :: cs =>
      if before.all (· = '/') then
        match cs with
        | [] => .ok [.directories]
        | '/' :: cs => go .directories '/' 3 cs
        | _ => .error ⟨position + 2, .recursion⟩
      else .error ⟨position - 1, .recursion⟩
    | '*', cs => go .run '*' 1 cs
    | '[', cs =>
      match brackets? cs with
      | some (negated, inner, taken) =>
        go (.oneOf negated (ranges inner)) ']' (taken + 1) (cs.drop taken)
      | none => .error ⟨position, .range⟩
    | c, cs => go (.char c) c 1 cs

/-- Read a pattern. -/
def read? (cs : List Char) : Except Fault (List Token) :=
  readFrom? none 0 cs.length cs

/-! ### Matching -/

/-- Whether a token stands for a character. -/
def Token.meets (c : Char) : Token → Bool
  | .char d => c = d
  | .oneOf negated ranges => negated != ranges.any fun r => r.1 ≤ c && c ≤ r.2
  | .any | .run | .directories => true

/-- Whether tokens stand for a name. -/
def covers : List Token → List Char → Bool
  | [], cs => cs.isEmpty
  | .run :: ts, [] | .directories :: ts, [] => covers ts []
  | .run :: ts, c :: cs => covers ts (c :: cs) || covers (.run :: ts) cs
  | .directories :: ts, c :: cs => covers ts (c :: cs) || covers (.directories :: ts) cs
  | _ :: _, [] => false
  | t :: ts, c :: cs => t.meets c && covers ts cs
termination_by ts cs => (ts.length, cs.length)

/-- One step on the way that a pattern describes. -/
inductive Step where
  | name (s : String)
  | covered (tokens : List Token)
  | directories
deriving DecidableEq

/-- The step that a part of a pattern describes. -/
def stepOf (tokens : List Token) : Step :=
  let chars := tokens.filterMap fun
    | .char c => some c
    | _ => none
  if chars.length = tokens.length then .name (String.ofList chars)
  else if tokens.contains .directories then .directories
  else .covered tokens

/-- One of several steps through any number of directories says all. -/
def merged : List Step → List Step
  | .directories :: .directories :: steps => merged (.directories :: steps)
  | s :: steps => s :: merged steps
  | [] => []

/-- The steps of a pattern. -/
def steps? (pattern : String) : Except Fault (List Step) := do
  let _ ← read? pattern.toList
  let parts := pattern.toList.splitOn '/'
  let parts := if Path.isAbsolute pattern then parts.drop 1 else parts
  let parts := if parts.getLast? = some [] then parts.dropLast else parts
  return merged ((← parts.mapM read?).map stepOf)

/-- Whether a step goes to a name. -/
def Step.goesTo (name : String) : Step → Bool
  | .name s => s == name
  | .covered tokens => covers tokens name.toList
  | .directories => false

/-- A path one name longer. What is in the working directory needs no path before
its name. -/
def below (path name : String) : String :=
  if path = "." then name else Path.join path name

variable {m : Type → Type} [Monad m]

/-- The paths that steps lead to from a path. -/
def follow (files : FileAccess m) : List Step → (path : String) → m (List String)
  | [], path => return [path]
  | .name s :: rest, path => do
    let next := below path s
    let goes ← if s = "." || s = ".." then files.isDirectory path else files.isPresent next
    if goes then follow files rest next else return []
  | .covered tokens :: rest, path => do
    let names := (← files.names path).filter fun name => covers tokens name.toList
    names.flatMapM fun name => follow files rest (below path name)
  | .directories :: step :: rest, path => do
    let ways := (← files.below path).filter fun way => way.getLast?.any (step.goesTo ·)
    ways.flatMapM fun way => follow files rest (way.foldl below path)
  | [.directories], _ => return []

/-- The files that a pattern means, in order. -/
def expand (files : FileAccess m) (pattern : String) : m (Except Fault (List String)) :=
  match steps? pattern with
  | .error f => return .error f
  | .ok steps => do
    if steps.isEmpty || pattern.endsWith "/" then return .ok []
    else
      let found ← follow files steps (if Path.isAbsolute pattern then "/" else ".")
      let kept ← found.filterM files.isFile
      return .ok (kept.mergeSort fun a b => (Path.order a b).isLE)

end Glob

end BookmarkViews
