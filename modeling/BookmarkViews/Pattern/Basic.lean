/-!
Patterns: texts that are regular expressions.
-/

namespace BookmarkViews

/-- What decides about patterns. A pattern is known by its text. -/
class PatternEngine where
  /-- Whether a text is a pattern. -/
  compiles : (pattern : String) → Bool
  /-- Whether a match of a pattern stands in a text. -/
  finds : (pattern text : String) → Bool

end BookmarkViews
