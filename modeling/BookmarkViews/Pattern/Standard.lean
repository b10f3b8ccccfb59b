import BookmarkViews.Pattern.Basic
import BookmarkViews.Pattern.Reading

/-!
The engine of patterns that runs.
-/

namespace BookmarkViews.StandardPatterns

/-- Patterns are read as regular expressions, and matches looked for at every place. -/
scoped instance : PatternEngine where
  compiles pattern := (Pattern.Regex.read? pattern.toList).isSome
  finds pattern text := (Pattern.Regex.read? pattern.toList).any (·.occursIn text.toList)

end BookmarkViews.StandardPatterns
