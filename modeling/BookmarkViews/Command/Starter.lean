/-!
The texts of a new project: its configuration, a view document and some records.
-/

namespace BookmarkViews.Starter

/-- Lines, each with its end. -/
def lines (ls : List String) : String :=
  String.join (ls.map (· ++ "\n"))

def config : String := lines [
  "# markql configuration",
  "",
  "[store]",
  "snapshot = \"records.yaml\"",
  "# sqlite = \"bookmarks.db\"",
  "",
  "[views]",
  "paths = [\"views/*.yaml\"]",
  "",
  "[output]",
  "format = \"table\"   # table | json | yaml",
  "",
  "[execution]",
  "pushdown = true"]

def views : String := lines [
  "# markql views",
  "recent:",
  "  description: Bookmarks saved in the last 30 days",
  "  filter:",
  "    created_at: within 30 days",
  "  sort: created_at desc",
  "",
  "recent_ai:",
  "  description: Recent bookmarks tagged ai or anything under ai/",
  "  from: recent",
  "  filter:",
  "    tags: any [ai, ai/*]",
  "",
  "by_domain:",
  "  description: Bookmark count and total stars per domain",
  "  group: domain",
  "  compute:",
  "    count: count()",
  "    sum_stars: sum(stars)",
  "  sort: count desc",
  "",
  "starred_since:",
  "  description: Bookmarks with at least min_stars saved after a date",
  "  params:",
  "    min_stars: \x7btype: int, default: 3\x7d",
  "    since: \x7btype: date, default: 90 days ago\x7d",
  "  filter:",
  "    stars: \">= \x7b\x7bparams.min_stars\x7d\x7d\"",
  "    created_at: \"after \x7b\x7bparams.since\x7d\x7d\""]

def records : String := lines [
  "bookmarks:",
  "  - id: 1",
  "    url: https://www.rust-lang.org/",
  "    title: Rust",
  "    domain: rust-lang.org",
  "    tags: [rust, lang]",
  "    stars: 5",
  "    created_at: 2024-01-15",
  "  - id: 2",
  "    url: https://arxiv.org/abs/1706.03762",
  "    title: Attention Is All You Need",
  "    domain: arxiv.org",
  "    tags: [ai/nlp, papers]",
  "    stars: 4",
  "    created_at: 2024-02-02",
  "edges:",
  "  - \x7bsource: 2, target: 1, relation: related\x7d"]

end BookmarkViews.Starter
