import BookmarkViews.Files.Tree
import BookmarkViews.Main
import BookmarkViews.Proofs.Condition.RoundTrip
import BookmarkViews.Proofs.Run.Loaded
import BookmarkViews.Proofs.Run.Pushdown
import BookmarkViews.Proofs.Store.NumberColumns
import BookmarkViews.View.Builder
import BookmarkViews.Proofs.Run.DependencyOrder
import BookmarkViews.Proofs.Run.GuardedRun
import BookmarkViews.Proofs.Run.Outcome
import BookmarkViews.Proofs.Run.Validated
import BookmarkViews.Proofs.Store.TagSets
import BookmarkViews.Proofs.Store.Columns
import BookmarkViews.Proofs.Store.TextColumns
import BookmarkViews.Proofs.Run.Duplicates
import BookmarkViews.Proofs.Run.PlainRows
import BookmarkViews.Proofs.Run.Remembered
import BookmarkViews.Proofs.Run.Composing
import BookmarkViews.Proofs.Run.RunsOnce
import BookmarkViews.Proofs.Run.SetLaws
import BookmarkViews.Proofs.Run.FilterView
import BookmarkViews.Proofs.View.LoadingOrder
import BookmarkViews.Proofs.Result.Lossless
import BookmarkViews.Proofs.Run.GroupedRows
import BookmarkViews.Proofs.Run.OutputColumns
import BookmarkViews.Proofs.Run.IntegerSums
import BookmarkViews.Proofs.Run.SortedRows
import BookmarkViews.Proofs.Value.FieldOrder
import BookmarkViews.Proofs.Condition.IntegerEquality
import BookmarkViews.Proofs.Condition.Occurrences
import BookmarkViews.Proofs.Condition.DateConditions
import BookmarkViews.Proofs.Condition.OperatorEntries
import BookmarkViews.Proofs.Condition.WholeDays
import BookmarkViews.Proofs.Run.BoundTemplates
import BookmarkViews.Proofs.Time.Windows
import BookmarkViews.Proofs.Condition.ListParameters
import BookmarkViews.Proofs.Store.DerivedTags
import BookmarkViews.Proofs.Store.TagBounds
import BookmarkViews.Proofs.Text.EditDistance
import BookmarkViews.Proofs.View.BuiltViews
import BookmarkViews.Proofs.Run.HierarchyFilters
import BookmarkViews.Proofs.Param.SlotRanges
