import AudioLibrary.Catalog.Album
import AudioLibrary.Catalog.Tag
import AudioLibrary.Catalog.Track
import AudioLibrary.Config.Core
import AudioLibrary.Core.Bootstrap
import AudioLibrary.Credits
import AudioLibrary.Filter.Stored
import AudioLibrary.Log.Privacy
import AudioLibrary.Page
import AudioLibrary.Preset.Store
import AudioLibrary.Query.Stream
import AudioLibrary.Relational.Eval
import AudioLibrary.Relational.Placeholder
import AudioLibrary.Settings
import AudioLibrary.Store.Database
import AudioLibrary.Proofs.Relational.Like
import AudioLibrary.Proofs.Credits
import AudioLibrary.Proofs.Credits.Normal
import AudioLibrary.Proofs.Credits.Stored
import AudioLibrary.Proofs.Relational.Condition
import AudioLibrary.Proofs.Store.Sound
import AudioLibrary.Proofs.Query.Scopes
import AudioLibrary.Proofs.Query.Tags
import AudioLibrary.Proofs.Query.TagPredicates
import AudioLibrary.Proofs.Query.RowPredicates
import AudioLibrary.Proofs.Query.Rows
import AudioLibrary.Proofs.Query.Matching
import AudioLibrary.Proofs.Number.Double
import AudioLibrary.Proofs.Relational.Order
import AudioLibrary.Proofs.Query.Order
import AudioLibrary.Proofs.Query.Headers
import AudioLibrary.Proofs.Json.Spelling
import AudioLibrary.Proofs.Json.Documents
import AudioLibrary.Proofs.Filter.Drifted
import AudioLibrary.Proofs.Filter.Stored
import AudioLibrary.Proofs.Time.Calendar
import AudioLibrary.Proofs.Time.Timestamp
import AudioLibrary.Proofs.Preset.Stored
import AudioLibrary.Proofs.Action
import AudioLibrary.Proofs.Preset.Store
import AudioLibrary.Proofs.Preset.Shelf
import AudioLibrary.Proofs.Preset.Steps
import AudioLibrary.Proofs.Preset.Idle
import AudioLibrary.Proofs.Preset.Retimed
import AudioLibrary.Proofs.Preset.Evicted
import AudioLibrary.Proofs.Preset.Tasks
import AudioLibrary.Proofs.Preset.Orderly
import AudioLibrary.Proofs.Preset.Interleaved
import AudioLibrary.Proofs.Preset.Age
import AudioLibrary.Proofs.Query.Sites
import AudioLibrary.Proofs.Query.Bindings
import AudioLibrary.Proofs.Query.Faithful
import AudioLibrary.Proofs.Query.Skeleton
import AudioLibrary.Proofs.Query.Calls
import AudioLibrary.Proofs.Query.Pages
import AudioLibrary.Proofs.Query.Arrangement
import AudioLibrary.Proofs.Query.Position
import AudioLibrary.Proofs.Query.Reordered
import AudioLibrary.Proofs.Query.Narrowing
import AudioLibrary.Proofs.Query.Shapes
import AudioLibrary.Proofs.Query.Answers
import AudioLibrary.Proofs.Query.Circles
import AudioLibrary.Proofs.Query.VoiceActors
import AudioLibrary.Proofs.Query.CreditClause
import AudioLibrary.Proofs.Visits
import AudioLibrary.Proofs.Query.Restricting
import AudioLibrary.Proofs.Query.Replies
import AudioLibrary.Proofs.Query.Outlines
import AudioLibrary.Proofs.Query.Discreet
import AudioLibrary.Proofs.Filter.Toggles
import AudioLibrary.Proofs.Query.RecentlyPlayed
import AudioLibrary.Proofs.Query.TagCounts
import AudioLibrary.Proofs.Query.ActorFacet
import AudioLibrary.Proofs.Catalog.Needs
import AudioLibrary.Proofs.Query.Shown
import AudioLibrary.Proofs.Query.Records
import AudioLibrary.Proofs.Query.Copies
import AudioLibrary.Proofs.Query.Containing
import AudioLibrary.Proofs.Query.Paged
