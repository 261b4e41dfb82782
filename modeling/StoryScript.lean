import StoryScript.Main
import StoryScript.Script.Build
import StoryScript.Script.Lemmas
import StoryScript.Proofs.Exits
import StoryScript.Proofs.Agreement
import StoryScript.Proofs.Holding
import StoryScript.Proofs.LineOrigins
import StoryScript.Proofs.Rooms
import StoryScript.Proofs.Overwriting
import StoryScript.Proofs.ControlFlow
import StoryScript.Sidecar.Lemmas
import StoryScript.Proofs.WritingBack
import StoryScript.Proofs.ArrowIds
import StoryScript.Proofs.Failures
import StoryScript.Proofs.Resaving
import StoryScript.Proofs.Notices
import StoryScript.Proofs.Outages
import StoryScript.Proofs.Expiry
import StoryScript.Proofs.WireForm
import StoryScript.Graph.Lemmas
import StoryScript.Index.Lemmas
import StoryScript.Proofs.Rereading
import StoryScript.Proofs.BoxOrder
import StoryScript.Proofs.Reachability
import StoryScript.Graph.Exact
import StoryScript.Proofs.Overlap
import StoryScript.Proofs.Owners
import StoryScript.Proofs.Refusals
import StoryScript.Proofs.LineNumbers
import StoryScript.Proofs.Reopening
import StoryScript.Proofs.Searching
import StoryScript.Proofs.Closedness
import StoryScript.Proofs.Indents
import StoryScript.Proofs.EditOrder
import StoryScript.Proofs.WireRules
import StoryScript.Proofs.NoteWords
import StoryScript.Proofs.Nesting
import StoryScript.Proofs.KeptLines
import StoryScript.Proofs.Alignment
import StoryScript.Proofs.Viewports
import StoryScript.Proofs.Exclusion
import StoryScript.Proofs.DueRefreshes
import StoryScript.Proofs.InnerLabels
import StoryScript.Proofs.Verbatim
import StoryScript.Proofs.TextLines
import StoryScript.Proofs.Regions
import StoryScript.Proofs.Lookups
