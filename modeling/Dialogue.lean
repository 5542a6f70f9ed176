import Dialogue.Disk.Tree
import Dialogue.Main
import Dialogue.Proofs.Session.Coherence
import Dialogue.Proofs.Session.Delivery
import Dialogue.Settings.Kept
import Dialogue.Proofs.Event.Ending
import Dialogue.Proofs.Session.Ending
import Dialogue.Proofs.Session.Frame
import Dialogue.Proofs.Session.Without
import Dialogue.Proofs.Session.Abort
import Dialogue.Proofs.Session.Progress
import Dialogue.Proofs.Session.NewChat
import Dialogue.Proofs.Store.History
import Dialogue.Proofs.Store.Finality
import Dialogue.Proofs.Store.Publishing
import Dialogue.Proofs.Event.Handling
import Dialogue.Proofs.History.Reopening
import Dialogue.Proofs.Settings.Kept
import Dialogue.Proofs.Settings.Start
import Dialogue.Proofs.Text.Percent
import Dialogue.Proofs.Http.Segment
import Dialogue.Proofs.Http.Address
import Dialogue.Proofs.Http.Status
import Dialogue.Proofs.Shell.Follow
import Dialogue.Proofs.Shell.Run
import Dialogue.Proofs.Shell.Telling
import Dialogue.Proofs.Shell.Printing
import Dialogue.Proofs.Json.Nested
import Dialogue.Proofs.Json.Follows
import Dialogue.Proofs.Source.Written
import Dialogue.Proofs.History.Written
import Dialogue.Proofs.History.Kept
import Dialogue.Proofs.Settings.Secrecy
import Dialogue.Proofs.Turn.Fold
import Dialogue.Proofs.Text.Lossy
import Dialogue.Proofs.Text.Pieces
import Dialogue.Proofs.Text.Lines.Buffer
import Dialogue.Proofs.Session.Gap
import Dialogue.Proofs.Session.Atomic
import Dialogue.Proofs.Source
import Dialogue.Proofs.Event.Reading
import Dialogue.Proofs.Source.Json
import Dialogue.Proofs.Event.Line
import Dialogue.Proofs.Question
import Dialogue.Proofs.Event.Waking
import Dialogue.Proofs.History.Reconciling
import Dialogue.Proofs.Settings.Editing
import Dialogue.Proofs.Settings.Describing
import Dialogue.Proofs.Shell.Command
