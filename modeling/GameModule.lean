import GameModule.ConfigString
import GameModule.FlagSet
import GameModule.Host.Canned
import GameModule.Host.Recorder
import GameModule.Host.Row
import GameModule.Host.Wire
import GameModule.Rehearsal.Run
import GameModule.Space.Solid
import GameModule.Text.Quoted
import GameModule.Proofs.Lifecycle.Tick
import GameModule.Proofs.Lifecycle.Ledger
import GameModule.Proofs.Activity
import GameModule.Proofs.Lifecycle.Conservation
import GameModule.Proofs.Lifecycle.Current
import GameModule.Proofs.Lifecycle.Reentry
import GameModule.Proofs.Game.Play
import GameModule.Proofs.Session.History
import GameModule.Proofs.Game.Shape
import GameModule.Proofs.Game.ClientCall
import GameModule.Proofs.Lifecycle.Turn
import GameModule.Proofs.Lifecycle.ReturnedTable
import GameModule.Proofs.Lifecycle.ExportBlock
import GameModule.Proofs.Game.Handle
import GameModule.Proofs.Game.InUse
import GameModule.Proofs.Text.Narrow
import GameModule.Proofs.Lifecycle.Echo
import GameModule.Proofs.Lifecycle.Journal
import GameModule.Proofs.Session.Userinfo
import GameModule.Proofs.Record.Codec
import GameModule.Proofs.Record.Format
import GameModule.Proofs.Game.Independence
import GameModule.Proofs.Game.Tracing
import GameModule.Proofs.Lifecycle.Writes
import GameModule.Proofs.Lifecycle.Binding
import GameModule.Proofs.Text.RoundTrip
import GameModule.Proofs.Game.Spawn
import GameModule.Proofs.Lifecycle.Announcement
import GameModule.Proofs.Text.InfoString
import GameModule.Proofs.Text.Buffer
import GameModule.Proofs.Record.Edit
import GameModule.Proofs.Number.Exact
import GameModule.Proofs.Number.Rational
import GameModule.Proofs.Space.Coordinate
import GameModule.Proofs.Number.Whole
import GameModule.Proofs.Space.Solid
import GameModule.Proofs.Host.Count
import GameModule.Proofs.Host.CvarStore
import GameModule.Proofs.Lifecycle.Nesting
import GameModule.Proofs.Lifecycle.Lock
