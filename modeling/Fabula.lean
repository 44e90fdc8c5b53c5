import Fabula.Condition
import Fabula.Console
import Fabula.Content.Field
import Fabula.Content.Registry
import Fabula.Content.Setup
import Fabula.Content.Story
import Fabula.Content.World
import Fabula.Dialogue.Basic
import Fabula.Dialogue.Record
import Fabula.Dice.Bound
import Fabula.Dice.Digest
import Fabula.Dice.Roller
import Fabula.Dice.Seed
import Fabula.Dice.Twister
import Fabula.Effect
import Fabula.Failure
import Fabula.Json.Reader
import Fabula.Json.Token
import Fabula.Json.Writer
import Fabula.Key
import Fabula.Localization
import Fabula.Moment
import Fabula.Number.Basic
import Fabula.Number.Binary64
import Fabula.Number.Hypotenuse
import Fabula.Number.Numeral
import Fabula.Number.Shortest
import Fabula.Parameter
import Fabula.Phase
import Fabula.Proofs.Content.Flaw
import Fabula.Proofs.Content.Keyed
import Fabula.Proofs.Content.Named
import Fabula.Proofs.Content.Refused
import Fabula.Proofs.Content.Routed
import Fabula.Proofs.Content.Shapes
import Fabula.Proofs.Dialogue.Record
import Fabula.Proofs.Dice.Replayer
import Fabula.Proofs.Dice.Rolling
import Fabula.Proofs.Drawn
import Fabula.Proofs.FailsOnly
import Fabula.Proofs.Interpolation
import Fabula.Proofs.Moment
import Fabula.Proofs.Number.Exact
import Fabula.Proofs.Number.Finite
import Fabula.Proofs.Number.Order
import Fabula.Proofs.Number.Range
import Fabula.Proofs.Number.Remainder
import Fabula.Proofs.Number.Rounding
import Fabula.Proofs.Number.Sum
import Fabula.Proofs.Number.Unpacked
import Fabula.Proofs.Outcome
import Fabula.Proofs.Quotation
import Fabula.Proofs.Rules.Addition
import Fabula.Proofs.Rules.Agreement
import Fabula.Proofs.Rules.Application
import Fabula.Proofs.Rules.Comparison
import Fabula.Proofs.Rules.Record
import Fabula.Proofs.RunLog
import Fabula.Proofs.RunLog.Call
import Fabula.Proofs.RunLog.Numbered
import Fabula.Proofs.RunLog.Restored
import Fabula.Proofs.Script.Block
import Fabula.Proofs.Script.ChoiceId
import Fabula.Proofs.Script.Coherent
import Fabula.Proofs.Script.Comment
import Fabula.Proofs.Script.Edit
import Fabula.Proofs.Script.Fold
import Fabula.Proofs.Script.Grammar
import Fabula.Proofs.Script.Layout
import Fabula.Proofs.Script.Moved
import Fabula.Proofs.Script.Overlong
import Fabula.Proofs.Script.Quoted
import Fabula.Proofs.Script.Reading
import Fabula.Proofs.Script.Refused
import Fabula.Proofs.Session.Answering
import Fabula.Proofs.Session.Arrival
import Fabula.Proofs.Session.Asking
import Fabula.Proofs.Session.Belongings
import Fabula.Proofs.Session.Beside
import Fabula.Proofs.Session.CallMeaning
import Fabula.Proofs.Session.Chain
import Fabula.Proofs.Session.Course
import Fabula.Proofs.Session.Cue
import Fabula.Proofs.Session.Deed
import Fabula.Proofs.Session.Dice
import Fabula.Proofs.Session.Ending
import Fabula.Proofs.Session.Flag
import Fabula.Proofs.Session.Frame
import Fabula.Proofs.Session.Hop
import Fabula.Proofs.Session.Impossible
import Fabula.Proofs.Session.Ledger
import Fabula.Proofs.Session.Line
import Fabula.Proofs.Session.Looks
import Fabula.Proofs.Session.Mirror
import Fabula.Proofs.Session.Move
import Fabula.Proofs.Session.Once
import Fabula.Proofs.Session.Place
import Fabula.Proofs.Session.Quiet
import Fabula.Proofs.Session.Reachable
import Fabula.Proofs.Session.Refusal
import Fabula.Proofs.Session.Replay
import Fabula.Proofs.Session.Rerun
import Fabula.Proofs.Session.Saving
import Fabula.Proofs.Session.Settled
import Fabula.Proofs.Session.Telling
import Fabula.Proofs.Session.Trail
import Fabula.Proofs.Session.Translation
import Fabula.Proofs.Session.Trigger
import Fabula.Proofs.Session.Visit
import Fabula.Proofs.Session.Walk
import Fabula.Proofs.Sound
import Fabula.Proofs.State.Clock
import Fabula.Proofs.State.Malformed
import Fabula.Proofs.State.Record
import Fabula.Proofs.Table
import Fabula.Proofs.Tracker
import Fabula.Proofs.Typed.Action
import Fabula.Proofs.Typed.Rules
import Fabula.Proofs.Typed.Run
import Fabula.Proofs.Typed.Session
import Fabula.Proofs.Typed.Value
import Fabula.Proofs.Typed.View
import Fabula.Proofs.Typed.Walk
import Fabula.Proofs.Value.Alike
import Fabula.Proofs.Wording
import Fabula.Rules.Application
import Fabula.Rules.Evaluation
import Fabula.RunLog
import Fabula.Script.Dialogue
import Fabula.Script.Expression
import Fabula.Script.Section
import Fabula.Script.Token
import Fabula.Session.Action
import Fabula.Session.Basic
import Fabula.Session.Walk
import Fabula.Settings
import Fabula.State.Basic
import Fabula.State.Clock
import Fabula.State.Save
import Fabula.Table
import Fabula.Text.Blank
import Fabula.Text.Digit
import Fabula.Text.Lines
import Fabula.Text.LowerCase
import Fabula.Text.Printable
import Fabula.Text.Quoted
import Fabula.Text.ShellWords
import Fabula.Text.WordCharacter
import Fabula.Value.Basic
import Fabula.Value.Order
import Fabula.Value.Reading
import Fabula.Value.Text
import Fabula.View
