import CustomerNotice.Main
import CustomerNotice.Session
import CustomerNotice.Proofs.Notice.Delivery
import CustomerNotice.Proofs.Application.Observation
import CustomerNotice.Proofs.Application.Repetition
import CustomerNotice.Proofs.Tree.Merging
import CustomerNotice.Proofs.Tree.Assignment
import CustomerNotice.Proofs.Format.DistinctKeys
import CustomerNotice.Proofs.Configuration.Layering
import CustomerNotice.Proofs.Configuration.Variables
import CustomerNotice.Proofs.Program.Ending
import CustomerNotice.Proofs.Configuration.Lookup
import CustomerNotice.Proofs.Format.YamlReals
import CustomerNotice.Proofs.Configuration.BreakingOff
import CustomerNotice.Proofs.Tree.Views
import CustomerNotice.Proofs.Configuration.Reading
import CustomerNotice.Proofs.Text.Casing
import CustomerNotice.Proofs.Tree.Keys
import CustomerNotice.Proofs.Configuration.Settings
import CustomerNotice.Proofs.Configuration.Irrelevance
import CustomerNotice.Proofs.Configuration.Respelling
import CustomerNotice.Proofs.Configuration.FirstFailure
import CustomerNotice.Proofs.Number.Literals
import CustomerNotice.Proofs.Configuration.EffectiveValue
import CustomerNotice.Proofs.Configuration.RevealDecision
import CustomerNotice.Proofs.Text.Lowering
import CustomerNotice.Proofs.Environment.Detection
import CustomerNotice.Proofs.Application.Trace
import CustomerNotice.Proofs.Tree.Effects
import CustomerNotice.Proofs.Tree.Outline
import CustomerNotice.Proofs.Tree.Rewriting
import CustomerNotice.Proofs.Configuration.RepeatedFile
import CustomerNotice.Proofs.Notice.Causes
import CustomerNotice.Proofs.Text.Quoting
import CustomerNotice.Proofs.Configuration.DebugText
import CustomerNotice.Proofs.Tree.Commuting
import CustomerNotice.Proofs.Configuration.DottedFields
import CustomerNotice.Proofs.Configuration.TypeErrors
import CustomerNotice.Proofs.Notice.Lines
import CustomerNotice.Proofs.Log.Nesting
import CustomerNotice.Proofs.Log.DirectiveReading
import CustomerNotice.Proofs.Log.Thresholds
import CustomerNotice.Proofs.Log.Filtering
import CustomerNotice.Proofs.Log.Slots
import CustomerNotice.Proofs.Format.JsonObjects
import CustomerNotice.Proofs.Log.Attribution
