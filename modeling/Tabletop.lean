import Tabletop.Main
import Tabletop.Proofs.Evaluation.Concatenation
import Tabletop.Proofs.Transcript.Lossless
import Tabletop.Proofs.Transcript.Provenance
import Tabletop.Proofs.Evaluation.ReadBack
import Tabletop.Proofs.Data.Json
import Tabletop.Proofs.Service.Steps
import Tabletop.Proofs.Service.Answering
import Tabletop.Proofs.Service.Limits
import Tabletop.Proofs.Notation.Refusals
import Tabletop.Proofs.Evaluation.Counting
import Tabletop.Proofs.Service.Rolling
import Tabletop.Proofs.Data.Reading
import Tabletop.Proofs.Transcript.Chat
import Tabletop.Proofs.Service.Announcing
import Tabletop.Proofs.Service.Alike
import Tabletop.Proofs.Service.Describing
import Tabletop.Proofs.Transcript.Layout
import Tabletop.Proofs.Service.Delivery
import Tabletop.Proofs.Service.Lifecycle
import Tabletop.Proofs.Service.Subscriptions
import Tabletop.Proofs.Session.CleanUp
import Tabletop.Proofs.Dice.Blocks
import Tabletop.Proofs.Transcript.Showing
import Tabletop.Proofs.Transcript.Lines
import Tabletop.Proofs.Dice.Zero
import Tabletop.Proofs.Notation.Divisors
import Tabletop.Proofs.Notation.Fragments
import Tabletop.Proofs.Notation.Sources
import Tabletop.Proofs.Notation.Leftmost
import Tabletop.Proofs.Dice.Dominance
import Tabletop.Proofs.Dice.Records
import Tabletop.Proofs.Dice.Ending
