import Foldline.Config.Search
import Foldline.Command.Run
import Foldline.Intent
import Foldline.Main
import Foldline.Proofs.Outline
import Foldline.Proofs.Walk
import Foldline.Proofs.LineKind
import Foldline.Proofs.KeyPattern
import Foldline.Proofs.KeyGrammar
import Foldline.Proofs.MarkerLines
import Foldline.Proofs.Answers
import Foldline.Proofs.Normalization
import Foldline.Proofs.Extent
import Foldline.Proofs.Watching
import Foldline.Proofs.PartialWalk
import Foldline.Proofs.Operations
import Foldline.Proofs.Requests
import Foldline.Proofs.Carries
import Foldline.Proofs.Append
import Foldline.Proofs.Redraw
import Foldline.Proofs.Padding
import Foldline.Proofs.SpareTokens
import Foldline.Proofs.Bodies
import Foldline.Proofs.Reading
import Foldline.Proofs.RawLines
import Foldline.Proofs.Search
import Foldline.Proofs.Json
import Foldline.Proofs.Printed
import Foldline.Proofs.Removal
import Foldline.Proofs.Unread
import Foldline.Proofs.Command
import Foldline.Proofs.Layers
import Foldline.Proofs.PathText
import Foldline.Proofs.Resolution
import Foldline.Proofs.Accepted
import Foldline.Proofs.PatternLimits
import Foldline.Proofs.Numerals
import Foldline.Proofs.Refusals
import Foldline.Proofs.CheckedFile
import Foldline.Proofs.Closing
