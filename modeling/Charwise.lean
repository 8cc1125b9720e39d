import Charwise.Class.Report
import Charwise.Locale.Environment
import Charwise.Matcher.Layers
import Charwise.Matcher.Runs
import Charwise.Parser.Run
import Charwise.Session
import Charwise.Unicode.Published
import Charwise.Proofs.Soundness
import Charwise.Proofs.Skipping
import Charwise.Proofs.Drivers
import Charwise.Proofs.LeadingRun
import Charwise.Proofs.Phrase
import Charwise.Proofs.Equivalence
import Charwise.Proofs.Congruence
import Charwise.Proofs.SessionInvariant
import Charwise.Parser.Parts
import Charwise.Proofs.Diagnostics
import Charwise.Proofs.Simulation
import Charwise.Proofs.Suffix
import Charwise.Proofs.Accounting
import Charwise.Grammar
import Charwise.Proofs.Widening
import Charwise.Proofs.LastUnit
import Charwise.Proofs.SkipPlacement
import Charwise.Proofs.Negation
import Charwise.Proofs.GoingBack
import Charwise.Proofs.LocaleResolution
import Charwise.Proofs.UnicodeClasses
import Charwise.Proofs.TableStretches
import Charwise.Proofs.Coherence
import Charwise.Proofs.Visibility
import Charwise.Proofs.Conservation
import Charwise.Proofs.SetRanges
import Charwise.Proofs.SourceLines
import Charwise.Proofs.Excerpt
import Charwise.Proofs.Nearby
import Charwise.Proofs.WrittenSets
import Charwise.Proofs.LocaleNames
import Charwise.Proofs.ClassLaws
import Charwise.Proofs.CodesetSpelling
import Charwise.Proofs.Absorption
import Charwise.Proofs.LineCoordinates
import Charwise.Proofs.Comparison
import Charwise.Proofs.TextRoundTrip
import Charwise.Proofs.Traversal
import Charwise.Proofs.Hexadecimal
import Charwise.Proofs.Descriptions
