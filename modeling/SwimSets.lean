import SwimSets.Command.Reference
import SwimSets.Main
import SwimSets.Proofs.Accounting
import SwimSets.Proofs.Conservation
import SwimSets.Proofs.Multipliers
import SwimSets.Proofs.Blocks
import SwimSets.Proofs.Strokes
import SwimSets.Proofs.Interference
import SwimSets.Proofs.Rests
import SwimSets.Proofs.Spacing
import SwimSets.Proofs.Layout
import SwimSets.Proofs.Numbers
import SwimSets.Proofs.Growth
import SwimSets.Proofs.Checked
import SwimSets.Proofs.AllOrNothing
import SwimSets.Proofs.Columns
import SwimSets.Proofs.Repeats
import SwimSets.Proofs.Occurrences
import SwimSets.Proofs.Truncation
import SwimSets.Proofs.Precedence
import SwimSets.Proofs.Borrowed
import SwimSets.Proofs.LaneNumbers
import SwimSets.Proofs.Stripping
import SwimSets.Proofs.Parts
import SwimSets.Proofs.Pools
import SwimSets.Proofs.LineEndings
import SwimSets.Proofs.Grouping
import SwimSets.Proofs.NormalForm
import SwimSets.Proofs.Faithful
import SwimSets.Proofs.Saving
