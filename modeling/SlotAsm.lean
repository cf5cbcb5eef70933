import SlotAsm.Grammar
import SlotAsm.Layout
import SlotAsm.Main
import SlotAsm.Reach
import SlotAsm.Renaming
import SlotAsm.Unbounded
import SlotAsm.Unordered
import SlotAsm.WellFormed
import SlotAsm.Proofs.LineForms
import SlotAsm.Proofs.Reading
import SlotAsm.Proofs.RoundTrip
import SlotAsm.Proofs.Lifecycle
import SlotAsm.Proofs.Decoding
import SlotAsm.Proofs.Lockstep
import SlotAsm.Proofs.LineEnds
import SlotAsm.Proofs.WrongLines
import SlotAsm.Proofs.Concatenation
import SlotAsm.Proofs.Declarations
import SlotAsm.Proofs.Histories
import SlotAsm.Proofs.Sequence
import SlotAsm.Proofs.Failures
import SlotAsm.Proofs.Initialisation
import SlotAsm.Proofs.Redeclarations
import SlotAsm.Proofs.Transcripts
import SlotAsm.Proofs.Relayout
import SlotAsm.Proofs.Operands
import SlotAsm.Proofs.Stores
import SlotAsm.Proofs.Termination
import SlotAsm.Proofs.Wraparound
import SlotAsm.Proofs.BranchTargets
import SlotAsm.Proofs.SideBySide
import SlotAsm.Proofs.Renaming
import SlotAsm.Proofs.InformationFlow
import SlotAsm.Proofs.CarriageReturns
import SlotAsm.Proofs.Numbers
import SlotAsm.Proofs.Refusals
import SlotAsm.Proofs.WordReaders
import SlotAsm.Proofs.Pictures
import SlotAsm.Fields
import SlotAsm.Proofs.Fields
