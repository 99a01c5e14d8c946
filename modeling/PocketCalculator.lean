import PocketCalculator.Main
import PocketCalculator.Proofs.Accepting
import PocketCalculator.Proofs.Typing
import PocketCalculator.Window.Keyboard
import PocketCalculator.Window.Keypad
import PocketCalculator.Proofs.DeferredFunctions
import PocketCalculator.Proofs.OpenedOperations
import PocketCalculator.Proofs.Mantissa
import PocketCalculator.Proofs.ScreenShape
import PocketCalculator.Proofs.ScreenValue
import PocketCalculator.Proofs.ScreenReading
import PocketCalculator.Proofs.OpenFactors
import PocketCalculator.Proofs.Closing
import PocketCalculator.Proofs.RecordedCauses
import PocketCalculator.Proofs.Squares
import PocketCalculator.Proofs.Histories
import PocketCalculator.Proofs.IdleZeros
import PocketCalculator.Proofs.JournalTrace
import PocketCalculator.Proofs.KeyResults
import PocketCalculator.Proofs.InverseMode
import PocketCalculator.Proofs.Frames
import PocketCalculator.Proofs.Lookahead
import PocketCalculator.Proofs.PercentCuts
import PocketCalculator.Proofs.TruthfulCauses
import PocketCalculator.Proofs.FactorialKey
import PocketCalculator.Proofs.TypedWords
import PocketCalculator.Proofs.TrigonometricButtons
import PocketCalculator.Proofs.DescentMoments
