import ChipEight.Main
import ChipEight.Proofs.StateAccess
import ChipEight.Proofs.StepOutcomes
import ChipEight.Proofs.RequestHistories
import ChipEight.Proofs.ReachableBounds
import ChipEight.Proofs.PixelFlips
import ChipEight.Proofs.SpriteHits
import ChipEight.Proofs.CheckedExecution
import ChipEight.Proofs.HaltedMachines
import ChipEight.Proofs.FrameCounts
import ChipEight.Proofs.FrameByFrameRuns
import ChipEight.Proofs.InstructionEffects
import ChipEight.Proofs.HistoryMoments
import ChipEight.Proofs.MatchedReturns
import ChipEight.Proofs.TimerHistories
import ChipEight.Proofs.RandomDraws
import ChipEight.Proofs.InterleavedRequests
import ChipEight.Proofs.FrameLengths
import ChipEight.Proofs.UnreadMemory
import ChipEight.Proofs.DrawnBytes
import ChipEight.Proofs.UnreliableDrawings
import ChipEight.Proofs.RunCourses
import ChipEight.Proofs.TruncatedRuns
import ChipEight.Proofs.ComposedRuns
import ChipEight.Proofs.DrawingOrder
import ChipEight.Proofs.AwaitedKeys
import ChipEight.Proofs.LoadedPrograms
import ChipEight.Proofs.FrameTexts
import ChipEight.Proofs.InstructionTable
import ChipEight.Proofs.StepFaults
import ChipEight.Proofs.KeypadHistories
import ChipEight.Proofs.HeldKeys
import ChipEight.Proofs.RegisterArithmetic
import ChipEight.Proofs.StepFrames
import ChipEight.Proofs.RepeatedDrawings
import ChipEight.Proofs.BlockTransfers
import ChipEight.Proofs.WordPatterns
import ChipEight.Proofs.DecimalDigits
import ChipEight.Proofs.JournalLines
import ChipEight.Proofs.RunJournals
import ChipEight.Proofs.LaunchStages
import ChipEight.Proofs.LiveRuns
import ChipEight.Proofs.StackRequests
import ChipEight.Proofs.WrittenBytes
