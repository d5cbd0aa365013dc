import Deflatten.Files.Store
import Deflatten.Main
import Deflatten.Proofs.CommandLine.Settings
import Deflatten.Proofs.Dispatch.Accounting
import Deflatten.Proofs.Dispatch.Conditions
import Deflatten.Proofs.Dispatch.ElseBlocks
import Deflatten.Proofs.Dispatch.EntryOrder
import Deflatten.Proofs.Dispatch.Overlap
import Deflatten.Proofs.Dispatch.Programs
import Deflatten.Proofs.Dispatch.Replay
import Deflatten.Proofs.Files.RunFile
import Deflatten.Proofs.Json.Artifacts
import Deflatten.Proofs.Normalization.Commutation
import Deflatten.Proofs.Normalization.DanglingElse
import Deflatten.Proofs.Normalization.DepthShift
import Deflatten.Proofs.Normalization.FreshValue
import Deflatten.Proofs.Normalization.NaturalLiterals
import Deflatten.Proofs.Normalization.RangeSoundness
import Deflatten.Proofs.Normalization.Schedule
import Deflatten.Proofs.Normalization.Sweep
import Deflatten.Proofs.OrderArray.Normalized
import Deflatten.Proofs.Replay.FirstBlocks
import Deflatten.Proofs.Replay.Positions
import Deflatten.Proofs.Tree.Traversal
