import RuleTree.Eval.Limits
import RuleTree.Expr.Build
import RuleTree.Value.Display
import RuleTree.Value.Inference
import RuleTree.Wire.Text
import RuleTree.Proofs.PlacedAction
import RuleTree.Proofs.Action
import RuleTree.Proofs.NodeBody
import RuleTree.Proofs.Correspondence
import RuleTree.Proofs.Lockstep
import RuleTree.Proofs.Place
import RuleTree.Proofs.EquivalentTrees
import RuleTree.Proofs.UnlimitedEvaluation
import RuleTree.Proofs.UnrolledLoop
import RuleTree.Proofs.Arrivals
import RuleTree.Proofs.Laziness
import RuleTree.Proofs.StoppedLoop
import RuleTree.Proofs.Marks
import RuleTree.Proofs.SlotFlow
import RuleTree.Proofs.Recording
import RuleTree.Proofs.BuiltTree
import RuleTree.Proofs.TypeSoundness
import RuleTree.Proofs.TypeSafety
import RuleTree.Proofs.SlotContents
import RuleTree.Proofs.ConsistentSlots
import RuleTree.Proofs.LimitCrossing
import RuleTree.Proofs.LimitedEvaluation
import RuleTree.Proofs.FailStop
import RuleTree.Proofs.RunCounters
import RuleTree.Proofs.TypeGrammar
import RuleTree.Proofs.WireGrammar
import RuleTree.Proofs.WireRoundTrip
import RuleTree.Proofs.TextRoundTrip
import RuleTree.Proofs.ObtainedValue
import RuleTree.Proofs.WireEquality
import RuleTree.Proofs.InferredType
import RuleTree.Proofs.NaturalText
import RuleTree.Proofs.ScalarSearch
import RuleTree.Proofs.FaithfulEvaluation
import RuleTree.Proofs.ConnectiveLaws
import RuleTree.Proofs.CoherentSearch
import RuleTree.Proofs.MapReading
import RuleTree.Proofs.PlaceListing
import RuleTree.Proofs.EvaluationOrder
import RuleTree.Proofs.LevelConversion
import RuleTree.Proofs.LastWrite
import RuleTree.Proofs.StructureFaults
import RuleTree.Proofs.FirstFault
import RuleTree.Proofs.IntegerText
import RuleTree.Proofs.TypeText
