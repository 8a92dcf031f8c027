import OpenRoad.Odb.TableStream
import OpenRoad.Odb.HashTableRuns
import OpenRoad.Odb.JournalUndo
import OpenRoad.Odb.WireAppendExact
import OpenRoad.Odb.WireSegmentLayers
import OpenRoad.Odb.ModuleIndex
import OpenRoad.Viewer.BatchPicking
import OpenRoad.Viewer.SceneWellFormed
import OpenRoad.Viewer.IncrementalUpdates
import OpenRoad.Viewer.FrustumPlanes
import OpenRoad.Par.CutOverlayHint
import OpenRoad.Odb.FloatingChips
import OpenRoad.Dpl.SegmentPartition
import OpenRoad.Dpl.ShiftOptimal
import OpenRoad.Dst.RelayWhole
import OpenRoad.Dft.ScanChains
import OpenRoad.Par.GroupsHonoured
import OpenRoad.Par.MoveBalance
import OpenRoad.Par.MatchingThreshold
import OpenRoad.Par.GainHeapRuns
import OpenRoad.Par.GreedyPass
import OpenRoad.Par.BucketFlags
import OpenRoad.Dft.ScanReversible
import OpenRoad.Dpl.OrientTransform
import OpenRoad.Dpl.FillerRows
import OpenRoad.Dpl.CellFlips
import OpenRoad.Dpl.UtilBucketRuns
import OpenRoad.Dpl.SegmentPushes
import OpenRoad.Par.DelaySpread
import OpenRoad.Viewer.EarClipping
import OpenRoad.Dpl.PaddingRuns
import OpenRoad.Dpl.OptimalRegion
import OpenRoad.Dpl.EdgePartition
import OpenRoad.Odb.IncludeExact
import OpenRoad.Odb.BumpMapExact
import OpenRoad.Odb.StackExact
import OpenRoad.Dpl.MirrorLengths
import OpenRoad.Odb.TransformAction
import OpenRoad.Odb.WirePeek
import OpenRoad.Odb.RegionLists
import OpenRoad.Odb.ITermConnect
import OpenRoad.Odb.SwapMaster
import OpenRoad.Odb.ChipAtomic
import OpenRoad.Odb.TrackGrid
import OpenRoad.Dst.WorkerPriorities
import OpenRoad.Dft.ScanNets
import OpenRoad.Drt.FlexGridGraph
import OpenRoad.Stt.TreeCheck
import OpenRoad.Ppl.TieBreak
import OpenRoad.Mpl.SequencePair
import OpenRoad.Odb.OverlapCheck
