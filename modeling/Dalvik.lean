import Dalvik.Batch
import Dalvik.FlowGraph.Dot
import Dalvik.Proofs.Blocks
import Dalvik.Proofs.StateOrder
import Dalvik.Proofs.Fixpoint
import Dalvik.Proofs.Worklist
import Dalvik.Proofs.PostFixpoint
import Dalvik.Proofs.Content
import Dalvik.Proofs.Operands
import Dalvik.Proofs.Rules
import Dalvik.Proofs.Path
import Dalvik.Proofs.Assignment
import Dalvik.Proofs.Initialization
import Dalvik.Proofs.Constructors
import Dalvik.Proofs.Lattice
import Dalvik.Proofs.Inheritance
import Dalvik.Proofs.Grouping
import Dalvik.Proofs.Height
import Dalvik.Proofs.Depth
import Dalvik.Proofs.Termination
import Dalvik.Proofs.Wide
import Dalvik.Proofs.Pairs
import Dalvik.Proofs.Edges
import Dalvik.Proofs.Passes
import Dalvik.Proofs.Reachability
import Dalvik.Proofs.Replay
import Dalvik.Proofs.DepthFirst
import Dalvik.Proofs.Errors
import Dalvik.Proofs.Indexing
import Dalvik.Proofs.Faults
import Dalvik.Proofs.RoundTrip
import Dalvik.Proofs.Assignability
import Dalvik.Proofs.Registration
import Dalvik.Proofs.ArrayBounds
import Dalvik.Proofs.ClassBounds
import Dalvik.Proofs.LoopFree
import Dalvik.Proofs.PseudoRegisters
import Dalvik.Proofs.Frame
import Dalvik.Proofs.Recovery
import Dalvik.Proofs.Weakening
import Dalvik.Proofs.Precision
import Dalvik.Proofs.Literals
import Dalvik.Proofs.Calls
import Dalvik.Proofs.Runs
import Dalvik.Proofs.Origins
import Dalvik.Proofs.SiteNumbers
import Dalvik.Proofs.Listings
import Dalvik.Proofs.Partition
import Dalvik.Proofs.Superclasses
