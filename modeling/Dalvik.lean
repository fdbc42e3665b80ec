import Dalvik.Field.Parser
import Dalvik.World
import Dalvik.Proofs.Calls.Results
import Dalvik.Proofs.Descriptors
import Dalvik.Proofs.Descriptors.Rejections
import Dalvik.Proofs.Exploration.Independence
import Dalvik.Proofs.Hierarchy
import Dalvik.Proofs.Initialization.Ascent
import Dalvik.Proofs.Initialization.AtMostOnce
import Dalvik.Proofs.Initialization.Failures
import Dalvik.Proofs.Initialization.Listing
import Dalvik.Proofs.Initialization.LostUpdates
import Dalvik.Proofs.Initialization.ReadYourWrites
import Dalvik.Proofs.Initialization.Seeding
import Dalvik.Proofs.Initialization.SuperClasses
import Dalvik.Proofs.Initialization.Termination
import Dalvik.Proofs.Isolation.Lineages
import Dalvik.Proofs.Loading
import Dalvik.Proofs.References
import Dalvik.Proofs.Reflection.Boxing
import Dalvik.Proofs.Reflection.Failures
import Dalvik.Proofs.Reflection.InitOrder
import Dalvik.Proofs.Reflection.LocalFields
import Dalvik.Proofs.Reflection.Modifiers
import Dalvik.Proofs.Reflection.Repetition
import Dalvik.Proofs.Reflection.UnknownInstances
import Dalvik.Proofs.Registers.Arguments
import Dalvik.Proofs.Registers.Windows
import Dalvik.Proofs.Tracing.Worlds
import Dalvik.Proofs.Values.Boxes
import Dalvik.Proofs.Values.DeclaredTypes
import Dalvik.Proofs.Values.FieldTypes
import Dalvik.Proofs.Values.Payloads
