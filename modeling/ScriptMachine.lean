import ScriptMachine.Binary64.Interchange
import ScriptMachine.Engine
import ScriptMachine.Program.Draft
import ScriptMachine.Value.Inspect
import ScriptMachine.Proofs.Arguments.Access
import ScriptMachine.Proofs.Capability.Origin
import ScriptMachine.Proofs.Control.Integrity
import ScriptMachine.Proofs.Control.Termination
import ScriptMachine.Proofs.Decimal.Texts
import ScriptMachine.Proofs.Engine.Variables
import ScriptMachine.Proofs.Equality.Equivalence
import ScriptMachine.Proofs.Error.Structure
import ScriptMachine.Proofs.Isolation.Arguments
import ScriptMachine.Proofs.Isolation.Calls
import ScriptMachine.Proofs.Link.Clearing
import ScriptMachine.Proofs.Link.Layout
import ScriptMachine.Proofs.Lists.Sharing
import ScriptMachine.Proofs.Machine.Branching
import ScriptMachine.Proofs.Machine.Locality
import ScriptMachine.Proofs.Memory.Refinement
import ScriptMachine.Proofs.Objects.Questions
import ScriptMachine.Proofs.Objects.Refinement
import ScriptMachine.Proofs.Operands.Normalization
import ScriptMachine.Proofs.Program.RoundTrip
import ScriptMachine.Proofs.Registry.HostFunctions
import ScriptMachine.Proofs.Registry.Permanence
import ScriptMachine.Proofs.Registry.Precedence
import ScriptMachine.Proofs.Relocation.Repeatability
import ScriptMachine.Proofs.Scope.Stability
import ScriptMachine.Proofs.Table.Histories
import ScriptMachine.Proofs.Value.Accumulation
import ScriptMachine.Proofs.Value.IntegerTexts
