import ScriptMachine.Binary64.Arithmetic
import ScriptMachine.Machine.Host
import ScriptMachine.Machine.Operand
import ScriptMachine.Memory.Objects
import ScriptMachine.Value.Arithmetic

/-!
# Performing instructions

What a single instruction does to its context, and how execution goes on after it.  A call
does not happen here: the instruction finds out what is called and with which arguments,
and leaves the call itself to the machine.

An instruction loads and checks everything it needs before it changes anything, except that
memory may have grown by empty cells.
-/

namespace ScriptMachine

/-- How execution goes on. -/
inductive Flow where
  /-- At the next instruction. -/
  | next
  /-- At an offset. -/
  | jump (offset : Nat)
  /-- At an offset, as a call in the same scope. -/
  | callLabel (offset : Nat)
  /-- With a function of the library whose program this is. -/
  | callLibrary (program : Program) (label : UInt64)
  /-- With a function of the host, under the name it is called by. -/
  | callNative (name : String) (id : NativeId) (function : NativeFunction)
      (arguments : List Value)
  /-- After the call that is going on, which has this result. -/
  | ret (value : Value)

namespace Instruction

/-! ## Pointers and lists -/

/-- Binds a variable to an address, or to a new cell if none is given. -/
def makePointer (target source : Operand) : Task Context Unit := do
  match target with
  | .variable index =>
      let address ←
        match source with
        | .none => some <$> Context.onMemory (Task.ofUpdate (·.allocate .none))
        | _ => Address.ofRaw? <$> source.loadLong
      modify fun context =>
        let vars := context.scope.vars
        let binding :=
          match vars.get? index.toNat with
          | some binding => { binding with target := address }
          | none => .anonymous address
        { context with scope.vars := vars.set index.toNat binding }
  | _ => throw (.unsupportedOperand target)

/-- Stores the address of a variable. -/
def loadAddress (target source : Operand) : Task Context Unit := do
  match source with
  | .variable index => target.store (.ofAddress (← Operand.variableAddress index))
  | _ => throw (.unsupportedOperand source)

/-- Stores an address in a list. -/
def setListSlot (list index address : Operand) : Task Context Unit := do
  let handle ← list.loadList
  let index ← index.loadIndex
  let address := Address.ofRaw? (← address.loadLong)
  Context.onMemory (modify (·.setSlot handle index address))

/-- Stores the address of a list's cell, or the one at an index of the list. -/
def listSlotAddress (target list index : Operand) : Task Context Unit := do
  let address ←
    match index with
    | .none => list.address
    | _ => do
        let handle ← list.loadList
        let index ← index.loadIndex
        pure ((← get).shared.memory.slot handle index)
  target.store (.ofAddress address)

/-- Stores the index of a text in a list, or minus one. -/
def indexOf (target list text : Operand) : Task Context Unit := do
  let handle ← list.loadList
  let text ← text.loadText
  let index ← Context.onMemory (Task.ofUpdate (·.indexOf handle text))
  let position : Int :=
    match index with
    | some index => index
    | none => -1
  target.store (.number (.ofInt position))

/-- Stores the elements of a list as one text. -/
def join (target list : Operand) : Task Context Unit := do
  let handle ← list.loadList
  let text ← Context.onMemory (Task.ofAttempt (·.join handle))
  target.store (.text text)

/-- Stores the number of entries or of characters of a value. -/
def count (target source : Operand) : Task Context Unit := do
  let value ← source.load
  let size ←
    match value with
    | .object cells => Context.onMemory cells.length
    | .list _ | .text _ => do
        Task.ofConversion ((← get).shared.memory.sizeOf value)
    | _ => throw (.typeMismatch (value.mismatch .size))
  target.store (.number (.ofInt size))

/-- Stores a new empty list. -/
def newList (target : Operand) : Task Context Unit := do
  let handle ← Context.onMemory (Task.ofUpdate (·.newList #[]))
  target.store (.list handle)

/-- Stores a new empty object. -/
def newObject (target : Operand) : Task Context Unit := do
  let address ← Context.onMemory (Task.ofUpdate (·.createObject))
  let object ← Context.onMemory (Task.ofUpdate (·.read address))
  target.store object

/-! ## Numbers -/

/-- Stores what an operation makes of a number. -/
def convert (operation : Binary64 → Binary64) (target source : Operand) :
    Task Context Unit := do
  let number ← source.loadDouble
  target.store (.number (operation number))

/-- Stores what an operation makes of the target and another value. -/
def update (operation : Value → Value → Except Mismatch Value) (target source : Operand) :
    Task Context Unit := do
  let current ← target.load
  let operand ← source.load
  target.store (← Task.ofConversion (operation current operand))

/-- Stores what an operation makes of the bits of the target and of another integer. -/
def updateBits (operation : Int32 → Int32 → Int32) (target source : Operand) :
    Task Context Unit := do
  let current ← target.loadInteger
  let operand ← source.loadInteger
  target.store (.number (.ofInt (operation current operand).toInt))

/-- Stores whether the target is at most zero. -/
def negate (target : Operand) : Task Context Unit := do
  let value ← target.loadInteger
  target.store (.ofBool (value ≤ 0))

/-- Stores whether two numbers stand in a relation. -/
def compare (relation : Binary64 → Binary64 → Bool) (target left right : Operand) :
    Task Context Unit := do
  let leftNumber ← left.loadDouble
  let rightNumber ← right.loadDouble
  target.store (.ofBool (relation leftNumber rightNumber))

/-! ## Equality -/

/-- Whether an operand is written in the instruction or is in a register. -/
def isImmediate : Operand → Bool
  | .literal _ | .register _ => true
  | _ => false

/-- Equality of values of which one was not in a cell: as numbers if both are numbers, and
else as texts if both have text forms. -/
def immediatesEqual (left right : Value) : Bool :=
  if left.isNumber && right.isNumber then
    match left.toDouble, right.toDouble with
    | .ok leftNumber, .ok rightNumber => leftNumber.equal rightNumber
    | _, _ => false
  else
    match left.toText, right.toText with
    | .ok leftText, .ok rightText => leftText == rightText
    | _, _ => false

/-- Whether two operands are equal.  Two cells are equal if they are the same or hold equal
values. -/
def operandsEqual (left right : Operand) : Task Context Bool := do
  match left, right with
  | .literal leftLiteral, .literal rightLiteral => return leftLiteral.equal rightLiteral
  | _, _ =>
      if isImmediate left || isImmediate right then
        let leftValue ← left.load
        let rightValue ← right.load
        return immediatesEqual leftValue rightValue
      else
        match ← left.address, ← right.address with
        | none, none => return true
        | some leftAddress, some rightAddress =>
            if leftAddress = rightAddress then return true
            else
              let leftValue ← Context.onMemory (Task.ofUpdate (·.read leftAddress))
              let rightValue ← Context.onMemory (Task.ofUpdate (·.read rightAddress))
              return leftValue.equal rightValue
        | _, _ => return false

/-! ## Calls -/

/-- A call at a depth must leave room for the one below it. -/
def checkDepth (host : Host) (depth : Nat) : Task Context Unit :=
  if host.maxDepth ≤ depth + 1 then throw .stackOverflow else pure ()

/-- The values that a host function would be passed: the elements of the list whose address
is in register zero. -/
def callArguments : Task Context (List Value) := do
  match Address.ofRaw? ((← get).shared.registers.get 0) with
  | none => return []
  | some address =>
      let handle ← Context.onMemory (Memory.listAt address)
      Context.onMemory (Task.ofUpdate (·.elements handle))

/-- The call of a host function. -/
def callNative (host : Host) (name : String) (id : NativeId) : Task Context Flow := do
  match host.native? id with
  | none => throw (.unknownNativeFunction id)
  | some function => return .callNative name id function (← callArguments)

/-- The call of a library function. -/
def callLibrary (host : Host) (depth : Nat) (reference : FunctionReference) :
    Task Context Flow := do
  match (← get).shared.libraries.get? reference.library with
  | none => throw (.unknownLibrary reference.library)
  | some library =>
      checkDepth host depth
      return .callLibrary library.program reference.label

/-- The call of what an operand names. -/
def call (host : Host) (depth : Nat) (callee : Operand) : Task Context Flow := do
  match callee with
  | .label _ =>
      let offset ← callee.labelOffset
      checkDepth host depth
      return .callLabel offset
  | _ =>
      match ← callee.load with
      | .text name =>
          match (← get).shared.registry.get? name with
          | some (.native id) => callNative host name id
          | some (.library reference) => callLibrary host depth reference
          | none => throw (.unknownFunction name)
      | .nativeFunction id => callNative host s!"native#{id.index}" id
      | .function reference => callLibrary host depth reference
      | value => throw (.typeMismatch (value.mismatch .function))

/-! ## All instructions -/

/-- Performs an instruction at a depth of calls. -/
def perform (instruction : Instruction) (host : Host) (depth : Nat) : Task Context Flow := do
  let first := instruction.operand 0
  let second := instruction.operand 1
  let third := instruction.operand 2
  match instruction.opcode with
  | .nop | .label => return .next
  | .move => first.store (← second.load); return .next
  | .makePointer => makePointer first second; return .next
  | .loadAddress => loadAddress first second; return .next
  | .truncate => convert Binary64.truncate first second; return .next
  | .fraction => convert Binary64.fraction first second; return .next
  | .newList => newList first; return .next
  | .setListSlot => setListSlot first second third; return .next
  | .listSlotAddress => listSlotAddress first second third; return .next
  | .indexOf => indexOf first second third; return .next
  | .join => join first second; return .next
  | .count => count first second; return .next
  | .newObject => newObject first; return .next
  | .keysAddress =>
      first.store (.number (← second.loadObject).keys.toNumber); return .next
  | .valuesAddress =>
      first.store (.number (← second.loadObject).values.toNumber); return .next
  | .add => update Value.add first second; return .next
  | .subtract => update Value.subtract first second; return .next
  | .multiply => update Value.multiply first second; return .next
  | .divide => update Value.divide first second; return .next
  | .not => negate first; return .next
  | .and => updateBits (· &&& ·) first second; return .next
  | .or => updateBits (· ||| ·) first second; return .next
  | .xor => updateBits (· ^^^ ·) first second; return .next
  | .equal => first.store (.ofBool (← operandsEqual second third)); return .next
  | .greaterThan => compare (fun left right => right.below left) first second third; return .next
  | .lessThan => compare Binary64.below first second third; return .next
  | .jump => return .jump (← first.labelOffset)
  | .jumpIfTrue =>
      let condition ← first.loadDouble
      if condition.positive then return .jump (← second.labelOffset) else return .next
  | .call => call host depth second
  | .ret => return .ret (← first.load)

end Instruction

end ScriptMachine
