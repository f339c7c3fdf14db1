import Dalvik.Code
import Dalvik.Decimal.Shortest

/-!
# Text of instructions

The mnemonic, then the operands. A literal is written after a `#`, a float literal in its shortest decimal form.
-/

namespace Dalvik

def Comparison.text : Comparison → String
  | eq => "eq"
  | ne => "ne"
  | lt => "lt"
  | ge => "ge"
  | gt => "gt"
  | le => "le"

/-- What the access adds to the mnemonic. -/
def Access.suffix : Access → String
  | plain => ""
  | wide => "-wide"
  | object => "-object"
  | boolean => "-boolean"
  | byte => "-byte"
  | char => "-char"
  | short => "-short"

def NumKind.text (k : NumKind) : String := k.kind.name

def BinaryOp.text : BinaryOp → String
  | add => "add"
  | sub => "sub"
  | mul => "mul"
  | div => "div"
  | rem => "rem"
  | and => "and"
  | or => "or"
  | xor => "xor"
  | shl => "shl"
  | shr => "shr"
  | ushr => "ushr"

def UnaryOp.text : UnaryOp → String
  | neg => "neg"
  | not => "not"

def InvokeKind.text : InvokeKind → String
  | virtual => "virtual"
  | super => "super"
  | direct => "direct"
  | static => "static"
  | interface => "interface"

namespace Instr

def mnemonic : Instr → String
  | nop => "nop"
  | move .. => "move"
  | moveWide .. => "move-wide"
  | moveObject .. => "move-object"
  | moveResult .. => "move-result"
  | moveResultWide .. => "move-result-wide"
  | moveResultObject .. => "move-result-object"
  | moveException .. => "move-exception"
  | returnVoid => "return-void"
  | returnValue .. => "return"
  | returnWide .. => "return-wide"
  | returnObject .. => "return-object"
  | const .. | constFloat .. | constNull .. => "const"
  | constWide .. | constDouble .. => "const-wide"
  | constString .. => "const-string"
  | constClass .. => "const-class"
  | monitorEnter .. => "monitor-enter"
  | monitorExit .. => "monitor-exit"
  | checkCast .. => "check-cast"
  | instanceOf .. => "instance-of"
  | arrayLength .. => "array-length"
  | newInstance .. => "new-instance"
  | newArray .. => "new-array"
  | filledNewArray .. => "filled-new-array"
  | throw .. => "throw"
  | goto .. => "goto"
  | switch .. => "switch"
  | cmp kind .. => "cmp-" ++ kind.text
  | ifTest comp .. => "if-" ++ comp.text
  | ifTestZero comp .. => "if-" ++ comp.text ++ "z"
  | aget access .. => "aget" ++ access.suffix
  | aput access .. => "aput" ++ access.suffix
  | iget access .. => "iget" ++ access.suffix
  | iput access .. => "iput" ++ access.suffix
  | sget access .. => "sget" ++ access.suffix
  | sput access .. => "sput" ++ access.suffix
  | invoke kind .. => "invoke-" ++ kind.text
  | unary op kind .. => op.text ++ "-" ++ kind.text
  | convert _ _ source target => source.javaName ++ "-to-" ++ target.javaName
  | binary op kind .. => op.text ++ "-" ++ kind.text
  | binaryLit op .. => op.text ++ "-int/lit16"

/-- Registers between braces. -/
def registerList (rs : List Reg) : String := "\x7b" ++ ", ".intercalate (rs.map Reg.text) ++ "\x7d"

/-- The operands, each as it is written. -/
def operands : Instr → List String
  | nop | returnVoid => []
  | move a b | moveWide a b | moveObject a b | arrayLength a b | unary _ _ a b | convert a b _ _ => [Reg.text a, Reg.text b]
  | moveResult a | moveResultWide a | moveResultObject a | moveException a | returnValue a | returnWide a
  | returnObject a | constNull a | monitorEnter a | monitorExit a | throw a => [Reg.text a]
  | const a value | constWide a value => [Reg.text a, "#" ++ toString value]
  | constFloat a bits => [Reg.text a, "#" ++ Decimal.single.text bits.toNat]
  | constDouble a bits => [Reg.text a, "#" ++ Decimal.double.text bits.toNat]
  | constString a value => [Reg.text a, Text.quoted value]
  | constClass a type | checkCast a type | newInstance a type => [Reg.text a, type.text]
  | instanceOf a b type | newArray a b type => [Reg.text a, Reg.text b, type.text]
  | filledNewArray args type => [registerList args, type.text]
  | goto target => [Address.text target]
  | switch a targets => Reg.text a :: targets.map fun (key, target) => toString key ++ ":" ++ Address.text target
  | cmp _ a b c | aget _ a b c | aput _ a b c | binary _ _ a b c => [Reg.text a, Reg.text b, Reg.text c]
  | ifTest _ a b target => [Reg.text a, Reg.text b, Address.text target]
  | ifTestZero _ a target => [Reg.text a, Address.text target]
  | iget _ a b field | iput _ a b field => [Reg.text a, Reg.text b, field.text]
  | sget _ a field | sput _ a field => [Reg.text a, field.text]
  | invoke _ method args => [registerList args, method.text]
  | binaryLit _ a b literal => [Reg.text a, Reg.text b, "#" ++ toString literal]

def text (i : Instr) : String :=
  match i.operands with
  | [] => i.mnemonic
  | ops => i.mnemonic ++ " " ++ ", ".intercalate ops

end Instr

def LabeledInstr.text (i : LabeledInstr) : String := Address.text i.address ++ ": " ++ i.instr.text

end Dalvik
