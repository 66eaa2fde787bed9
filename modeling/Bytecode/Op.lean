/-!
# The instruction set

An opcode is one byte. Its shape says how many operand bytes follow it and how they are
read. `Op.all` lists the opcodes in byte order, `Op.toByte` and `Op.ofByte?` relate an
opcode and its byte, and `Op.mnemonic` and `Op.ofMnemonic?` relate an opcode and its name.
-/

namespace Bytecode

/-- How the operand of an instruction is laid out after its opcode. -/
inductive Shape where
  /-- No operand. -/
  | simple
  /-- One byte, taken as it is. -/
  | byte
  /-- A pool index in one byte. -/
  | constant
  /-- A pool index in three bytes. -/
  | constantLong
  /-- A distance in two bytes, counted forward from the end of the instruction. -/
  | jumpForward
  /-- A distance in two bytes, counted backward from the end of the instruction. -/
  | jumpBackward
  deriving DecidableEq

/-- The number of bytes of an instruction, the opcode included. -/
def Shape.length : Shape → Nat
  | simple => 1
  | byte => 2
  | constant => 2
  | constantLong => 4
  | jumpForward => 3
  | jumpBackward => 3

/-- Whether the operand is a distance. -/
def Shape.isJump : Shape → Bool
  | jumpForward => Bool.true
  | jumpBackward => Bool.true
  | _ => Bool.false

/-- Whether the operand is a pool index. -/
def Shape.referencesConstant : Shape → Bool
  | constant => Bool.true
  | constantLong => Bool.true
  | _ => Bool.false

/-- The name of a shape in messages. -/
def Shape.name : Shape → String
  | simple => "Simple"
  | byte => "Byte"
  | constant => "Constant"
  | constantLong => "ConstantLong"
  | jumpForward => "JumpForward"
  | jumpBackward => "JumpBackward"

/-- Every instruction has at least its opcode. -/
theorem Shape.length_pos (shape : Shape) :
  0 < shape.length
  := by
  cases shape <;> decide

/-- The opcodes. -/
inductive Op where
  | constant
  | constantLong
  | pushNil
  | pushTrue
  | pushFalse
  | pop
  | getLocal
  | setLocal
  | defineGlobal
  | getGlobal
  | setGlobal
  | equal
  | greater
  | less
  | add
  | subtract
  | multiply
  | divide
  | not
  | negate
  | print
  | jump
  | jumpIfFalse
  | loop
  | call
  | ret
  deriving DecidableEq

/-- All opcodes, in the order of their bytes. -/
def Op.all : List Op :=
  [ constant, constantLong, pushNil, pushTrue, pushFalse, pop, getLocal, setLocal,
    defineGlobal, getGlobal, setGlobal, equal, greater, less, add, subtract, multiply,
    divide, not, negate, print, jump, jumpIfFalse, loop, call, ret ]

/-- The byte that stands for an opcode in code. -/
def Op.toByte : Op → UInt8
  | constant => 0x00
  | constantLong => 0x01
  | pushNil => 0x02
  | pushTrue => 0x03
  | pushFalse => 0x04
  | pop => 0x05
  | getLocal => 0x06
  | setLocal => 0x07
  | defineGlobal => 0x08
  | getGlobal => 0x09
  | setGlobal => 0x0a
  | equal => 0x0b
  | greater => 0x0c
  | less => 0x0d
  | add => 0x0e
  | subtract => 0x0f
  | multiply => 0x10
  | divide => 0x11
  | not => 0x12
  | negate => 0x13
  | print => 0x14
  | jump => 0x15
  | jumpIfFalse => 0x16
  | loop => 0x17
  | call => 0x18
  | ret => 0x19

/-- The opcode that a byte stands for, if it stands for one. -/
def Op.ofByte? (byte : UInt8) : Option Op :=
  all.find? fun op => op.toByte == byte

/-- The shape of the instructions of an opcode. -/
def Op.shape : Op → Shape
  | constant => .constant
  | constantLong => .constantLong
  | getLocal => .byte
  | setLocal => .byte
  | defineGlobal => .constant
  | getGlobal => .constant
  | setGlobal => .constant
  | jump => .jumpForward
  | jumpIfFalse => .jumpForward
  | loop => .jumpBackward
  | call => .byte
  | _ => .simple

/-- The name of an opcode without the leading mark. -/
def Op.word : Op → String
  | constant => "CONSTANT"
  | constantLong => "CONSTANT_LONG"
  | pushNil => "NIL"
  | pushTrue => "TRUE"
  | pushFalse => "FALSE"
  | pop => "POP"
  | getLocal => "GET_LOCAL"
  | setLocal => "SET_LOCAL"
  | defineGlobal => "DEFINE_GLOBAL"
  | getGlobal => "GET_GLOBAL"
  | setGlobal => "SET_GLOBAL"
  | equal => "EQUAL"
  | greater => "GREATER"
  | less => "LESS"
  | add => "ADD"
  | subtract => "SUBTRACT"
  | multiply => "MULTIPLY"
  | divide => "DIVIDE"
  | not => "NOT"
  | negate => "NEGATE"
  | print => "PRINT"
  | jump => "JUMP"
  | jumpIfFalse => "JUMP_IF_FALSE"
  | loop => "LOOP"
  | call => "CALL"
  | ret => "RETURN"

/-- The mark that a mnemonic starts with. -/
def Op.mark : List Char := ['O', 'P', '_']

/-- The full name of an opcode. -/
def Op.mnemonic (op : Op) : String :=
  "OP_" ++ op.word

/-- Removes the mark from the front of a name, once, if it is there. -/
def Op.dropMark (name : List Char) : List Char :=
  if mark.isPrefixOf name then name.drop mark.length else name

/-- The opcode of a name. Letters count in either case, outside ASCII only as they are, and
the mark may be left out. -/
def Op.ofMnemonic? (name : List Char) : Option Op :=
  all.find? fun op => op.word.toList == dropMark (name.map Char.toUpper)

/-! ### Bytes and opcodes -/

theorem Op.mem_all (op : Op) :
  op ∈ all
  := by
  cases op <;> decide

@[simp]
theorem Op.ofByte?_toByte (op : Op) :
  ofByte? op.toByte = some op
  := by
  cases op <;> rfl

theorem Op.toByte_of_ofByte? {byte : UInt8} {op : Op} (h : ofByte? byte = some op) :
  op.toByte = byte
  := by
  have found := List.find?_some h
  simpa using found

end Bytecode
