import RoleGraph.Text.Basic

/-!
# Terminal control sequences

A terminal reads a text byte by byte. Most bytes are printed; an escape character starts a sequence
that controls the terminal, or a string that is meant for it. Where a byte outside of ASCII may start
a character, the terminal goes on with that character; within some strings it may not.
-/

namespace RoleGraph

namespace Terminal

/-- What a terminal is reading. -/
inductive Mode where
  | ground
  /-- After an escape character. -/
  | escape
  /-- After the intermediate bytes of an escape sequence. -/
  | escapeIntermediate
  /-- After the start of a control sequence. -/
  | control
  /-- Inside the parameters of a control sequence. -/
  | controlParameters
  /-- After the intermediate bytes of a control sequence. -/
  | controlIntermediate
  /-- After the start of a device string. -/
  | device
  /-- Inside the parameters of a device string. -/
  | deviceParameters
  /-- After the intermediate bytes of a device string. -/
  | deviceIntermediate
  /-- Inside the data of a device string. -/
  | deviceData
  /-- Inside a command of the operating system, which a bell may end. -/
  | command
  /-- Inside another string. -/
  | string
  deriving DecidableEq, Repr

/-- What a terminal does with a byte. -/
inductive Action where
  | print
  /-- Do what a control character says. -/
  | execute
  /-- Take it as part of a sequence. -/
  | consume
  /-- Start a character outside of ASCII. -/
  | character
  deriving DecidableEq, Repr

/-- Whether a byte is a control character that neither cancels nor starts a sequence. -/
def isControl (b : UInt8) : Bool := b < 0x20 && b != 0x18 && b != 0x1A && b != 0x1B

/-- What a byte outside of ASCII does in most modes: it starts a character, or it is a control
character of its own. -/
def highStep (b : UInt8) : Mode × Action :=
  if 0xC2 ≤ b && b ≤ 0xF4 then (.ground, .character)
  else if b = 0x90 then (.device, .consume)
  else if b = 0x98 || b = 0x9E || b = 0x9F then (.string, .consume)
  else if b = 0x9B then (.control, .consume)
  else if b = 0x9D then (.command, .consume)
  else if b ≤ 0x9F then (.ground, .execute)
  else (.ground, .consume)

/-- The mode after a byte that follows an escape character. -/
def afterEscape (b : UInt8) : Mode :=
  if b = 0x7F then .escape
  else if b < 0x30 then .escapeIntermediate
  else if b = 0x50 then .device
  else if b = 0x58 || b = 0x5E || b = 0x5F then .string
  else if b = 0x5B then .control
  else if b = 0x5D then .command
  else .ground

/-- The mode after a byte of a control sequence that is no control character. -/
def afterControl (mode : Mode) (b : UInt8) : Mode :=
  if b = 0x7F then mode
  else if 0x40 ≤ b then .ground
  else if b < 0x30 then .controlIntermediate
  else if mode = .controlIntermediate then .ground
  else .controlParameters

/-- The mode after a byte of a device string before its data. -/
def afterDevice (mode : Mode) (b : UInt8) : Mode :=
  if mode = .device && 0x08 ≤ b && b ≤ 0x0D then .deviceData
  else if b < 0x20 || b = 0x7F then mode
  else if 0x40 ≤ b then .deviceData
  else if b < 0x30 then .deviceIntermediate
  else if mode = .deviceIntermediate then .deviceData
  else .deviceParameters

/-- Whether a mode takes bytes outside of ASCII as its own data. -/
def Mode.takesHigh (mode : Mode) : Bool := mode = .command || mode = .deviceData

/-- Read one byte. -/
def Mode.step (mode : Mode) (b : UInt8) : Mode × Action :=
  if mode.takesHigh && b = 0x9C then (.ground, .consume)
  else if 0x80 ≤ b then if mode.takesHigh then (mode, .consume) else highStep b
  else if b = 0x1B then (if mode = .device then .deviceData else .escape, .consume)
  else if b = 0x18 || b = 0x1A then
    (.ground, if mode.takesHigh || mode = .string then .consume else .execute)
  else match mode with
    | .ground => (.ground, if b < 0x20 || b = 0x7F then .execute else .print)
    | .escape => if isControl b then (mode, .execute) else (afterEscape b, .consume)
    | .escapeIntermediate =>
      if isControl b then (mode, .execute)
      else (if b < 0x30 || b = 0x7F then mode else .ground, .consume)
    | .control | .controlParameters | .controlIntermediate =>
      if isControl b then (mode, .execute) else (afterControl mode b, .consume)
    | .device | .deviceParameters | .deviceIntermediate => (afterDevice mode b, .consume)
    | .command => (if b = 0x07 then .ground else mode, .consume)
    | .deviceData | .string => (mode, .consume)

end Terminal

end RoleGraph
