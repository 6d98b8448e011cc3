import FrontEnd.Bytes.Basic

/-!
Control sequences of terminals. An escape octet, or one of the upper control octets, starts a
sequence that is obeyed and not shown. How a sequence goes on depends on what it started as.
-/

namespace FrontEnd.Terminal

/-- What a terminal is in the middle of. -/
inductive Control where
  | text
  /-- Behind an escape octet. -/
  | escape
  | escapeRest
  /-- In a sequence with parameters. -/
  | parameters
  | parametersRest
  /-- Before the text that is sent to a device. -/
  | device
  | deviceParameters
  | deviceRest
  | deviceText
  /-- In a command to the system around the terminal. -/
  | command
  /-- In a message that is meant for others. -/
  | message
  deriving DecidableEq, Repr

namespace Control

/-- Whether every octet belongs to a sequence until the sequence ends. -/
def swallows : Control → Bool
  | .deviceText | .command => true
  | _ => false

/-- What the upper control octets start, from wherever they are met. -/
def upper (b : UInt8) : Control :=
  match b with
  | 0x90 => .device
  | 0x98 | 0x9E | 0x9F => .message
  | 0x9B => .parameters
  | 0x9D => .command
  | _ => .text

/-- What an octet of ASCII makes of a sequence, control octets apart. -/
def go (c : Control) (b : UInt8) : Control :=
  match c with
  | .text => .text
  | .escape =>
    if b < 0x30 then .escapeRest
    else match b with
      | 0x50 => .device
      | 0x58 | 0x5E | 0x5F => .message
      | 0x5B => .parameters
      | 0x5D => .command
      | _ => .text
  | .escapeRest => if b < 0x30 then .escapeRest else .text
  | .parameters => if b < 0x30 then .parametersRest else if b < 0x40 then .parameters else .text
  | .parametersRest => if b < 0x30 then .parametersRest else .text
  | .device | .deviceParameters =>
    if b < 0x30 then .deviceRest else if b < 0x40 then .deviceParameters else .deviceText
  | .deviceRest => if b < 0x30 then .deviceRest else .deviceText
  | .deviceText => .deviceText
  | .command => .command
  | .message => .message

/-- The state behind an octet that is not the first of a longer character. -/
def next (c : Control) (b : UInt8) : Control :=
  if b = 0x18 ∨ b = 0x1A then .text
  else if b = 0x1B then (if c = .device then .deviceText else .escape)
  else if b = 0x9C then .text
  else if c = .command ∧ b = 0x07 then .text
  else if c.swallows then c
  else if 0x80 ≤ b then upper b
  else if c = .device ∧ 0x08 ≤ b ∧ b ≤ 0x0D then .deviceText
  else if b < 0x20 ∨ b = 0x7F then c
  else c.go b

/-- Whether an octet is shown as a character of its own. -/
def shows (c : Control) (b : UInt8) : Bool := c = .text && 0x20 ≤ b && b ≤ 0x7E

/-- Whether an octet starts a longer character, which also ends any sequence. -/
def leads (c : Control) (b : UInt8) : Bool := !c.swallows && 0xC2 ≤ b && b ≤ 0xF4

end Control

end FrontEnd.Terminal
