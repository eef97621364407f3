import Messaging.Json.Literal

/-!
Passing over a value that nobody asks for. Its form is checked, its strings are not decoded, and
it may be nested to any depth: the lists and objects that are open stand on a stack.
-/
namespace Messaging.Json

inductive Frame
  | list
  | object
  deriving DecidableEq, Repr

def Frame.close : Frame → UInt8
  | .list => 0x5D
  | .object => 0x7D

def Frame.unfinished : Frame → Unfinished
  | .list => .list
  | .object => .object

/-- What it means that neither a comma nor the end of a frame follows a value in it. -/
def Frame.expectedCommaOrEnd : Frame → Breach
  | .list => .expectedListCommaOrEnd
  | .object => .expectedObjectCommaOrEnd

inductive SkipPlace
  /-- Before a value. -/
  | value
  /-- After the opening of a list or object. -/
  | opened
  /-- After a value in a list or object. -/
  | between
  deriving DecidableEq, Repr

/-- Passes over a value that is neither a list nor an object, given its first byte. -/
def skipScalar (b : UInt8) (rest : Bytes) : Except Fault Bytes :=
  if b = 0x6E then word nullTail rest
  else if b = 0x74 then word trueTail rest
  else if b = 0x66 then word falseTail rest
  else if b = 0x2D then Numeral.skip rest
  else if Decimal.isDigit b then Numeral.skip (b :: rest)
  else if b = 0x22 then StringLiteral.skip .plain rest
  else .error (.breachAt .expectedValue (b :: rest))

def colon (bs : Bytes) : Except Fault Bytes :=
  match skipBlanks bs with
  | [] => .error (.unfinished .object)
  | b :: rest => if b = 0x3A then .ok rest else .error (.breachAt .expectedColon (b :: rest))

def skipKey (bs : Bytes) : Except Fault Bytes :=
  match skipBlanks bs with
  | [] => .error (.unfinished .object)
  | b :: rest =>
    if b = 0x22 then do colon (← StringLiteral.skip .plain rest)
    else .error (.breachAt .keyMustBeString (b :: rest))

/-- Passes over what must come before the next value of a frame: a key in an object, nothing in a
list. -/
def Frame.skipLead : Frame → Bytes → Except Fault Bytes
  | .list, bs => .ok bs
  | .object, bs => skipKey bs

/-- Passes over values until no frame is open. Each step but those from `opened` reads a byte, so
that two steps for each byte, and two more, suffice. -/
def skipFrom : (steps : Nat) → SkipPlace → List Frame → Bytes → Except Fault Bytes
  | 0, _, _, _ => .error (.unfinished .value)
  | steps + 1, .value, frames, bs =>
    match skipBlanks bs with
    | [] => .error (.unfinished .value)
    | b :: rest =>
      if b = 0x5B then skipFrom steps .opened (.list :: frames) rest
      else if b = 0x7B then skipFrom steps .opened (.object :: frames) rest
      else match skipScalar b rest with
        | .error f => .error f
        | .ok rest => skipFrom steps .between frames rest
  | _ + 1, _, [], bs => .ok bs
  | steps + 1, .opened, frame :: frames, bs =>
    match skipBlanks bs with
    | [] => .error (.unfinished frame.unfinished)
    | b :: rest =>
      if b = frame.close then skipFrom steps .between frames rest
      else match frame.skipLead (b :: rest) with
        | .error f => .error f
        | .ok rest => skipFrom steps .value (frame :: frames) rest
  | steps + 1, .between, frame :: frames, bs =>
    match skipBlanks bs with
    | [] => .error (.unfinished frame.unfinished)
    | b :: rest =>
      if b = frame.close then skipFrom steps .between frames rest
      else if b = 0x2C then
        match frame.skipLead rest with
        | .error f => .error f
        | .ok rest => skipFrom steps .value (frame :: frames) rest
      else .error (.breachAt frame.expectedCommaOrEnd (b :: rest))

/-- After a value, with no frame open, there is no more to pass over. -/
theorem skipFrom_between_nil (steps : Nat) (bs : Bytes) :
    skipFrom (steps + 1) .between [] bs = .ok bs := by
  simp only [skipFrom]

/-- Passes over one value; `room` is at least the number of bytes. -/
def skipValue (room : Nat) (bs : Bytes) : Except Fault Bytes :=
  skipFrom (2 * room + 2) .value [] bs

end Messaging.Json
