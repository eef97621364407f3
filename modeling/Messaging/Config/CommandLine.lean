import Messaging.Config.Setting

/-!
The command line. Its words are taken from the left. An option with its value in the same word is
complete at once; one without waits for the next word, and is complete when another option, a
request for help or the end follows. A value is read when its option is complete.
-/
namespace Messaging.Config

inductive UsageError
  /-- An option stands without its value. -/
  | valueRequired (o : Setting)
  /-- An option stands twice. -/
  | repeated (o : Setting)
  /-- A word is no option, or is one value too many. -/
  | unexpected (word : String)
  /-- A request that takes no value is given one. -/
  | valueNotWanted (value request : String)
  /-- A value is no text. -/
  | notText
  /-- A value is none of the words that can be chosen. -/
  | notAChoice (o : Setting) (value : String)
  /-- A value is not accepted. -/
  | refused (o : Setting) (value : String) (reason : Refusal)
  deriving DecidableEq, Repr

def choicesLine (o : Setting) : String :=
  if o.choices.isEmpty then ""
  else "\n  [possible values: " ++ ", ".intercalate o.choices ++ "]"

def UsageError.message : UsageError → String
  | .valueRequired o =>
    "error: a value is required for '" ++ o.usage ++ "' but none was supplied" ++ choicesLine o
  | .repeated o => "error: the argument '" ++ o.usage ++ "' cannot be used multiple times"
  | .unexpected word => "error: unexpected argument '" ++ word ++ "' found"
  | .valueNotWanted value request =>
    "error: unexpected value '" ++ value ++ "' for '" ++ request
      ++ "' found; no more were expected"
  | .notText => "error: invalid UTF-8 was detected in one or more arguments"
  | .notAChoice o value =>
    "error: invalid value '" ++ value ++ "' for '" ++ o.usage ++ "'" ++ choicesLine o
  | .refused o value reason =>
    "error: invalid value '" ++ value ++ "' for '" ++ o.usage ++ "': " ++ reason.message

inductive Stop
  | usage (error : UsageError)
  | help
  | version
  deriving DecidableEq, Repr

def ValueError.toUsageError (o : Setting) : ValueError → UsageError
  | .notText => .notText
  | .missing => .valueRequired o
  | .notAChoice value => .notAChoice o value
  | .refused value reason => .refused o value reason

def Setting.readValue (o : Setting) (bs : Bytes) : Except Stop o.Value :=
  (o.read bs).mapError fun e => .usage (e.toUsageError o)

def Given : Type := (o : Setting) → Option o.Value

namespace Given

def empty : Given := fun _ => none

def set (g : Given) (o : Setting) (v : o.Value) : Given :=
  fun k => if h : k = o then some (h ▸ v) else g k

@[simp] theorem empty_apply (o : Setting) : empty o = none := rfl

@[simp] theorem set_self (g : Given) (o : Setting) (v : o.Value) : g.set o v o = some v := by
  simp [set]

theorem set_of_ne (g : Given) {o k : Setting} (v : o.Value) (h : k ≠ o) : g.set o v k = g k := by
  simp [set, h]

end Given

namespace CommandLine

/-- An option that is not complete yet, and its value where one has been seen. -/
structure Pending where
  setting : Setting
  value : Option Bytes

/-- How far a command line has been read. -/
structure State where
  given : Given
  pending : Option Pending
  /-- No more options can follow. -/
  closed : Bool

def State.start : State := ⟨.empty, none, false⟩

/-- Completes an option: it must have a value, must not stand twice, and its value must fit. -/
def complete (g : Given) (o : Setting) (value : Option Bytes) : Except Stop Given :=
  match value with
  | none => .error (.usage (.valueRequired o))
  | some bs =>
    if (g o).isSome then .error (.usage (.repeated o))
    else (o.readValue bs).map (g.set o)

def State.settle (s : State) : Except Stop Given :=
  match s.pending with
  | none => .ok s.given
  | some p => complete s.given p.setting p.value

def unexpected {α : Type} (word : Bytes) : Except Stop α :=
  .error (.usage (.unexpected (Utf8.toStringLossy word)))

def request? (name : Bytes) : Option Stop :=
  if name = Utf8.ofString "help" then some .help
  else if name = Utf8.ofString "version" then some .version
  else none

def requestLetter? (letter : UInt8) : Option Stop :=
  if letter = 0x68 then some .help
  else if letter = 0x56 then some .version
  else none

def hyphen : UInt8 := 0x2D

def splitAtEquals : Bytes → Bytes × Option Bytes
  | [] => ([], none)
  | b :: rest =>
    if b = 0x3D then ([], some rest)
    else
      let (name, value) := splitAtEquals rest
      (b :: name, value)

/-- Takes a word that starts with two hyphens, given what follows them. -/
def State.long (s : State) (body : Bytes) : Except Stop State :=
  let (name, value) := splitAtEquals body
  match Setting.ofOption? name with
  | some o => do
    let g ← s.settle
    match value with
    | some bs => return ⟨← complete g o (some bs), none, false⟩
    | none => return ⟨g, some ⟨o, none⟩, false⟩
  | none =>
    match request? name, value with
    | some stop, none => do
      let _ ← s.settle
      throw stop
    | some _, some bs =>
      .error (.usage (.valueNotWanted (Utf8.toStringLossy bs)
        ("--" ++ Utf8.toStringLossy name)))
    | none, _ => unexpected (hyphen :: hyphen :: name)

def firstCharacter (bs : Bytes) : Bytes :=
  match (List.range 4).find? fun n =>
      n < bs.length && (Utf8.toString? (bs.take (n + 1))).isSome with
  | some n => bs.take (n + 1)
  | none => bs

/-- Takes a word that starts with one hyphen, given what follows it. Its first letter decides. -/
def State.short (s : State) (letter : UInt8) (rest : Bytes) : Except Stop State :=
  match requestLetter? letter with
  | some stop => do
    let _ ← s.settle
    throw stop
  | none => unexpected (hyphen :: firstCharacter (letter :: rest))

/-- Takes a word that is no option: the value of the option that waits for one. -/
def State.plain (s : State) (word : Bytes) : Except Stop State :=
  match s.pending with
  | some ⟨o, none⟩ => .ok { s with pending := some ⟨o, some word⟩ }
  | _ => unexpected word

/-- Takes one word. A single hyphen is no option; two hyphens alone end the options, and nothing
may follow them. -/
def State.take (s : State) (word : Bytes) : Except Stop State :=
  if s.closed then unexpected word
  else match word with
    | 0x2D :: 0x2D :: [] => .ok { s with closed := true }
    | 0x2D :: 0x2D :: body => s.long body
    | 0x2D :: letter :: rest => s.short letter rest
    | word => s.plain word

def read (words : List Bytes) : Except Stop Given := do
  (← words.foldlM State.take .start).settle

end CommandLine

end Messaging.Config
