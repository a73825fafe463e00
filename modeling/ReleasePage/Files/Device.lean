import ReleasePage.Text.Bytes

/-!
# Devices

What stands below the files: a device that may refuse to do what it is asked for,
whatever is stored. Something that takes bytes may take a part of them and refuse the
rest.
-/

namespace ReleasePage.Files

open ReleasePage.Text (Bytes)

/-- Why an operation on a volume fails. -/
inductive Fault where
  /-- A step of the path does not exist. -/
  | notFound
  /-- Something stands there already. -/
  | alreadyExists
  /-- A step of the path goes on from a file. -/
  | notDirectory
  /-- A directory stands where a file is needed. -/
  | isDirectory
  /-- A name or the whole path is too long. -/
  | nameTooLong
  /-- The path ends in a dot, two dots or the root. -/
  | busy
  /-- The path contains a zero character. -/
  | zeroByte
  /-- The device refuses, with an error of its own. -/
  | device (number : Nat) (text : String)
  deriving Repr, DecidableEq

/-- The message of a fault. -/
def Fault.message : Fault → String
  | .notFound => "No such file or directory (os error 2)"
  | .alreadyExists => "File exists (os error 17)"
  | .notDirectory => "Not a directory (os error 20)"
  | .isDirectory => "Is a directory (os error 21)"
  | .nameTooLong => "File name too long (os error 36)"
  | .busy => "Device or resource busy (os error 16)"
  | .zeroByte => "file name contained an unexpected NUL byte"
  | .device number text => text ++ " (os error " ++ Nat.repr number ++ ")"

/-- Whoever asks for something may put a fault into an error of its own: what it gets is the
same. -/
theorem mapError_eq_ok {ε ε' α : Type} {f : ε → ε'} {result : Except ε α} {a : α} :
    result.mapError f = .ok a ↔ result = .ok a := by
  cases result with
  | error e => exact ⟨fun h => (nomatch h), fun h => (nomatch h)⟩
  | ok b => exact ⟨fun h => congrArg Except.ok (Except.ok.inj h),
      fun h => congrArg Except.ok (Except.ok.inj h)⟩

/-- How many bytes are taken, and why no more: all of them if there is no fault. -/
abbrev Room := Option (Nat × Fault)

namespace Room

/-- Room for everything. -/
def endless : Room := none

/-- The part of a content that is taken. -/
def taken (room : Room) (content : Bytes) : Bytes :=
  match room with
  | none => content
  | some (size, _) => content.take size

/-- Why not all of a content is taken. -/
def overflow? (room : Room) (content : Bytes) : Option Fault :=
  match room with
  | none => none
  | some (size, fault) => if size < content.length then some fault else none

end Room

/-- A refusal of a device: the number and the text of its error. -/
structure Refusal where
  /-- The number of the error. -/
  number : Nat
  /-- What the error says. -/
  text : String
  deriving Repr, DecidableEq

/-- The fault that a refusal shows up as. -/
def Refusal.fault (refusal : Refusal) : Fault := .device refusal.number refusal.text

/-- What the device below a volume refuses, whatever the volume holds: nothing where
there is no fault. -/
structure Device where
  /-- Why no directory can be made. -/
  directories : Option Refusal
  /-- Why no file can be created. -/
  creation : Option Fault
  /-- How much of a file can be written. -/
  room : Room
  /-- Why no permission bits can be set. -/
  modes : Option Fault
  /-- Why no content can be flushed. -/
  flushes : Option Fault
  /-- Why no file can be renamed. -/
  renames : Option Fault
  /-- Why no file can be opened or read. -/
  reads : Option Refusal
  deriving Repr, DecidableEq

namespace Device

/-- The device that refuses nothing. -/
def reliable : Device := ⟨none, none, .endless, none, none, none, none⟩

/-- The content of a file as the device gives it out, all of it or nothing. -/
def deliver (device : Device) (content : Bytes) : Except Fault Bytes :=
  match device.reads with
  | none => .ok content
  | some refusal => .error refusal.fault

/-- The device gives out every content. -/
def Readable (device : Device) : Prop := device.reads = none

instance (device : Device) : Decidable device.Readable :=
  inferInstanceAs (Decidable (device.reads = none))

/-- What is given out is the content. -/
theorem deliver_eq_ok {device : Device} {content given : Bytes} :
    device.deliver content = .ok given ↔ device.Readable ∧ given = content := by
  rw [deliver, Readable]
  cases device.reads with
  | none => simp [eq_comm]
  | some refusal => simp

end Device

end ReleasePage.Files
