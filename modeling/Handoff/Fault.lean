/-! What can go wrong when the operating system is asked to write a byte or to start a program. -/

namespace Handoff

/-- The errors of the operating system. Those that the program's surroundings give have names. -/
inductive OsError where
  | noEntry | inputOutput | noDevice | execFormat | badDescriptor | accessDenied | fileExists
  | notDirectory | isDirectory | noSpace | brokenPipe | nameTooLong | tooManyLevels
  /-- Any other error, with its number and its text. -/
  | other (number : Nat) (text : String)
  deriving DecidableEq, Repr

namespace OsError

def code : OsError → Nat
  | noEntry => 2
  | inputOutput => 5
  | noDevice => 6
  | execFormat => 8
  | badDescriptor => 9
  | accessDenied => 13
  | fileExists => 17
  | notDirectory => 20
  | isDirectory => 21
  | noSpace => 28
  | brokenPipe => 32
  | nameTooLong => 36
  | tooManyLevels => 40
  | other number _ => number

def reason : OsError → String
  | noEntry => "No such file or directory"
  | inputOutput => "Input/output error"
  | noDevice => "No such device or address"
  | execFormat => "Exec format error"
  | badDescriptor => "Bad file descriptor"
  | accessDenied => "Permission denied"
  | fileExists => "File exists"
  | notDirectory => "Not a directory"
  | isDirectory => "Is a directory"
  | noSpace => "No space left on device"
  | brokenPipe => "Broken pipe"
  | nameTooLong => "File name too long"
  | tooManyLevels => "Too many levels of symbolic links"
  | other _ text => text

def message (e : OsError) : String := e.reason ++ " (os error " ++ toString e.code ++ ")"

/-- The errors that have names. -/
def all : List OsError :=
  [noEntry, inputOutput, noDevice, execFormat, badDescriptor, accessDenied, fileExists,
   notDirectory, isDirectory, noSpace, brokenPipe, nameTooLong, tooManyLevels]

/-- The named error with a given code. -/
def ofCode? (n : Nat) : Option OsError := all.find? fun e => e.code = n

end OsError

/-- Why a byte was not taken. An interruption is no fault: it asks for another attempt. -/
inductive Fault where
  | os (error : OsError)
  | brokenPipe
  | wouldBlock
  | unspecified
  | described (text : String)
  deriving DecidableEq, Repr

def Fault.message : Fault → String
  | .os error => error.message
  | .brokenPipe => "broken pipe"
  | .wouldBlock => "operation would block"
  | .unspecified => "other error"
  | .described text => text

/-- Why a whole text could not be written. -/
inductive WriteFault where
  /-- A write took no byte at all and named no fault. -/
  | nothingTaken
  | fault (cause : Fault)
  deriving DecidableEq, Repr

def WriteFault.message : WriteFault → String
  | .nothingTaken => "failed to write whole buffer"
  | .fault cause => cause.message

/-- Why a flush failed. A flush is not attempted again, so an interruption ends it. -/
inductive FlushFault where
  | interrupted
  | fault (cause : Fault)
  deriving DecidableEq, Repr

def FlushFault.message : FlushFault → String
  | .interrupted => "operation interrupted"
  | .fault cause => cause.message

end Handoff
