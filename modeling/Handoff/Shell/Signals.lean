import Handoff.Status
import Handoff.Shell.Glyph

/-!
Signals as the shell names and describes them.

Besides the usual names there are those of the real-time signals, which are counted from both
ends. The number 0 has a name as well: it is what the end of a shell goes by.
-/

namespace Handoff.Shell.SignalName

private def usual : List String :=
  ["EXIT", "HUP", "INT", "QUIT", "ILL", "TRAP", "ABRT", "BUS", "FPE", "KILL", "USR1", "SEGV",
   "USR2", "PIPE", "ALRM", "TERM", "16", "CHLD", "CONT", "STOP", "TSTP", "TTIN", "TTOU", "URG",
   "XCPU", "XFSZ", "VTALRM", "PROF", "WINCH", "IO", "PWR", "SYS", "32", "33", "RTMIN"]

/-- The names of all signals, by their numbers. -/
def all : List String :=
  usual ++ (List.range 15).map (fun n => "RTMIN+" ++ toString (n + 1)) ++
    (List.range 14).map (fun n => "RTMAX-" ++ toString (14 - n)) ++ ["RTMAX"]

example : all.length = Signal.last + 1 := by decide +kernel

def name (number : Nat) : String := all.getD number ""

/-- The signal with a number that is written in digits. -/
def ofNumber? (text : Text) : Option Nat :=
  if text ≠ [] ∧ text.all Char.isDigit then
    let n := text.foldl (fun n c => n * 10 + (c.toNat - '0'.toNat)) 0
    if n ≤ Signal.last then some n else none
  else none

/-- The signal with a number or a name, in letters of either case. The first names are left out. -/
def ofText? (omitted : Nat) (text : Text) : Option Nat :=
  match ofNumber? text with
  | some n => some n
  | none =>
    let upper := text.map Char.toUpper
    (List.range all.length).find? fun n => omitted ≤ n ∧ (name n).toList = upper

private def descriptions : List String :=
  ["", "Hangup", "Interrupt", "Quit", "Illegal instruction", "Trace/breakpoint trap", "Aborted",
   "Bus error", "Floating point exception", "Killed", "User defined signal 1",
   "Segmentation fault", "User defined signal 2", "Broken pipe", "Alarm clock", "Terminated",
   "Stack fault", "Child exited", "Continued", "Stopped (signal)", "Stopped",
   "Stopped (tty input)", "Stopped (tty output)", "Urgent I/O condition",
   "CPU time limit exceeded", "File size limit exceeded", "Virtual timer expired",
   "Profiling timer expired", "Window changed", "I/O possible", "Power failure",
   "Bad system call"]

/-- A signal in words. -/
def description (signal : Signal) : String :=
  let n := signal.number
  if h : n < descriptions.length then descriptions[n]
  else if n < 34 then "Unknown signal " ++ toString n
  else "Real-time signal " ++ toString (n - 34)

/-- Whether nothing is said of a process that a signal ended. -/
def isQuiet (signal : Signal) : Bool := signal.number = 2 || signal.number = 13

end Handoff.Shell.SignalName
