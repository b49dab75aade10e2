/-! How a runner ends: by itself with an exit code, or by a signal. -/

namespace Handoff

/-- A signal, by its number. -/
structure Signal where
  number : Nat
  deriving DecidableEq, Repr

namespace Signal

/-- The names of the signals that have one, without the `SIG` that they usually begin with. -/
def names : List (Nat × String) :=
  [(1, "HUP"), (2, "INT"), (3, "QUIT"), (4, "ILL"), (5, "TRAP"), (6, "ABRT"), (7, "BUS"),
   (8, "FPE"), (9, "KILL"), (10, "USR1"), (11, "SEGV"), (12, "USR2"), (13, "PIPE"), (14, "ALRM"),
   (15, "TERM"), (16, "STKFLT"), (17, "CHLD"), (18, "CONT"), (19, "STOP"), (20, "TSTP"),
   (21, "TTIN"), (22, "TTOU"), (23, "URG"), (24, "XCPU"), (25, "XFSZ"), (26, "VTALRM"),
   (27, "PROF"), (28, "WINCH"), (29, "IO"), (30, "PWR"), (31, "SYS")]

/-- The largest number of a signal. -/
def last : Nat := 64

def shortName? (s : Signal) : Option String := names.lookup s.number

/-- The signals that do nothing to a process unless it has asked for them. -/
def isIdle (s : Signal) : Bool := [17, 18, 23, 28].contains s.number

/-- The signals that no process can ward off. -/
def isImperative (s : Signal) : Bool := s.number = 9 || s.number = 19

end Signal

inductive Status where
  | exited (code : UInt8)
  /-- Ended by a signal, with or without an image of the process left behind. -/
  | signaled (signal : Signal) (coreDumped : Bool)
  deriving DecidableEq, Repr

/-- The exit code that a status is passed on as: a signal counts as a failure. -/
def Status.code : Status → Int32
  | .exited code => Int32.ofNat code.toNat
  | .signaled .. => 1

end Handoff
