import Handoff.Shell.Grammar

/-! The names of the commands that a shell runs itself. -/

namespace Handoff.Shell

inductive Builtin where
  | colon | dot | bracket | «alias» | bg | break | cd | chdir | command | continue | echo | eval
  | exec | exit | export | false | fg | getopts | hash | jobs | kill | «local» | printf | pwd | read
  | readonly | return | set | shift | test | times | trap | true | type | ulimit | umask | unalias
  | unset | wait
  deriving DecidableEq, Repr

namespace Builtin

def all : List Builtin :=
  [colon, dot, bracket, .«alias», bg, .break, cd, chdir, command, .continue, echo, eval, exec, exit,
   .export, .false, fg, getopts, hash, jobs, kill, .local, printf, pwd, read, readonly, .return,
   set, shift, test, times, trap, .true, type, ulimit, umask, unalias, unset, wait]

def name : Builtin → String
  | colon => ":"
  | dot => "."
  | bracket => "["
  | .«alias» => "alias"
  | bg => "bg"
  | .break => "break"
  | cd => "cd"
  | chdir => "chdir"
  | command => "command"
  | .continue => "continue"
  | echo => "echo"
  | eval => "eval"
  | exec => "exec"
  | exit => "exit"
  | .export => "export"
  | .false => "false"
  | fg => "fg"
  | getopts => "getopts"
  | hash => "hash"
  | jobs => "jobs"
  | kill => "kill"
  | .local => "local"
  | printf => "printf"
  | pwd => "pwd"
  | read => "read"
  | readonly => "readonly"
  | .return => "return"
  | set => "set"
  | shift => "shift"
  | test => "test"
  | times => "times"
  | trap => "trap"
  | .true => "true"
  | type => "type"
  | ulimit => "ulimit"
  | umask => "umask"
  | unalias => "unalias"
  | unset => "unset"
  | wait => "wait"

def ofText? (text : Text) : Option Builtin := all.find? fun b => b.name.toList = text

/-- Whether misusing the command ends a script, and assignments in front of it last. -/
def isSpecial (b : Builtin) : Bool := specialNames.contains b.name

/-- Whether its arguments are expanded like assignments if they have that form. -/
def takesAssignments (b : Builtin) : Bool := [.«alias», .export, .local, readonly].contains b

end Builtin

end Handoff.Shell
