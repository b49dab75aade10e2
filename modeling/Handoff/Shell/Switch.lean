import Handoff.Shell.Glyph

/-!
The options that a shell runs with.

An option has a name and most have a letter as well. The ones that concern terminals and jobs can
be set, but change nothing here.
-/

namespace Handoff.Shell

inductive Switch where
  | errexit | noglob | ignoreeof | interactive | monitor | noexec | stdin | xtrace | verbose | vi
  | emacs | noclobber | allexport | notify | nounset | privileged | nolog | debug
  deriving DecidableEq, Repr

namespace Switch

/-- All options, in the order in which they are listed. -/
def all : List Switch :=
  [errexit, noglob, ignoreeof, interactive, monitor, noexec, stdin, xtrace, verbose, vi, emacs,
   noclobber, allexport, notify, nounset, privileged, nolog, debug]

def name : Switch → String
  | errexit => "errexit"
  | noglob => "noglob"
  | ignoreeof => "ignoreeof"
  | interactive => "interactive"
  | monitor => "monitor"
  | noexec => "noexec"
  | stdin => "stdin"
  | xtrace => "xtrace"
  | verbose => "verbose"
  | vi => "vi"
  | emacs => "emacs"
  | noclobber => "noclobber"
  | allexport => "allexport"
  | notify => "notify"
  | nounset => "nounset"
  | privileged => "privileged"
  | nolog => "nolog"
  | debug => "debug"

def letter? : Switch → Option Char
  | errexit => 'e'
  | noglob => 'f'
  | ignoreeof => 'I'
  | interactive => 'i'
  | monitor => 'm'
  | noexec => 'n'
  | stdin => 's'
  | xtrace => 'x'
  | verbose => 'v'
  | vi => 'V'
  | emacs => 'E'
  | noclobber => 'C'
  | allexport => 'a'
  | notify => 'b'
  | nounset => 'u'
  | privileged => 'p'
  | nolog | debug => none

def ofName? (name : Text) : Option Switch := all.find? fun s => s.name.toList = name

def ofLetter? (c : Char) : Option Switch := all.find? fun s => s.letter? = some c

/-- The letters of the options that are set, the last ones of the list first. -/
def letters (on : List Switch) : Text :=
  all.reverse.filterMap fun s => if on.contains s then s.letter? else none

/-- Sets an option or takes it back. Of the two ways of editing there can be only one. -/
def change (on : List Switch) (s : Switch) (value : Bool) : List Switch :=
  let on := on.filter (· ≠ s)
  if !value then on
  else if s = vi then vi :: on.filter (· ≠ emacs)
  else if s = emacs then emacs :: on.filter (· ≠ vi)
  else s :: on

/-- All options with their settings, as a list or as commands that bring them back. -/
def listing (on : List Switch) (asCommands : Bool) : String :=
  String.join <|
    if asCommands then
      all.map fun s => "set " ++ (if on.contains s then "-o " else "+o ") ++ s.name ++ "\n"
    else
      "Current option settings\n" :: all.map fun s =>
        s.name ++ String.ofList (List.replicate (16 - s.name.length) ' ') ++
          (if on.contains s then "on" else "off") ++ "\n"

end Switch

end Handoff.Shell
