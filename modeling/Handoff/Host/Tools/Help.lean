import Handoff.Host.Tools.Request

/-! What the tools say about their use and about themselves. -/

namespace Handoff.Host

namespace Tool

/-- The address of a page that a tool points to. -/
def address (page : String) : String := "<https" ++ "://" ++ page ++ ">"

/-- The last lines of what a tool says about its use. -/
def references (tool : Tool) : List String :=
  ["",
   "GNU coreutils online help: " ++ address "www.gnu.org/software/coreutils/",
   "Report any translation bugs to " ++ address "translationproject.org/team/",
   "Full documentation " ++ address ("www.gnu.org/software/coreutils/" ++ tool.name),
   "or available locally via: info '(coreutils) " ++ tool.name ++ " invocation'"]

private def commonOptions : List String :=
  ["      --help        display this help and exit",
   "      --version     output version information and exit"]

/-- What a tool says that the shell has as well. -/
private def shellNote (tool : Tool) : List String :=
  ["",
   "NOTE: your shell may have its own version of " ++ tool.name ++ ", which usually supersedes",
   "the version described here.  Please refer to your shell's documentation",
   "for details about the options it supports."]

private def usageOfIdle (tool : Tool) (me outcome : String) : List String :=
  ["Usage: " ++ me ++ " [ignored command line arguments]",
   "  or:  " ++ me ++ " OPTION",
   "Exit with a status code indicating " ++ outcome ++ ".",
   ""] ++ commonOptions ++ shellNote tool

private def usageOfConcatenate (me : String) : List String :=
  ["Usage: " ++ me ++ " [OPTION]... [FILE]...",
   "Concatenate FILE(s) to standard output.",
   "",
   "With no FILE, or when FILE is -, read standard input.",
   "",
   "  -A, --show-all           equivalent to -vET",
   "  -b, --number-nonblank    number nonempty output lines, overrides -n",
   "  -e                       equivalent to -vE",
   "  -E, --show-ends          display $ at end of each line",
   "  -n, --number             number all output lines",
   "  -s, --squeeze-blank      suppress repeated empty output lines",
   "  -t                       equivalent to -vT",
   "  -T, --show-tabs          display TAB characters as ^I",
   "  -u                       (ignored)",
   "  -v, --show-nonprinting   use ^ and M- notation, except for LFD and TAB"] ++
  commonOptions ++
  ["",
   "Examples:",
   "  " ++ me ++ " f - g  Output f's contents, then standard input, then g's contents.",
   "  " ++ me ++ "        Copy standard input to standard output."]

private def usageOfCount (me : String) : List String :=
  ["Usage: " ++ me ++ " [OPTION]... [FILE]...",
   "  or:  " ++ me ++ " [OPTION]... --files0-from=F",
   "Print newline, word, and byte counts for each FILE, and a total line if",
   "more than one FILE is specified.  A word is a non-zero-length sequence of",
   "printable characters delimited by white space.",
   "",
   "With no FILE, or when FILE is -, read standard input.",
   "",
   "The options below may be used to select which counts are printed, always in",
   "the following order: newline, word, character, byte, maximum line length.",
   "  -c, --bytes            print the byte counts",
   "  -m, --chars            print the character counts",
   "  -l, --lines            print the newline counts",
   "      --files0-from=F    read input from the files specified by",
   "                           NUL-terminated names in file F;",
   "                           If F is - then read names from standard input",
   "  -L, --max-line-length  print the maximum display width",
   "  -w, --words            print the word counts"] ++
  commonOptions

private def usageOfRemove (me : String) : List String :=
  ["Usage: " ++ me ++ " [OPTION]... [FILE]...",
   "Remove (unlink) the FILE(s).",
   "",
   "  -f, --force           ignore nonexistent files and arguments, never prompt",
   "  -i                    prompt before every removal",
   "  -I                    prompt once before removing more than three files, or",
   "                          when removing recursively; less intrusive than -i,",
   "                          while still giving protection against most mistakes",
   "      --interactive[=WHEN]  prompt according to WHEN: never, once (-I), or",
   "                          always (-i); without WHEN, prompt always",
   "      --one-file-system  when removing a hierarchy recursively, skip any",
   "                          directory that is on a file system different from",
   "                          that of the corresponding command line argument",
   "      --no-preserve-root  do not treat '/' specially",
   "      --preserve-root[=all]  do not remove '/' (default);",
   "                              with 'all', reject any command line argument",
   "                              on a separate device from its parent",
   "  -r, -R, --recursive   remove directories and their contents recursively",
   "  -d, --dir             remove empty directories",
   "  -v, --verbose         explain what is being done"] ++
  commonOptions ++
  ["",
   "By default, rm does not remove directories.  Use the --recursive (-r or -R)",
   "option to remove each listed directory, too, along with all of its contents.",
   "",
   "To remove a file whose name starts with a '-', for example '-foo',",
   "use one of these commands:",
   "  " ++ me ++ " -- -foo",
   "",
   "  " ++ me ++ " ./-foo",
   "",
   "Note that if you use rm to remove a file, it might be possible to recover",
   "some of its contents, given sufficient expertise and/or time.  For greater",
   "assurance that the contents are truly unrecoverable, consider using shred(1)."]

private def usageOfFormat (me : String) : List String :=
  ["Usage: " ++ me ++ " FORMAT [ARGUMENT]...",
   "  or:  " ++ me ++ " OPTION",
   "Print ARGUMENT(s) according to FORMAT, or execute according to OPTION:",
   ""] ++ commonOptions ++
  ["",
   "FORMAT controls the output as in C printf.  Interpreted sequences are:",
   "",
   "  \\\"      double quote",
   "  \\\\      backslash",
   "  \\a      alert (BEL)",
   "  \\b      backspace",
   "  \\c      produce no further output",
   "  \\e      escape",
   "  \\f      form feed",
   "  \\n      new line",
   "  \\r      carriage return",
   "  \\t      horizontal tab",
   "  \\v      vertical tab",
   "  \\NNN    byte with octal value NNN (1 to 3 digits)",
   "  \\xHH    byte with hexadecimal value HH (1 to 2 digits)",
   "  \\uHHHH  Unicode (ISO/IEC 10646) character with hex value HHHH (4 digits)",
   "  \\UHHHHHHHH  Unicode character with hex value HHHHHHHH (8 digits)",
   "  %%      a single %",
   "  %b      ARGUMENT as a string with '\\' escapes interpreted,",
   "          except that octal escapes are of the form \\0 or \\0NNN",
   "  %q      ARGUMENT is printed in a format that can be reused as shell input,",
   "          escaping non-printable characters with the proposed POSIX $'' syntax.",
   "",
   "and all C format specifications ending with one of diouxXfeEgGcs, with",
   "ARGUMENTs converted to proper type first.  Variable widths are handled."] ++
  shellNote .format

/-- What a tool says about its use; `me` is the name that it was called by. -/
def usage (tool : Tool) (me : String) : List String :=
  (match tool with
    | .shell => []
    | .succeed => usageOfIdle .succeed me "success"
    | .fail => usageOfIdle .fail me "failure"
    | .concatenate => usageOfConcatenate me
    | .count => usageOfCount me
    | .remove => usageOfRemove me
    | .format => usageOfFormat me) ++ references tool

private def makers : Tool → List (List String)
  | .shell => []
  | .succeed | .fail => [["Jim", "Meyering."]]
  | .concatenate => [["Torbjorn", "Granlund", "and", "Richard", "M.", "Stallman."]]
  | .count => [["Paul", "Rubin", "and", "David", "MacKenzie."]]
  | .remove =>
    [["Paul", "Rubin,", "David", "MacKenzie,", "Richard", "M.", "Stallman,"],
     ["and", "Jim", "Meyering."]]
  | .format => [["David", "MacKenzie."]]

/-- What a tool says about itself. -/
def version (tool : Tool) : List String :=
  [tool.name ++ " (GNU coreutils) 9.1",
   " ".intercalate ["Copyright", "(C)", "2022", "Free", "Software", "Foundation,", "Inc."],
   "License GPLv3+: GNU GPL version 3 or later " ++ address "gnu.org/licenses/gpl.html" ++ ".",
   "This is free software: you are free to change and redistribute it.",
   "There is NO WARRANTY, to the extent permitted by law.",
   "",
   "Written by " ++ "\n".intercalate ((makers tool).map " ".intercalate)]

end Tool

namespace Request

private def putLines (r : Request) (lines : List String) : Work Unit :=
  r.put (lines.flatMap fun line => Bytes.ofOctets line.toList ++ [Bytes.newline])

/-- Tells how a tool is used. -/
def help (r : Request) (tool : Tool) : Work Unit := r.putLines (tool.usage r.name.label)

/-- Tells what a tool is. -/
def version (r : Request) (tool : Tool) : Work Unit := r.putLines tool.version

/-- Does nothing and answers with a fixed exit code; a lone option makes the tool speak. -/
def idle (r : Request) (tool : Tool) (code : UInt8) : Work Unit := do
  match r.args.map Bytes.label with
  | ["--help"] => r.help tool
  | ["--version"] => r.version tool
  | _ => pure ()
  throw code

/-- Acts on the options of a tool in order: the ones that ask for help or for the version end it,
and so does an argument that cannot be read. -/
def options (r : Request) (tool : Tool) (arguments : Arguments)
    (each : String → Option (List Char) → Work Unit) : Work Unit := do
  for (name, value) in arguments.options do
    match name with
    | "help" => r.help tool; throw 0
    | "version" => r.version tool; throw 0
    | _ => each name value
  if let some fault := arguments.fault then r.misused fault

end Request

end Handoff.Host
