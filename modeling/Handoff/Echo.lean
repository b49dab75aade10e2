import Handoff.Utf8

/-! The line that shows a list of arguments. -/

namespace Handoff

/-- The arguments as one text, parted by single spaces. Each argument is decoded by itself, with a
replacement character for what is not UTF-8. -/
def echoText (args : List Bytes) : List Char :=
  List.intercalate [' '] (args.map Utf8.decodeLossy)

/-- The text of the arguments, encoded. -/
def echoBytes (args : List Bytes) : Bytes := Bytes.ofChars (echoText args)

/-- What is written for the arguments: their text and the end of the line. -/
def echoLine (args : List Bytes) : Bytes := echoBytes args ++ [Bytes.newline]

@[simp] theorem length_echoLine (args : List Bytes) :
    (echoLine args).length = (echoBytes args).length + 1 := by simp [echoLine]

end Handoff
