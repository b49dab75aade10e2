import Handoff.Bytes.Octets

/-!
Options among the arguments of a tool.

An option is a letter behind a dash, where several letters may share the dash, or a word behind
two dashes, which may be cut short as long as it stays clear which word it is. Options may stand
behind operands; a lone `--` ends them.
-/

namespace Handoff.Host

/-- Whether an option comes with a value of its own. -/
inductive Takes where
  | nothing | value | optionalValue
  deriving DecidableEq, Repr

/-- The options that a tool knows. A word stands for the option of the given name. -/
structure OptionTable where
  letters : List (Char × Takes)
  words : List (String × Takes × String)

/-- Arguments as far as they could be read. -/
structure Arguments where
  /-- The options in order, each with its value. -/
  options : List (String × Option (List Char))
  operands : List (List Char)
  /-- What is wrong with the argument that reading ended at. -/
  fault : Option (List Char)

/-- Puts options in front of those that were read. -/
def Arguments.prepend (options : List (String × Option (List Char))) (a : Arguments) : Arguments :=
  { a with options := options ++ a.options }

namespace OptionTable

private def text (s : String) : List Char := s.toList

private def quote (before : String) (option : List Char) (after : String) : List Char :=
  text before ++ '\'' :: option ++ '\'' :: text after

/-- How an argument with options in it goes on. -/
private inductive Next where
  | done
  /-- The option of a name takes the next argument; the fault arises if there is none. -/
  | needs (name : String) (fault : List Char)
  | fault (fault : List Char)

/-- Reads the letters behind a dash. -/
private def readLetters (table : OptionTable) :
    List Char → List (String × Option (List Char)) × Next
  | [] => ([], .done)
  | c :: cs =>
    match table.letters.lookup c with
    | none => ([], .fault (quote "invalid option -- " [c] ""))
    | some .nothing =>
      let (options, next) := table.readLetters cs
      ((String.singleton c, none) :: options, next)
    | some .optionalValue =>
      ([(String.singleton c, if cs = [] then none else some cs)], .done)
    | some .value =>
      if cs = [] then
        ([], .needs (String.singleton c) (quote "option requires an argument -- " [c] ""))
      else ([(String.singleton c, some cs)], .done)

/-- The words that a text may be short for: itself if it is a word, else all that it begins. -/
private def candidates (table : OptionTable) (name : List Char) : List (String × Takes × String) :=
  match table.words.filter fun (word, _) => word.toList = name with
  | [] => table.words.filter fun (word, _) => name.isPrefixOf word.toList
  | exact => exact

/-- Reads a word behind two dashes. -/
private def readWord (table : OptionTable) (arg : List Char) :
    List (String × Option (List Char)) × Next :=
  let name := arg.takeWhile (· ≠ '=')
  let value := if name.length < arg.length then some (arg.drop (name.length + 1)) else none
  match table.candidates name with
  | [] => ([], .fault (quote "unrecognized option " ('-' :: '-' :: arg) ""))
  | (word, takes, option) :: others =>
    if others.any fun (_, other) => other ≠ (takes, option) then
      let shown := (word :: others.map (·.1)).flatMap fun word => text (" '--" ++ word ++ "'")
      ([], .fault (quote "option " ('-' :: '-' :: arg) " is ambiguous; possibilities:" ++ shown))
    else
      let full := text ("--" ++ word)
      match takes, value with
      | .nothing, some _ => ([], .fault (quote "option " full " doesn't allow an argument"))
      | .value, none => ([], .needs option (quote "option " full " requires an argument"))
      | _, value => ([(option, value)], .done)

/-- Reads all arguments. -/
def read (table : OptionTable) : List (List Char) → Arguments
  | [] => ⟨[], [], none⟩
  | arg :: args =>
    match arg with
    | ['-', '-'] => ⟨[], args, none⟩
    | '-' :: c :: cs =>
      let (options, next) := if c = '-' then table.readWord cs else table.readLetters (c :: cs)
      match next, args with
      | .done, args => (table.read args).prepend options
      | .needs name _, value :: args => (table.read args).prepend (options ++ [(name, some value)])
      | .needs _ fault, [] | .fault fault, _ => ⟨options, [], some fault⟩
    | _ =>
      let rest := table.read args
      { rest with operands := arg :: rest.operands }

end OptionTable

end Handoff.Host
