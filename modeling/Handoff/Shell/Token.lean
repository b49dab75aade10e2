import Handoff.Shell.Grammar

/-!
What a script is cut into.

Operators and words are tokens. A word that is not quoted may turn out to be a keyword where one
can stand.
-/

namespace Handoff.Shell

inductive Keyword where
  | not | choice | «do» | done | elif | «else» | esac | fi | each | «if» | «in» | «then» | «until»
  | «while» | openBrace | closeBrace
  deriving DecidableEq, Repr

namespace Keyword

def all : List Keyword :=
  [not, choice, «do», done, elif, «else», esac, fi, each, «if», «in», «then», «until», «while»,
    openBrace, closeBrace]

def text : Keyword → String
  | not => "!"
  | choice => "case"
  | «do» => "do"
  | done => "done"
  | elif => "elif"
  | «else» => "else"
  | esac => "esac"
  | fi => "fi"
  | each => "for"
  | «if» => "if"
  | «in» => "in"
  | «then» => "then"
  | «until» => "until"
  | «while» => "while"
  | openBrace => "\x7b"
  | closeBrace => "\x7d"

def ofText? (text : Text) : Option Keyword := all.find? fun k => k.text.toList = text

end Keyword

inductive Token where
  | endOfFile | newline | semicolon | ampersand | «and» | or | pipe | openParen | closeParen
  /-- The end of one case among several. -/
  | endCase
  | redirection
  | word
  | keyword (keyword : Keyword)
  deriving DecidableEq, Repr

namespace Token

/-- A token as complaints name it. -/
def shown : Token → String
  | endOfFile => "end of file"
  | newline => "newline"
  | semicolon => "\";\""
  | ampersand => "\"&\""
  | «and» => "\"&&\""
  | or => "\"||\""
  | pipe => "\"|\""
  | openParen => "\"(\""
  | closeParen => "\")\""
  | endCase => "\";;\""
  | redirection => "redirection"
  | word => "word"
  | keyword k => "\"" ++ k.text ++ "\""

/-- Whether a list of commands ends in front of a token. -/
def endsList : Token → Bool
  | endOfFile | closeParen | endCase => true
  | keyword k => [.do, .done, .elif, .else, .esac, .fi, .then, .closeBrace].contains k
  | _ => false

end Token

end Handoff.Shell
