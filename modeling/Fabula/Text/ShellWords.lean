/-!
# Command lines

A command line is split at blanks, tabs and line ends. Quotation marks of either kind group
characters into one word, and a backslash takes the next character literally; inside double
quotation marks it does so only before a double quotation mark or a backslash.
-/

namespace Fabula.Text

inductive ShellFault where
  | openQuotation
  | danglingEscape
deriving DecidableEq, Repr

inductive ShellPlace where
  | plain
  | quoted (mark : Char)
  | escaped
  | escapedInQuotes
deriving DecidableEq, Repr

def isShellBlank (c : Char) : Bool :=
  c == ' ' || c == '\t' || c == '\r' || c == '\n'

def shellWordsFrom : ShellPlace → Option (List Char) → List Char → Except ShellFault (List String)
  | .plain, none, [] => .ok []
  | .plain, some word, [] => .ok [String.ofList word.reverse]
  | .quoted _, _, [] => .error .openQuotation
  | .escaped, _, [] => .error .danglingEscape
  | .escapedInQuotes, _, [] => .error .danglingEscape
  | .plain, word, c :: rest =>
    if isShellBlank c then
      match word with
      | none => shellWordsFrom .plain none rest
      | some chars => do return String.ofList chars.reverse :: (← shellWordsFrom .plain none rest)
    else if c == '\\' then shellWordsFrom .escaped word rest
    else if c == '"' || c == '\'' then shellWordsFrom (.quoted c) (some (word.getD [])) rest
    else shellWordsFrom .plain (some (c :: word.getD [])) rest
  | .quoted mark, word, c :: rest =>
    if c == mark then shellWordsFrom .plain word rest
    else if c == '\\' && mark == '"' then shellWordsFrom .escapedInQuotes word rest
    else shellWordsFrom (.quoted mark) (some (c :: word.getD [])) rest
  | .escaped, word, c :: rest => shellWordsFrom .plain (some (c :: word.getD [])) rest
  | .escapedInQuotes, word, c :: rest =>
    let kept := if c == '"' || c == '\\' then word.getD [] else '\\' :: word.getD []
    shellWordsFrom (.quoted '"') (some (c :: kept)) rest

def shellWords (line : String) : Except ShellFault (List String) :=
  shellWordsFrom .plain none line.toList

end Fabula.Text
