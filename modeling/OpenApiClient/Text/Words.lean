import OpenApiClient.Text.Alphanumeric
import OpenApiClient.Text.LetterCase

/-!
# Words and Pascal case

A text is cut into maximal runs of word characters, and such a run into words at its changes of
letter case: before an upper-case letter that follows a lower-case one, and before the last
upper-case letter of several when a lower-case letter follows it (`XMLNode` is `XML` and `Node`).
Main function: `pascalCase`.
-/

namespace OpenApiClient.Text

/-- The maximal non-empty runs of characters with the property `p`, where `run` is the reversed
beginning of the current one. -/
def runsAfter (p : Char → Bool) (run : List Char) : List Char → List (List Char)
  | [] => if run.isEmpty then [] else [run.reverse]
  | c :: rest =>
    if p c then runsAfter p (c :: run) rest
    else if run.isEmpty then runsAfter p [] rest
    else run.reverse :: runsAfter p [] rest

def runsOf (p : Char → Bool) (text : List Char) : List (List Char) := runsAfter p [] text

/-- The letter case of the last cased character of a word. -/
inductive LetterMode where
  | none
  | lower
  | upper
  deriving DecidableEq, Repr

def LetterMode.after (mode : LetterMode) (c : Char) : LetterMode :=
  if isLowercase c then .lower else if isUppercase c then .upper else mode

/-- Cuts a run into words, where `word` is the reversed beginning of the current word and `mode`
the letter case of its end. -/
def caseWordsAfter (mode : LetterMode) (word : List Char) : List Char → List (List Char)
  | [] => if word.isEmpty then [] else [word.reverse]
  | [c] => [(c :: word).reverse]
  | c :: next :: rest =>
    if mode.after c = .lower && isUppercase next then
      (c :: word).reverse :: caseWordsAfter .none [] (next :: rest)
    else if mode = .upper && isUppercase c && isLowercase next then
      word.reverse :: caseWordsAfter .none [c] (next :: rest)
    else caseWordsAfter (mode.after c) (c :: word) (next :: rest)

/-- The words of a text: its runs of letters and numbers, cut where the letter case changes. -/
def words (text : String) : List (List Char) :=
  (runsOf isAlphanumeric text.toList).flatMap (caseWordsAfter .none [])

/-- The rest of a word in lower case; a sigma at its end is a final one. -/
def lowerTail : List Char → List Char
  | [] => []
  | ['Σ'] => ['ς']
  | c :: rest => lowerChar c ++ lowerTail rest

def titleWord : List Char → List Char
  | [] => []
  | c :: rest => upperChar c ++ lowerTail rest

/-- The words of a text, each begun with an upper-case letter, without anything in between. -/
def pascalCase (text : String) : String := String.ofList ((words text).flatMap titleWord)

end OpenApiClient.Text
