/-!
# Blank characters

The blank characters of Unicode text, and what is done with them: trimming, splitting into words,
collapsing runs, and folding runs into one character. `collapse` is the normal form of a field read
from markup; `foldRuns` makes anchor names.
-/

namespace Pamphlet.Text

/-- The characters with the Unicode property White_Space, and the four information separators
U+001C to U+001F. -/
def isBlank (c : Char) : Bool :=
  let n := c.toNat
  (9 ≤ n && n ≤ 13) || (28 ≤ n && n ≤ 32) || n == 0x85 || n == 0xA0 || n == 0x1680 ||
    (0x2000 ≤ n && n ≤ 0x200A) || n == 0x2028 || n == 0x2029 || n == 0x202F || n == 0x205F ||
    n == 0x3000

/-- Drops the blanks at the end. -/
def trimEnd : List Char → List Char
  | [] => []
  | c :: cs =>
    match trimEnd cs with
    | [] => if isBlank c then [] else [c]
    | kept => c :: kept

/-- Drops the blanks at both ends. -/
def trimChars (cs : List Char) : List Char :=
  trimEnd (cs.dropWhile isBlank)

def trim (s : String) : String :=
  String.ofList (trimChars s.toList)

def isBlankText (s : String) : Bool :=
  s.toList.all isBlank

/-- The maximal runs of characters that are not blank, in order; `word` is the run being read. -/
def wordsFrom (word : List Char) : List Char → List (List Char)
  | [] => if word.isEmpty then [] else [word.reverse]
  | c :: cs =>
    if isBlank c then
      if word.isEmpty then wordsFrom [] cs else word.reverse :: wordsFrom [] cs
    else wordsFrom (c :: word) cs

def words (cs : List Char) : List (List Char) :=
  wordsFrom [] cs

/-- The words of a text, one space between neighbours. -/
def collapseChars (cs : List Char) : List Char :=
  (words cs).intersperse [' '] |>.flatten

def collapse (s : String) : String :=
  String.ofList (collapseChars s.toList)

/-- Every run of blanks becomes one `mark`; `inRun` says that the last character read was blank. -/
def foldRunsFrom (mark : Char) (inRun : Bool) : List Char → List Char
  | [] => []
  | c :: cs =>
    if isBlank c then
      if inRun then foldRunsFrom mark true cs else mark :: foldRunsFrom mark true cs
    else c :: foldRunsFrom mark false cs

def foldRuns (mark : Char) (cs : List Char) : List Char :=
  foldRunsFrom mark false cs

/-- The lower-case letter of a capital whose lower case is an ASCII letter: `A` to `Z` and the
kelvin sign. Every other character stays, which is enough to compare with a text in ASCII. -/
def lowerChar (c : Char) : Char :=
  if c.toNat = 0x212A then 'k' else c.toLower

def lower (s : String) : String :=
  String.ofList (s.toList.map lowerChar)

end Pamphlet.Text
