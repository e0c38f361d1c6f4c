import ComponentTree.Text.CaseMap

/-!
Words of a name. A name is cut at every character that is neither a letter nor a number, and each
piece is cut again where its case says that a word begins: after a lower-case character that an
upper-case one follows, and before the last of several upper-case characters when a lower-case one
follows (`HTMLElement` is `HTML`, `Element`). A character of neither case keeps the case that the
word has so far.
-/

namespace ComponentTree.Text

/-- The case of the latest cased character of a word. -/
inductive WordCase where
  | none
  | lower
  | upper
deriving DecidableEq

/-- The case of a word that goes on with `c`. -/
def WordCase.after (case : WordCase) (c : Char) : WordCase :=
  if isLower c then .lower else if isUpper c then .upper else case

/-- Cuts a piece into words; `word` holds the characters of the current word, last first. -/
def cutPiece : WordCase → List Char → List Char → List (List Char)
  | _, [], [] => []
  | _, word, [] => [word.reverse]
  | _, word, [c] => [(c :: word).reverse]
  | case, word, c :: next :: rest =>
    if case.after c = .lower ∧ isUpper next then
      (c :: word).reverse :: cutPiece .none [] (next :: rest)
    else if case = .upper ∧ isUpper c ∧ isLower next then
      word.reverse :: cutPiece .none [c] (next :: rest)
    else
      cutPiece (case.after c) (c :: word) (next :: rest)

/-- The stretches of letters and numbers, empty ones included; `piece` holds the current one, last
character first. -/
def pieces : List Char → List Char → List (List Char)
  | piece, [] => [piece.reverse]
  | piece, c :: rest =>
    if isAlphanumeric c then pieces (c :: piece) rest else piece.reverse :: pieces [] rest

/-- The words of a name. -/
def words (name : List Char) : List (List Char) :=
  (pieces [] name).flatMap (cutPiece .none [])

/-- A word in lower case; a sigma at its end takes its final form. -/
def lowerWord : List Char → List Char
  | [] => []
  | [c] => if c = 'Σ' then ['ς'] else lower c
  | c :: rest => lower c ++ lowerWord rest

/-- A word with its first character in upper case and the others in lower case. -/
def capitalize : List Char → List Char
  | [] => []
  | c :: rest => upper c ++ lowerWord rest

end ComponentTree.Text
