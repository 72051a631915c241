/-
What may stand between the parts of a TOML document: blanks, line ends, and comments.
-/
namespace TypedStorage.Toml

def isWhite (c : Char) : Bool := c = ' ' || c = '\t'

def skipWhite (cs : List Char) : List Char := cs.dropWhile isWhite

/-- Characters that may stand in a comment or, quotes apart, in a string. -/
def isPlain (c : Char) : Bool := c = '\t' || (0x20 ≤ c.toNat && c.toNat ≠ 0x7f)

/-- Skips blanks, line ends and comments; says whether it starts inside a comment. -/
def skipBlank? : Bool → List Char → Option (List Char)
  | _, [] => some []
  | _, '\n' :: cs => skipBlank? false cs
  | inside, '\r' :: cs => if cs.head? = some '\n' then skipBlank? inside cs else none
  | true, c :: cs => if isPlain c then skipBlank? true cs else none
  | false, c :: cs =>
    if isWhite c then skipBlank? false cs else if c = '#' then skipBlank? true cs else some (c :: cs)

/-- Skips what is left of a line, which is blank up to a comment. -/
def skipLine? : Bool → List Char → Option (List Char)
  | _, [] => some []
  | _, '\n' :: cs => some cs
  | inside, '\r' :: cs => if cs.head? = some '\n' then skipLine? inside cs else none
  | true, c :: cs => if isPlain c then skipLine? true cs else none
  | false, c :: cs => if isWhite c then skipLine? false cs else if c = '#' then skipLine? true cs else none

end TypedStorage.Toml
