/-!
# Texts

Sets of characters as ranges of code points, white space, and the pieces of a text: cutting at a
separator, joining with one, and looking at the two ends.  A text is blank if nothing is left of it
once white space is removed from both ends, that is, if it holds nothing but white space.
-/

namespace Polystore.Text

/-! ## Sets of code points -/

/-- Closed ranges of code points. -/
abbrev Ranges := List (Nat × Nat)

/-- Does some range hold the character? -/
def Ranges.holds (rs : Ranges) (c : Char) : Bool :=
  rs.any fun r => r.1 ≤ c.toNat && c.toNat ≤ r.2

/-! ## White space -/

/-- The white space of Unicode: U+00A0 and U+3000 belong to it, U+200B does not. -/
def whiteSpace : Ranges :=
  [(0x9, 0xD), (0x20, 0x20), (0x85, 0x85), (0xA0, 0xA0), (0x1680, 0x1680), (0x2000, 0x200A),
   (0x2028, 0x2029), (0x202F, 0x202F), (0x205F, 0x205F), (0x3000, 0x3000)]

/-- Is the character white space? -/
def isSpace (c : Char) : Bool := whiteSpace.holds c

/-- Does the text hold nothing but white space? -/
def isBlank (s : String) : Bool := s.toList.all isSpace

/-! ## Pieces -/

/-- The pieces of a list between separators; a list without a separator is one piece. -/
def piecesOf {α : Type} [DecidableEq α] (sep : α) : List α → List (List α)
  | [] => [[]]
  | c :: cs =>
    if c = sep then [] :: piecesOf sep cs
    else
      match piecesOf sep cs with
      | p :: ps => (c :: p) :: ps
      | [] => [[c]]

/-- The pieces of a text between separators. -/
def pieces (sep : Char) (s : String) : List String := (piecesOf sep s.toList).map String.ofList

/-- The text before the first separator, if there is one. -/
def before? (sep : Char) (s : String) : Option String :=
  if sep ∈ s.toList then some (String.ofList (s.toList.takeWhile (· ≠ sep))) else none

/-- Does a text start with another? -/
def startsWith (s start : String) : Bool := start.toList.isPrefixOf s.toList

/-- The text without an ending that it has. -/
def dropEnd? (s ending : String) : Option String :=
  if ending.toList.isSuffixOf s.toList then
    some (String.ofList (s.toList.take (s.toList.length - ending.toList.length)))
  else none

/-- The texts in a row, with a separator between them. -/
def join (sep : String) : List String → String
  | [] => ""
  | [s] => s
  | s :: rest => s ++ sep ++ join sep rest

/-! ## Lemmas -/

theorem piecesOf_ne_nil {α : Type} [DecidableEq α] (sep : α) (l : List α) :
    piecesOf sep l ≠ [] := by
  induction l with
  | nil => simp [piecesOf]
  | cons c cs ih =>
    simp only [piecesOf]
    split
    · simp
    · split <;> simp

/-- A run of characters of a kind is read whole if a character of another kind, or nothing, comes
next. -/
theorem takeWhile_run {p : Char → Bool} {run rest : List Char} (h : ∀ c ∈ run, p c = true)
    (hr : ∀ c ∈ rest.head?, p c = false) : (run ++ rest).takeWhile p = run := by
  rw [List.takeWhile_append_of_pos h]
  cases rest with
  | nil => simp
  | cons c rest => simp [hr c rfl]

/-- An ending that was put there can be dropped. -/
theorem dropEnd?_append (s ending : String) : dropEnd? (s ++ ending) ending = some s := by
  simp [dropEnd?, String.toList_append]

end Polystore.Text
