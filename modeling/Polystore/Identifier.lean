import Polystore.Rejection
import Polystore.Text.Basic

/-!
# Names of tables and columns

Names are spliced into statements, so each of them has to be a plain identifier: a letter A to Z in
either case or an underscore, and then letters, digits and underscores.
-/

namespace Polystore

/-- A table of a keyspace. -/
structure TableName where
  keyspace : String
  table : String
  deriving DecidableEq, Repr

/-- Refuses a blank name. -/
def requireText (what : Subject) (s : String) : Checked Unit :=
  if Text.isBlank s then throw (.blankIdentifier what) else pure ()

namespace Identifier

/-- May an identifier start with the character? -/
def isStart (c : Char) : Bool := c.isAlpha || c = '_'

/-- May an identifier go on with the character? -/
def isPart (c : Char) : Bool := c.isAlphanum || c = '_'

/-- Is the text a plain identifier? -/
def holds (s : String) : Bool :=
  match s.toList with
  | c :: cs => isStart c && cs.all isPart
  | [] => false

theorem isPart_of_isStart {c : Char} (h : isStart c = true) : isPart c = true := by
  rw [isStart, Bool.or_eq_true] at h
  rw [isPart, Char.isAlphanum, Bool.or_eq_true, Bool.or_eq_true]
  exact h.imp_left Or.inl

/-- An identifier holds letters, digits and underscores only. -/
theorem isPart_of_mem {s : String} (h : holds s = true) {c : Char} (hc : c ∈ s.toList) :
    isPart c = true := by
  unfold holds at h
  split at h
  · next d ds hs =>
    obtain ⟨hd, hds⟩ := Bool.and_eq_true_iff.1 h
    rw [hs] at hc
    rcases List.mem_cons.1 hc with rfl | hc
    · exact isPart_of_isStart hd
    · exact List.all_eq_true.1 hds c hc
  · cases h

/-- Refuses what is no plain identifier. -/
def check (s : String) : Checked Unit :=
  if holds s then pure () else throw (.invalidIdentifier s)

/-- Refuses a list with a name that is no plain identifier, for the first such name. -/
def checkAll (names : List String) : Checked Unit := names.forM check

end Identifier

end Polystore
