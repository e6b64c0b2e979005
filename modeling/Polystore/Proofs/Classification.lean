import Mathlib.Data.List.TakeWhile
import Polystore.Proofs.Phrases
import Polystore.Table.Basic

/-!
# Names in messages

A failure of the column store is classified by its message, which is read for the name of an unknown
column.  The store tells every fault as a text with the name of a column in it.  Any identifier can
be that name, also a word of the phrases that announce an unknown column.  Still the reading finds
an undeclared column by its whole name, and finds nothing in any other message:

    f.IsPlain → unknownProperty? f.failure.message = f.undefined?      (unknownProperty?_failure)
-/

namespace Polystore

/-! ## Faults -/

namespace StoreFault

/-- The undeclared column that the fault is about. -/
def undefined? : StoreFault → Option String
  | undefinedColumn name => some name
  | _ => none

/-- The column that the message of the fault names. -/
def name? : StoreFault → Option String
  | undefinedColumn name | missingKeyPart name | keyAssigned name | nonKeyCondition name =>
    some name
  | noCondition | readInBatch => none

/-- Is the column that the message names an identifier? -/
def IsPlain (f : StoreFault) : Prop := ∀ name ∈ f.name?, Identifier.holds name = true

end StoreFault

/-! ## Messages without a phrase -/

/-- A phrase is several words, so it does not start within a word unless the text after the word
goes on like the phrase. -/
theorem propertyIn?_word_append {word rest : List Char}
    (hw : ∀ c ∈ word, Identifier.isPart c = true)
    (hr : ∀ c ∈ rest.head?, Identifier.isPart c = false)
    (hp : ∀ phrase ∈ unknownPhrases, ¬ phrase.toList.dropWhile Identifier.isPart <+: rest) :
    propertyIn? (word ++ rest) = propertyIn? rest := by
  have hne : ∀ phrase ∈ unknownPhrases,
      (phrase.toList.dropWhile Identifier.isPart).isEmpty = false := by decide
  have hrest : rest.dropWhile Identifier.isPart = rest := by
    cases rest with
    | nil => rfl
    | cons c rest => rw [List.dropWhile_cons, hr c rfl]; rfl
  refine propertyIn?_append fun cs hs _ => propertyHere?_eq_none ?_
  rintro phrase hm ⟨t, ht⟩
  -- both sides without their first word
  have hdrop := congrArg (List.dropWhile Identifier.isPart) ht
  rw [List.dropWhile_append, hne phrase hm,
    List.dropWhile_append_of_pos fun c hc => hw c (hs.mem hc), hrest] at hdrop
  exact hp phrase hm ⟨t, hdrop⟩

/-- A word announces nothing. -/
theorem propertyIn?_word {word : List Char} (hw : ∀ c ∈ word, Identifier.isPart c = true) :
    propertyIn? word = none := by
  rw [← List.append_nil word]
  exact propertyIn?_word_append hw (by simp) (by decide)

/-! ## Messages of the store -/

/-- An identifier is read whole after the phrase that announces it. -/
theorem unknownProperty?_undefined {name : String} (h : Identifier.holds name = true) :
    unknownProperty? ("Undefined column name " ++ name) = some name := by
  have hw : ∀ c ∈ name.toList, Identifier.isPart c = true := fun c => Identifier.isPart_of_mem h
  have hne : name.toList ≠ [] := by
    intro he
    rw [Identifier.holds, he] at h
    cases h
  have hphrase : "Undefined column name ".toList = "Undefined column name".toList ++ [' '] := rfl
  have hblank : [' '].all Text.isSpace = true := by decide
  have hread : announcedName? ([' '] ++ ([] ++ (name.toList ++ []))) = some name.toList :=
    announcedName?_append (List.cons_ne_nil _ _) (List.all_eq_true.1 hblank) (.inl rfl) hne
      (fun c hc => isPropertyChar_of_isPart (hw c hc)) (by simp)
  refine unknownProperty?_eq_some (propertyIn?_of_here (propertyHere?_eq_some_iff.2
    ⟨"Undefined column name", List.mem_cons_self, _, ?_, hread⟩)) ?_
  · rw [String.toList_append, hphrase, List.append_assoc, List.nil_append, List.append_nil]
  · intro hlast
    exact ne_of_isPart (hw '.' (List.mem_of_getLast? hlast)) (by decide) rfl

/-- The reading of a message finds the undeclared column that the fault is about, and nothing if it
is about anything else. -/
theorem unknownProperty?_failure {f : StoreFault} (h : f.IsPlain) :
    unknownProperty? f.failure.message = f.undefined? := by
  cases f with
  | undefinedColumn name => exact unknownProperty?_undefined (h name rfl)
  | missingKeyPart name =>
    refine unknownProperty?_eq_none ?_
    show propertyIn? ("Some primary key parts are missing: " ++ name).toList = none
    rw [String.toList_append, propertyIn?_append_of_notMem (by decide)]
    exact propertyIn?_word fun c => Identifier.isPart_of_mem (h name rfl)
  | keyAssigned name =>
    refine unknownProperty?_eq_none ?_
    show propertyIn? ("PRIMARY KEY part " ++ name ++ " found in SET part").toList = none
    have hspace : ∀ c ∈ " found in SET part".toList.head?, Identifier.isPart c = false := by
      rintro c ⟨⟩
      decide
    rw [String.toList_append, String.toList_append, List.append_assoc,
      propertyIn?_append_of_notMem (by decide),
      propertyIn?_word_append (fun c => Identifier.isPart_of_mem (h name rfl)) hspace (by decide)]
    rfl
  | nonKeyCondition name =>
    refine unknownProperty?_eq_none ?_
    show propertyIn? ("Non PRIMARY KEY columns found in where clause: " ++ name).toList = none
    rw [String.toList_append, propertyIn?_append_of_notMem (by decide)]
    exact propertyIn?_word fun c => Identifier.isPart_of_mem (h name rfl)
  | noCondition => rfl
  | readInBatch => rfl

/-- A fault is told as one of the schema if it is about an undeclared column, and as a failed
execution otherwise. -/
theorem classify_failure {f : StoreFault} (h : f.IsPlain) (context : CallContext) (ms : Nat) :
    classify context ms f.failure =
      match f.undefined? with
      | some c => .unknownProperty ⟨c, context.space, context.table, f.failure.message⟩
      | none => .execution ⟨context, ms, f.failure.cause, f.failure.message, some f.failure⟩ := by
  have hm := unknownProperty?_failure h
  unfold classify
  cases hu : f.undefined? with
  | none => rw [hm, hu]
  | some c => rw [hm, hu]

theorem exists_of_schema {f : StoreFault} (h : f.IsPlain) {context : CallContext} {ms : Nat}
    (hk : (classify context ms f.failure).kind = .schema) :
    ∃ c, f = .undefinedColumn c ∧ classify context ms f.failure =
      .unknownProperty ⟨c, context.space, context.table, f.failure.message⟩ := by
  rw [classify_failure h] at hk ⊢
  cases f with
  | undefinedColumn c => exact ⟨c, rfl, rfl⟩
  | _ => cases hk

end Polystore
