import Polystore.Proofs.Phrases
import Polystore.Search.Index

/-!
# Texts that announce a column

Which texts the reading of a message finds an unknown column in.  The reading is not bound to the
start or the end of a message, so a text announces a column wherever it stands in a longer one:

    unknownProperty? m = none ↔ ¬ Announces m.toList                  (unknownProperty?_eq_none_iff)

If a text without a phrase stands before the announcement, and the name ends where it has to, then
the name is read back as it was written (`unknownProperty?_announcement`).

A message about a missing index holds the name of the index between brackets, and is read as the
name alone would be (`unknownProperty?_noIndex`).
-/

namespace Polystore

/-- Somewhere in the text a phrase is followed by white space, perhaps a quote, and a character of a
name. -/
def Announces (cs : List Char) : Prop :=
  ∃ (phrase : String) (before gap quote after : List Char) (c : Char), phrase ∈ unknownPhrases ∧
    cs = before ++ (phrase.toList ++ (gap ++ (quote ++ c :: after))) ∧
    gap ≠ [] ∧ (∀ g ∈ gap, Text.isSpace g = true) ∧ (quote = [] ∨ quote = ['"']) ∧
    isPropertyChar c = true

/-! ## After a phrase -/

theorem exists_announcedName?_iff {cs : List Char} :
    (∃ name, announcedName? cs = some name) ↔
      ∃ (gap quote after : List Char) (c : Char), cs = gap ++ (quote ++ c :: after) ∧
        gap ≠ [] ∧ (∀ g ∈ gap, Text.isSpace g = true) ∧ (quote = [] ∨ quote = ['"']) ∧
        isPropertyChar c = true := by
  constructor
  · rintro ⟨name, h⟩
    obtain ⟨hs, hn, rfl⟩ := announcedName?_eq_some_iff.1 h
    obtain ⟨quote, hq, he⟩ := exists_unquoted (cs.dropWhile Text.isSpace)
    have hsplit := List.takeWhile_append_dropWhile (p := Text.isSpace) (l := cs)
    cases hu : unquoted (cs.dropWhile Text.isSpace) with
    | nil => exact absurd (by rw [hu]; rfl) hn
    | cons c after =>
      refine ⟨cs.takeWhile Text.isSpace, quote, after, c, ?_, ?_, ?_, hq, ?_⟩
      · rw [← hu, ← he, hsplit]
      · intro hgap
        rw [hgap, List.nil_append] at hsplit
        exact hs hsplit
      · exact fun g hg => List.mem_takeWhile_imp hg
      · by_contra hc
        rw [hu, List.takeWhile_cons_of_neg hc] at hn
        exact hn rfl
  · rintro ⟨gap, quote, after, c, rfl, hgap, hspace, hq, hc⟩
    exact ⟨_, announcedName?_cons hgap hspace hq hc after⟩

/-! ## In a text -/

theorem exists_propertyIn?_iff {cs : List Char} :
    (∃ name, propertyIn? cs = some name) ↔
      ∃ before rest, cs = before ++ rest ∧ ∃ name, propertyHere? rest = some name := by
  induction cs with
  | nil =>
    constructor
    · rintro ⟨name, h⟩
      cases h
    · rintro ⟨before, rest, he, name, h⟩
      obtain ⟨-, rfl⟩ := List.append_eq_nil_iff.1 he.symm
      cases h
  | cons c cs ih =>
    rw [propertyIn?]
    constructor
    · rintro ⟨name, h⟩
      cases hhere : propertyHere? (c :: cs) with
      | some name' => exact ⟨[], c :: cs, rfl, name', hhere⟩
      | none =>
        rw [hhere] at h
        obtain ⟨before, rest, rfl, hrest⟩ := ih.1 ⟨name, h⟩
        exact ⟨c :: before, rest, rfl, hrest⟩
    · rintro ⟨before, rest, he, hrest⟩
      cases hhere : propertyHere? (c :: cs) with
      | some name => exact ⟨name, rfl⟩
      | none =>
        cases before with
        | nil =>
          obtain ⟨name, hn⟩ := hrest
          rw [List.nil_append] at he
          rw [he, hn] at hhere
          cases hhere
        | cons d before =>
          obtain ⟨rfl, rfl⟩ := List.cons.inj he
          exact ih.2 ⟨before, rest, rfl, hrest⟩

/-- A name is found in a text exactly if the text announces one. -/
theorem unknownProperty?_eq_none_iff {m : String} :
    unknownProperty? m = none ↔ ¬ Announces m.toList := by
  rw [unknownProperty?, Option.map_eq_none_iff, Option.eq_none_iff_forall_ne_some, ← not_exists,
    exists_propertyIn?_iff, not_iff_not]
  constructor
  · rintro ⟨before, rest, he, hrest⟩
    obtain ⟨name, hhere⟩ := hrest
    obtain ⟨phrase, hp, rest, rfl, hn⟩ := propertyHere?_eq_some_iff.1 hhere
    obtain ⟨gap, quote, after, c, rfl, h⟩ := exists_announcedName?_iff.1 ⟨name, hn⟩
    exact ⟨phrase, before, gap, quote, after, c, hp, he, h⟩
  · rintro ⟨phrase, before, gap, quote, after, c, hp, he, h⟩
    obtain ⟨name, hn⟩ := exists_announcedName?_iff.2 ⟨gap, quote, after, c, rfl, h⟩
    exact ⟨before, _, he, name, propertyHere?_eq_some_iff.2 ⟨phrase, hp, _, rfl, hn⟩⟩

/-- A text without white space announces nothing. -/
theorem not_announces {cs : List Char} (h : cs.any Text.isSpace = false) : ¬ Announces cs := by
  rintro ⟨phrase, before, gap, quote, after, c, -, rfl, hgap, hspace, -⟩
  obtain ⟨g, hg⟩ := List.exists_mem_of_ne_nil gap hgap
  exact List.any_eq_false.1 h g (by simp [hg]) (hspace g hg)

/-- What announces a column holds a phrase. -/
theorem Announces.holdsPhrase {cs : List Char} (h : Announces cs) : HoldsPhrase cs := by
  obtain ⟨phrase, before, gap, quote, after, c, hp, rfl, -⟩ := h
  exact ⟨phrase, hp, (List.prefix_append _ _).isInfix.trans (List.suffix_append _ _).isInfix⟩

/-! ## Names that are read back -/

/-- A message that announces a column: a text without a phrase, a phrase, white space, perhaps a
quote, and the name of the column, which does not end in a dot.  What comes after the name does not
go on like a name. -/
structure Announcement where
  before : String
  phrase : String
  gap : String
  quoted : Bool
  name : String
  after : String
  before_silent : ¬ HoldsPhrase before.toList
  phrase_mem : phrase ∈ unknownPhrases
  gap_ne : gap ≠ ""
  gap_space : ∀ c ∈ gap.toList, Text.isSpace c = true
  name_ne : name ≠ ""
  name_chars : ∀ c ∈ name.toList, isPropertyChar c = true
  name_last : name.toList.getLast? ≠ some '.'
  after_head : ∀ c ∈ after.toList.head?, isPropertyChar c = false

namespace Announcement

/-- The quote before the name, if there is one. -/
def quote (a : Announcement) : String := if a.quoted then "\"" else ""

/-- The whole message. -/
def message (a : Announcement) : String :=
  a.before ++ a.phrase ++ a.gap ++ a.quote ++ a.name ++ a.after

theorem toList_quote (a : Announcement) : a.quote.toList = [] ∨ a.quote.toList = ['"'] := by
  rw [quote]
  split
  · exact .inr rfl
  · exact .inl rfl

theorem toList_message (a : Announcement) :
    a.message.toList = a.before.toList ++ (a.phrase.toList ++
      (a.gap.toList ++ (a.quote.toList ++ (a.name.toList ++ a.after.toList)))) := by
  simp only [message, String.toList_append, List.append_assoc]

/-- The reading passes over the text before the phrase and stops at the end of the name. -/
theorem propertyIn?_message (a : Announcement) :
    propertyIn? a.message.toList = some a.name.toList := by
  have hread := announcedName?_append (mt String.toList_eq_nil_iff.1 a.gap_ne) a.gap_space
    a.toList_quote (mt String.toList_eq_nil_iff.1 a.name_ne) a.name_chars a.after_head
  rw [toList_message, propertyIn?_append_of_not_holdsPhrase a.before_silent
    (head?_phrase_append a.phrase_mem _)]
  exact propertyIn?_of_here (propertyHere?_eq_some_iff.2 ⟨a.phrase, a.phrase_mem, _, rfl, hread⟩)

end Announcement

/-- The name that a message announces is read back, whatever follows it, and nothing is read from a
message without a phrase. -/
theorem unknownProperty?_announcement :
    (∀ a : Announcement, unknownProperty? a.message = some a.name) ∧
      ∀ message : String, ¬ HoldsPhrase message.toList → unknownProperty? message = none := by
  constructor
  · intro a
    exact unknownProperty?_eq_some a.propertyIn?_message a.name_last
  · intro message h
    exact unknownProperty?_eq_none_iff.2 fun ha => h ha.holdsPhrase

/-- A quoted name with dots in it, between words of a phrase and another announcement. -/
theorem unknownProperty?_quotedName :
    let a : Announcement :=
      { before := "Undefined column in line 1:7, Undefined column ", phrase := "Unknown identifier",
        gap := "\n\t ", quoted := true, name := ".user.e_mail2",
        after := "\" in app.users, Undefined column name id",
        before_silent := by decide +kernel, phrase_mem := by decide, gap_ne := by decide,
        gap_space := List.all_eq_true.1 (by decide), name_ne := by decide,
        name_chars := List.all_eq_true.1 (by decide), name_last := by decide,
        after_head := by rintro c ⟨⟩; decide }
    let quiet := "Undefined columns: id"
    unknownProperty? a.message = some ".user.e_mail2" ∧
      ¬ HoldsPhrase quiet.toList ∧ unknownProperty? quiet = none := by
  intro a quiet
  have hquiet : ¬ HoldsPhrase quiet.toList := by decide +kernel
  exact ⟨unknownProperty?_announcement.1 a, hquiet, unknownProperty?_announcement.2 quiet hquiet⟩

/-! ## In brackets -/

theorem takeWhile_append_singleton {p : Char → Bool} {d : Char} (h : p d = false) (cs : List Char) :
    (cs ++ [d]).takeWhile p = cs.takeWhile p := by
  induction cs with
  | nil => exact List.takeWhile_cons_of_neg (by simp [h])
  | cons c cs ih => rw [List.cons_append, List.takeWhile_cons, List.takeWhile_cons, ih]

theorem unquoted_append {cs : List Char} (h : cs ≠ []) (more : List Char) :
    unquoted (cs ++ more) = unquoted cs ++ more := by
  cases cs with
  | nil => exact absurd rfl h
  | cons c cs =>
    by_cases hc : c = '"'
    · subst hc
      rfl
    · rw [List.cons_append, unquoted_of_ne hc, unquoted_of_ne hc, List.cons_append]

/-- A bracket at the end neither belongs to a name nor lets one start. -/
theorem announcedName?_append_bracket (cs : List Char) :
    announcedName? (cs ++ [']']) = announcedName? cs := by
  refine Option.ext fun name => ?_
  rw [announcedName?_eq_some_iff, announcedName?_eq_some_iff, List.dropWhile_append]
  by_cases hd : cs.dropWhile Text.isSpace = []
  · -- nothing but white space before the bracket
    have hno : (unquoted []).takeWhile isPropertyChar = [] := rfl
    have hbracket : (unquoted ([']'].dropWhile Text.isSpace)).takeWhile isPropertyChar = [] := by
      decide
    rw [hd, hno, List.isEmpty_nil, if_pos rfl, hbracket]
    exact ⟨fun h => absurd h.2.2.symm h.2.1, fun h => absurd h.2.2.symm h.2.1⟩
  · rw [if_neg (by simpa using hd), unquoted_append hd, takeWhile_append_singleton (by decide),
      ne_eq, List.append_left_inj]

theorem isPrefixOf_append_bracket {phrase : String} (hp : phrase ∈ unknownPhrases)
    (cs : List Char) : phrase.toList.isPrefixOf (cs ++ [']']) = phrase.toList.isPrefixOf cs := by
  have hnot : ∀ phrase ∈ unknownPhrases, ']' ∉ phrase.toList := by decide
  rw [Bool.eq_iff_iff, List.isPrefixOf_iff_prefix, List.isPrefixOf_iff_prefix,
    List.prefix_concat_iff]
  refine ⟨fun h => h.resolve_left fun he => hnot phrase hp ?_, .inr⟩
  rw [he]
  exact List.mem_append_right cs (List.mem_singleton_self ']')

theorem propertyHere?_append_bracket (cs : List Char) :
    propertyHere? (cs ++ [']']) = propertyHere? cs := by
  have hphrase : ∀ phrase ∈ unknownPhrases,
      (if phrase.toList.isPrefixOf (cs ++ [']']) then
        announcedName? ((cs ++ [']']).drop phrase.toList.length) else none) =
      if phrase.toList.isPrefixOf cs then announcedName? (cs.drop phrase.toList.length)
      else none := by
    intro phrase hp
    rw [isPrefixOf_append_bracket hp]
    split
    · next hprefix =>
      obtain ⟨rest, rfl⟩ := List.isPrefixOf_iff_prefix.1 hprefix
      rw [List.append_assoc, List.drop_left, List.drop_left, announcedName?_append_bracket]
    · rfl
  obtain ⟨hfirst, hsecond, -⟩ :=
    (List.forall_mem_cons.1 hphrase).imp_right List.forall_mem_cons.1
  simp only [propertyHere?, unknownPhrases, List.findSome?_cons, List.findSome?_nil, hfirst,
    hsecond]

theorem propertyIn?_append_bracket (cs : List Char) :
    propertyIn? (cs ++ [']']) = propertyIn? cs := by
  induction cs with
  | nil => decide
  | cons c cs ih =>
    have hhere := propertyHere?_append_bracket (c :: cs)
    rw [List.cons_append] at hhere
    rw [List.cons_append, propertyIn?, propertyIn?, hhere, ih]

/-- The message about a missing index is read as the name of the index. -/
theorem unknownProperty?_noIndex (index : String) :
    unknownProperty? (IndexFault.noIndex index).failure.message = unknownProperty? index := by
  show unknownProperty? ("index_not_found_exception: no such index [" ++ index ++ "]") = _
  rw [unknownProperty?, unknownProperty?, String.toList_append, String.toList_append,
    List.append_assoc, propertyIn?_append_of_notMem (by decide)]
  exact congrArg _ (propertyIn?_append_bracket index.toList)

end Polystore
