import Polystore.Pattern.Reader
import Polystore.Search.Clause

/-!
# Patterns for the end of a text

A test on the end of a text is written as `.*` and the escaped text.  Such a pattern can always be
read: every character of an escaped text stands for itself, but for `^` and `$`, which are not
escaped and stand for the ends of the text.  So the pattern is refused only if it takes too much
room, and its room is told by the bytes of the text:

    (ofNotation? (".*" ++ escape text)).isSome ↔ text.utf8ByteSize ≤ maxEnding
                                                                    (isSome_ofNotation?_ending)
-/

namespace Polystore.Pattern

/-! ## Signs of an escaped text -/

/-- The sign of a character of an escaped text. -/
def escapedSign (c : Char) : Sign := ⟨c, reserved.contains c && special.contains c⟩

theorem signs_cons {c : Char} (h : c ≠ '\\') (cs : List Char) :
    signs (c :: cs) = ⟨c, false⟩ :: signs cs := by
  rw [signs]
  · exact fun _ _ hc => absurd hc h
  · exact fun hc => absurd hc h

/-- An escaped text has one sign for each character. -/
theorem signs_escape (text : String) :
    signs (escape text).toList = text.toList.map escapedSign := by
  unfold escape
  rw [String.toList_ofList]
  induction text.toList with
  | nil => rfl
  | cons c cs ih =>
    rw [List.flatMap_cons, List.map_cons, escapedSign]
    by_cases hc : reserved.contains c = true
    · rw [if_pos hc, hc, Bool.true_and, ← ih]
      rfl
    · have hne : c ≠ '\\' := by
        rintro rfl
        exact hc (by decide)
      rw [if_neg hc, Bool.eq_false_iff.2 hc, Bool.false_and, List.singleton_append,
        signs_cons hne, ih]

/-! ## Reading an escaped text -/

/-- The pattern of a character of an escaped text. -/
def escaped (c : Char) : Pattern :=
  if c = '^' then edge .textStart else if c = '$' then edge .textEnd else chars (.single c)

section
variable {st st' : Progress} {n : Nat} {s : Sign} {rest rest' : List Sign}

/-- The progress with one more part. -/
def Progress.add (st : Progress) (p : Pattern) : Progress :=
  { st with level := st.level.add (.leaf p) }

theorem readParts_cons (hw : st.switches = .initial)
    (h : readPart st s rest = some (st', rest')) :
    readParts (n + 1) st (s :: rest) = readParts n st' rest' := by
  have hs : skip st.switches (s :: rest) = s :: rest := by
    rw [hw]
    rfl
  rw [readParts, hs]
  simp only [h]

/-- Every character of an escaped text is a part of its own. -/
theorem readPart_escapedSign (hw : st.switches = .initial) (c : Char) (ss : List Sign) :
    readPart st (escapedSign c) ss = some (st.add (escaped c), ss) := by
  obtain ⟨level, outer, switches, names⟩ := st
  obtain rfl : switches = .initial := hw
  by_cases h : c = '^'
  · subst h
    rfl
  by_cases h' : c = '$'
  · subst h'
    rfl
  have hletter : escaped c = letter .initial c := by
    rw [escaped, if_neg h, if_neg h']
    rfl
  rw [hletter]
  unfold readPart
  by_cases hp : (escapedSign c).plain = true
  · rw [if_pos hp]
    rfl
  · -- the other characters with a meaning of their own are escaped
    have hplain : ∀ d ∈ ['(', ')', '|', '[', '?', '*', '+', '\x7b', '.'],
        (escapedSign d).plain = true := by simp [escapedSign, reserved, special]
    have hne : ∀ d ∈ ['(', ')', '|', '[', '?', '*', '+', '\x7b', '.'], c ≠ d := by
      rintro d hd rfl
      exact hp (hplain c hd)
    simp only [List.forall_mem_cons] at hne
    obtain ⟨h₁, h₂, h₃, h₄, h₅, h₆, h₇, h₈, h₉, -⟩ := hne
    have hc : (escapedSign c).char = c := rfl
    rw [if_neg hp, hc]
    split
    · exact absurd rfl h₁
    · exact absurd rfl h₂
    · exact absurd rfl h₃
    · exact absurd rfl h₄
    · exact absurd rfl h₅
    · exact absurd rfl h₆
    · exact absurd rfl h₇
    · exact absurd rfl h₈
    · exact absurd rfl h₉
    · exact absurd rfl h
    · exact absurd rfl h'
    · rfl

end

/-! ## The pattern that is read -/

theorem andThen_empty (p : Pattern) : p.andThen empty = p := by
  unfold andThen
  split
  · next h => exact h.symm
  · exact if_pos rfl

namespace Part

theorem pattern_row (ps : List Part) :
    (row ps).pattern = ps.foldl (fun q p => p.pattern.andThen q) empty := by
  match ps with
  | [] => rfl
  | [p] => exact (andThen_empty p.pattern).symm
  | _ :: _ :: _ => rfl

theorem depth_row_le {ps : List Part} {d : Nat} (h : ∀ p ∈ ps, p.depth ≤ d) :
    (row ps).depth ≤ d + 1 := by
  have hmax : ∀ (ps : List Part) (e : Nat), (∀ p ∈ ps, p.depth ≤ d) → e ≤ d →
      ps.foldl (fun d p => max d p.depth) e ≤ d := by
    intro ps
    induction ps with
    | nil => exact fun e _ he => he
    | cons p ps ih =>
      intro e hp he
      rw [List.forall_mem_cons] at hp
      exact ih _ hp.2 (Nat.max_le.2 ⟨he, hp.1⟩)
  match ps with
  | [] => exact Nat.zero_le _
  | [p] => exact Nat.le_succ_of_le (h p List.mem_cons_self)
  | p :: q :: ps => exact Nat.succ_le_succ (hmax _ 0 h (Nat.zero_le _))

end Part

/-- Any characters but the end of a line. -/
def anything : Pattern := rep (chars .notNewline) 0 none

/-- The characters of an escaped text, one after the other. -/
def escapedAll (cs : List Char) : Pattern := cs.foldr (fun c q => (escaped c).andThen q) empty

/-- The pattern for a text at the end. -/
def ending (text : String) : Pattern :=
  (edge .textStart).andThen
    ((anything.andThen (escapedAll text.toList)).andThen (edge .textEnd))

/-- The group between the ends of the text, while its escaped text is read. -/
def inGroup (parts : List Part) : Progress where
  level := ⟨[], parts, .initial, false⟩
  outer := [⟨[], [.leaf (edge .textStart)], .initial, false⟩]
  switches := .initial
  names := []

theorem readParts_group (n : Nat) (ss : List Sign) :
    readParts (n + 2) ⟨⟨[], [], .initial, false⟩, [], .initial, []⟩
        (['^', '(', '?', ':'].map (⟨·, false⟩) ++ ss) = readParts n (inGroup []) ss := by
  let opened : Progress :=
    ⟨⟨[], [.leaf (edge .textStart)], .initial, false⟩, [], .initial, []⟩
  have hedge : readPart ⟨⟨[], [], .initial, false⟩, [], .initial, []⟩ ⟨'^', false⟩
      (['(', '?', ':'].map (⟨·, false⟩) ++ ss) =
        some (opened, ['(', '?', ':'].map (⟨·, false⟩) ++ ss) := rfl
  have hopen : readPart opened ⟨'(', false⟩ (['?', ':'].map (⟨·, false⟩) ++ ss) =
      some (inGroup [], ss) := rfl
  exact (readParts_cons rfl hedge).trans (readParts_cons rfl hopen)

theorem readParts_anything (n : Nat) {ss : List Sign} (hs : startsWith '?' ss = false) :
    readParts (n + 2) (inGroup []) (⟨'.', false⟩ :: ⟨'*', false⟩ :: ss) =
      readParts n (inGroup [⟨anything, 1, true⟩]) ss := by
  have hlazy : dropLazy ss = ss := by
    unfold dropLazy
    rw [hs]
    rfl
  have hdot : readPart (inGroup []) ⟨'.', false⟩ (⟨'*', false⟩ :: ss) =
      some (inGroup [.leaf (chars .notNewline)], ⟨'*', false⟩ :: ss) := rfl
  have hstar : readPart (inGroup [.leaf (chars .notNewline)]) ⟨'*', false⟩ ss =
      some (inGroup [⟨anything, 1, true⟩], dropLazy ss) := rfl
  rw [hlazy] at hstar
  exact (readParts_cons rfl hdot).trans (readParts_cons rfl hstar)

theorem readParts_escaped (n : Nat) (cs : List Char) (parts : List Part) (rest : List Sign) :
    readParts (n + cs.length) (inGroup parts) (cs.map escapedSign ++ rest) =
      readParts n (inGroup ((cs.map fun c => Part.leaf (escaped c)).reverse ++ parts)) rest := by
  induction cs generalizing parts with
  | nil => rfl
  | cons c cs ih =>
    rw [List.length_cons, ← Nat.add_assoc, List.map_cons, List.cons_append,
      readParts_cons rfl (readPart_escapedSign rfl c _), List.map_cons, List.reverse_cons,
      List.append_assoc]
    exact ih (.leaf (escaped c) :: parts)

/-- A part between the ends of the text. -/
def enclosed (p : Part) : Level :=
  ⟨[], [.leaf (edge .textEnd), ⟨p.pattern, p.depth + 1, true⟩, .leaf (edge .textStart)], .initial,
    false⟩

theorem readParts_end (n : Nat) (parts : List Part) :
    readParts (n + 3) (inGroup parts) ([')', '$'].map (⟨·, false⟩)) =
      some ⟨enclosed (.row parts), [], .initial, []⟩ := rfl

theorem pattern_content_enclosed (p : Part) :
    (enclosed p).content.pattern =
      (edge .textStart).andThen (p.pattern.andThen (edge .textEnd)) := by
  have h : (enclosed p).content.pattern =
    (edge .textStart).andThen (p.pattern.andThen ((edge .textEnd).andThen empty)) := rfl
  rw [h, andThen_empty]

theorem depth_content_enclosed_le {p : Part} {d : Nat} (h : p.depth ≤ d) :
    (enclosed p).content.depth ≤ d + 2 := by
  refine Part.depth_row_le fun q hq => ?_
  simp only [enclosed, List.mem_cons, List.not_mem_nil, or_false] at hq
  rcases hq with rfl | rfl | rfl
  · exact Nat.zero_le _
  · exact Nat.succ_le_succ h
  · exact Nat.zero_le _

/-! ### The whole notation -/

/-- The parts of the group when it is closed. -/
def endingParts (text : String) : List Part :=
  (text.toList.map fun c => Part.leaf (escaped c)).reverse ++ [⟨anything, 1, true⟩]

theorem pattern_row_endingParts (text : String) :
    (Part.row (endingParts text)).pattern = anything.andThen (escapedAll text.toList) := by
  rw [endingParts, Part.pattern_row, List.foldl_append, List.foldl_reverse, List.foldr_map]
  rfl

theorem depth_row_endingParts_le (text : String) : (Part.row (endingParts text)).depth ≤ 2 := by
  refine Part.depth_row_le fun p hp => ?_
  rcases List.mem_append.1 hp with hp | hp
  · obtain ⟨c, -, rfl⟩ := List.mem_map.1 (List.mem_reverse.1 hp)
    exact Nat.zero_le _
  · obtain rfl := List.mem_singleton.1 hp
    exact Nat.le_refl 1

theorem wrapped_ending (text : String) :
    wrapped (".*" ++ escape text) =
      ['^', '(', '?', ':'].map (⟨·, false⟩) ++ (⟨'.', false⟩ :: ⟨'*', false⟩ ::
        (text.toList.map escapedSign ++ [')', '$'].map (⟨·, false⟩))) := by
  have hdots : (".*" : String).toList = ['.', '*'] := by decide
  unfold wrapped
  rw [String.toList_append, hdots, List.cons_append, List.singleton_append,
    signs_cons (by decide), signs_cons (by decide), signs_escape, List.append_assoc]
  rfl

/-- The text does not go on with a question mark that belongs to the repetition. -/
theorem not_startsWith_escaped (cs : List Char) :
    startsWith '?' (cs.map escapedSign ++ [')', '$'].map (⟨·, false⟩)) = false := by
  cases cs with
  | nil => rfl
  | cons c cs =>
    show ((escapedSign c).char == '?' && !(escapedSign c).plain) = false
    by_cases hc : c = '?'
    · subst hc
      rfl
    · have hne : ((escapedSign c).char == '?') = false := beq_false_of_ne hc
      rw [hne, Bool.false_and]

theorem readParts_wrapped (text : String) :
    readParts ((wrapped (".*" ++ escape text)).length + 1)
        ⟨⟨[], [], .initial, false⟩, [], .initial, []⟩ (wrapped (".*" ++ escape text)) =
      some ⟨enclosed (.row (endingParts text)), [], .initial, []⟩ := by
  have hlength : (wrapped (".*" ++ escape text)).length + 1 =
      2 + 3 + text.toList.length + 2 + 2 := by
    rw [wrapped_ending]
    simp
    omega
  rw [hlength, wrapped_ending, readParts_group,
    readParts_anything _ (not_startsWith_escaped text.toList), readParts_escaped, readParts_end]
  rfl

/-- The pattern for the end of a text is read, unless it takes too much room. -/
theorem ofNotation?_ending (text : String) :
    ofNotation? (".*" ++ escape text) =
      if (ending text).hasRoom then some (ending text) else none := by
  have hpattern : (enclosed (.row (endingParts text))).content.pattern = ending text := by
    rw [pattern_content_enclosed, pattern_row_endingParts]
    rfl
  have hdepth : (enclosed (.row (endingParts text))).content.depth ≤ maxDepth :=
    Nat.le_trans (depth_content_enclosed_le (depth_row_endingParts_le text)) (by decide)
  unfold ofNotation?
  simp only [readParts_wrapped, Option.bind_eq_bind, Option.bind_some, hpattern, hdepth,
    List.isEmpty_nil, decide_true, Bool.true_and]

/-! ## Room -/

theorem byteCount_toNat (c : Char) : byteCount c.toNat = c.utf8Size := by
  unfold byteCount Char.utf8Size Char.toNat
  simp only [UInt32.le_iff_toNat_le, UInt32.toNat_ofNatLT]
  repeat' split
  all_goals first | rfl | omega

theorem room_escaped (backwards : Bool) (c : Char) :
    (escaped c).room backwards = stateRoom * c.utf8Size := by
  unfold escaped
  by_cases h : c = '^'
  · subst h
    rfl
  by_cases h' : c = '$'
  · subst h'
    rfl
  rw [if_neg h, if_neg h']
  have honly : (CharSet.single c).only? = some c.toNat := if_pos rfl
  rw [room, CharSet.room, honly, ← byteCount_toNat]
  exact Nat.mul_comm _ _

theorem escaped_ne_empty (c : Char) : escaped c ≠ empty := by
  unfold escaped
  split
  · simp
  · split <;> simp

theorem andThen_ne_empty {p : Pattern} (hp : p ≠ empty) (q : Pattern) : p.andThen q ≠ empty := by
  rw [andThen, if_neg hp]
  split
  · exact hp
  · simp

theorem room_andThen_edge (backwards : Bool) {p : Pattern} (hp : p ≠ empty) (e : Edge) :
    (p.andThen (edge e)).room backwards = p.room backwards + stateRoom := by
  rw [andThen, if_neg hp, if_neg (by simp)]
  rfl

theorem utf8ByteSize_ofList_cons (c : Char) (cs : List Char) :
    (String.ofList (c :: cs)).utf8ByteSize = c.utf8Size + (String.ofList cs).utf8ByteSize := by
  have hsplit : String.ofList (c :: cs) = String.singleton c ++ String.ofList cs := by
    rw [String.singleton_eq_ofList, ← String.ofList_append]
    rfl
  rw [hsplit, String.utf8ByteSize_append, String.utf8ByteSize_singleton]

/-- A pattern before the characters of a text takes their room more. -/
theorem room_andThen_escapedAll (backwards : Bool) {p : Pattern} (hp : p ≠ empty)
    (cs : List Char) :
    (p.andThen (escapedAll cs)).room backwards =
      p.room backwards + stateRoom * (String.ofList cs).utf8ByteSize := by
  induction cs generalizing p with
  | nil =>
    rw [escapedAll, List.foldr_nil, andThen_empty]
    rfl
  | cons c cs ih =>
    have hc := ih (escaped_ne_empty c)
    have hne : (escaped c).andThen (escapedAll cs) ≠ empty :=
      andThen_ne_empty (escaped_ne_empty c) _
    show (p.andThen ((escaped c).andThen (escapedAll cs))).room backwards = _
    have hseq : p.andThen ((escaped c).andThen (escapedAll cs)) =
        seq p ((escaped c).andThen (escapedAll cs)) := by
      rw [andThen, if_neg hp, if_neg hne]
    rw [hseq, room, hc, room_escaped, utf8ByteSize_ofList_cons, Nat.mul_add]

theorem room_ending (backwards : Bool) (text : String) :
    (ending text).room backwards =
      anything.room backwards + 2 * stateRoom + stateRoom * text.utf8ByteSize := by
  have hany : anything ≠ empty := by simp [anything]
  have hne := andThen_ne_empty hany (escapedAll text.toList)
  have hseq : ending text =
      seq (edge .textStart)
        ((anything.andThen (escapedAll text.toList)).andThen (edge .textEnd)) := by
    rw [ending, andThen, if_neg (by simp), if_neg (andThen_ne_empty hne _)]
  rw [hseq, room, room_andThen_edge _ hne, room_andThen_escapedAll _ hany, String.ofList_toList]
  have hedge : (edge .textStart).room backwards = stateRoom := rfl
  rw [hedge]
  omega

/-- The most bytes that a text can have whose pattern for the end of a text has room. -/
def maxEnding : Nat := 327643

theorem hasRoom_ending_iff (text : String) :
    (ending text).hasRoom = true ↔ text.utf8ByteSize ≤ maxEnding := by
  have hf : anything.room false = 464 := by decide +kernel
  have hb : anything.room true = 1040 := by decide +kernel
  unfold hasRoom
  rw [Bool.and_eq_true, decide_eq_true_iff, decide_eq_true_iff, room_ending, room_ending, hf, hb]
  unfold stateRoom maxRoom maxEnding
  omega

/-- The pattern for the end of a text can be read if the text is not too long. -/
theorem isSome_ofNotation?_ending (text : String) :
    (ofNotation? (".*" ++ escape text)).isSome = true ↔ text.utf8ByteSize ≤ maxEnding := by
  rw [ofNotation?_ending, ← hasRoom_ending_iff]
  split
  · next h => simp [h]
  · next h => simp [h]

end Polystore.Pattern
