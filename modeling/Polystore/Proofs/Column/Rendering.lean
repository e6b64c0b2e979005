import Polystore.Proofs.Column.Outline

/-!
# Values never reach the text

What an accepted operation sends is text with a marker for each bound value, and nothing that the
caller gave stands in the text but identifiers and a time to live (`rendering_of_accepted`).  Two
operations that differ in their data only are sent as the same text.
-/

namespace Polystore

/-- What is sent for an accepted operation.

Each of its statements, in either dialect, is the text of a sequence of pieces, which are fixed
words, identifiers, a number of seconds and bound values, together with the values of these pieces
in the same order; so there is one marker for each value, and both dialects bind the same values.
Another accepted operation of the same outline on the same table has the same text. -/
theorem rendering_of_accepted {t : TableName} {op : Operation} {plan : Plan}
    (h : compile t op = .ok plan) :
    (∀ st ∈ plan.statements, ∀ d : Dialect,
      st.render d = ⟨textOf d (st.pieces d), valuesOf (st.pieces d)⟩ ∧
      (∀ p ∈ st.pieces d, p.IsPlain) ∧
      (st.render d).text.toList.count '?' = (st.render d).values.length ∧
      ∀ d' : Dialect, (st.render d').values = (st.render d).values) ∧
    ∀ (op' : Operation) (plan' : Plan),
      op'.outline = op.outline → compile t op' = .ok plan' →
      plan'.text = plan.text ∧
        ∀ d : Dialect, plan'.statements.map (fun st => (st.render d).text) =
          plan.statements.map fun st => (st.render d).text := by
  refine ⟨fun st hst d => ?_, fun op' plan' ho h' => text_eq_of_outline h h' ho⟩
  have hp : ∀ p ∈ st.pieces d, p.IsPlain := Statement.arePlain (names_of_compile h st hst) d
  refine ⟨st.render_eq d, hp, ?_, fun d' => ?_⟩
  · rw [st.render_eq d]
    exact count_marker hp d
  · rw [st.render_eq d, st.render_eq d']
    exact st.valuesOf_pieces d' d

/-- A read of a remaining time with a list of two states and a bound. -/
def readOpen (first second : String) (least : Nat) : Operation :=
  .select
    (.keyRange
      ⟨[("state", .list [.str first, .str second]),
        ("n", .operators ⟨[(.atLeast, .ofNat least)], []⟩)], []⟩)
    ⟨none, [("n", "left")]⟩

theorem rendering_of_readOpen :
    ∃ plan plan', compile ⟨"shop", "items"⟩ (readOpen "new" "open" 3) = .ok plan ∧
      compile ⟨"shop", "items"⟩ (readOpen "?" "'; DROP" 7) = .ok plan' ∧
      (∀ st ∈ plan.statements, (st.render .json).text.toList.count '?' = 3) ∧
      plan'.text = plan.text := by
  refine ⟨_, _, rfl, rfl, fun st hst => ?_, ?_⟩
  · obtain ⟨-, -, hc, -⟩ :=
      (@rendering_of_accepted ⟨"shop", "items"⟩ (readOpen "new" "open" 3) _ rfl).1 st hst .json
    rw [hc, List.mem_singleton.1 hst]
    rfl
  · exact ((@rendering_of_accepted ⟨"shop", "items"⟩ (readOpen "new" "open" 3) _ rfl).2
      (readOpen "?" "'; DROP" 7) _ rfl rfl).1

end Polystore
