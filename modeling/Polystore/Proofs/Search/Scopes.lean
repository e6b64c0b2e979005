import Polystore.Proofs.Search.Matching

/-!
# Scopes of single clauses

A nested clause looks at one object at its path at a time, each in a document of its own.  Around a
single clause that tests the values of a field below the path this makes no difference: the objects
together have the values of the field, and it is enough that one value passes
(`nested_clause_of_field`).  Around several clauses it does, as they have to be passed inside one
and the same object.
-/

namespace Polystore

namespace Query

/-- A clause that tests the values of a field one at a time. -/
inductive TestsValues (field : String) : Query → Prop
  | term (v : Json) (boost : Option Number) : TestsValues field (.term field v boost)
  | terms (vs : List Json) (boost : Option Number) : TestsValues field (.terms field vs boost)
  | range (bounds : List (Bound × Json)) (boost : Option Number) :
    TestsValues field (.range field bounds boost)
  | start (text : String) (boost : Option Number) : TestsValues field (.start field text boost)
  | pattern (source : String) (boost : Option Number) :
    TestsValues field (.pattern field source boost)

variable {suffix field : String} {q : Query} {doc : Json}

/-- The clause matches if some value of the field passes a test; if its pattern cannot be read, it
shows that fault for every document. -/
theorem TestsValues.cases (h : q.TestsValues field) (suffix : String) :
    (∃ test : Json → Bool, ∀ doc, q.Runs suffix doc ∧
      q.holds suffix doc = (fieldValues suffix field doc).any test) ∨
    ∀ doc, q.score suffix doc = .error .invalidPattern := by
  cases h with
  | term v boost => exact .inl ⟨_, fun doc => ⟨runs_hit rfl, holds_term field v boost⟩⟩
  | terms vs boost => exact .inl ⟨_, fun doc => ⟨runs_hit rfl, holds_terms field vs boost⟩⟩
  | range bounds boost => exact .inl ⟨_, fun doc => ⟨runs_hit rfl, holds_range field bounds boost⟩⟩
  | start text boost => exact .inl ⟨_, fun doc => ⟨runs_hit rfl, holds_start field text boost⟩⟩
  | pattern source boost =>
    cases hp : Pattern.ofNotation? source with
    | none =>
      refine .inr fun doc => ?_
      rw [Query.score, hp]
      rfl
    | some p =>
      have hs : ∀ doc, (Query.pattern field source boost).score suffix doc =
          hit ((fieldValues suffix field doc).any (hasMatch p)) boost := fun doc => by
        rw [Query.score, hp]
      exact .inl ⟨hasMatch p, fun doc => ⟨runs_hit (hs doc), holds_hit (hs doc)⟩⟩

/-- A clause that never can be evaluated matches in no scope. -/
theorem holds_nested_of_error {fault : QueryFault} (h : ∀ doc, q.score suffix doc = .error fault)
    (path : String) (scored : Bool) : (nested path q scored).holds suffix doc = false := by
  rw [holds, score]
  cases hc : (doc.valuesAt path).filter Json.isObject with
  | nil => rfl
  | cons c cs =>
    rw [best, h]
    rfl

/-- Inside the scope of a path a clause on a field below it matches the documents that it matches
without the scope. -/
theorem TestsValues.holds_nested {path rest : String}
    (h : q.TestsValues (path ++ "." ++ rest ++ suffix)) (scored : Bool) (doc : Json) :
    (nested path q scored).holds suffix doc = q.holds suffix doc := by
  obtain ⟨test, ht⟩ | he := h.cases suffix
  · have hruns : ∀ c ∈ objectsAt path doc, q.Runs suffix (Json.wrapAt path c) := fun c _ =>
      (ht (Json.wrapAt path c)).1
    obtain ⟨o, ho, hh⟩ := score_nested hruns scored
    rw [holds_of_score ho, hh, (ht doc).2]
    simp only [fun doc => (ht doc).2]
    exact any_objectsAt suffix path rest test doc
  · rw [holds_nested_of_error he, holds, he doc]

end Query

/-- Looking at the objects at a path one at a time is looking at the whole document.

The values of a field below the path, gathered over the documents that hold one object at the path
and nothing else, are the values that the document has at the field, in the same order.  So a nested
clause around one clause on the field with the suffix matches the documents that the bare clause
matches. -/
theorem nested_clause_of_field (suffix path rest : String) (doc : Json) :
    ((objectsAt path doc).flatMap fun c => (Json.wrapAt path c).valuesAt (path ++ "." ++ rest)) =
        doc.valuesAt (path ++ "." ++ rest) ∧
      ∀ q : Query, q.TestsValues (path ++ "." ++ rest ++ suffix) → ∀ scored : Bool,
        (Query.nested path q scored).holds suffix doc = q.holds suffix doc :=
  ⟨(valuesAt_dotted path rest doc).symm, fun _ h scored => h.holds_nested scored doc⟩

/-- Two shelves with boxes, some of them broken. -/
def shelves : Json :=
  .obj [("shelf", .arr
    [.obj [("box", .arr [.obj [("label", .str "Red")], .null, .str "torn"])],
      .obj [("box", .obj [("label", .arr [.str "Blue", .str "Red"])])]])]

theorem nested_clause_of_label :
    (objectsAt "shelf.box" shelves).length = 2 ∧
      shelves.valuesAt "shelf.box.label" = [.str "Red", .str "Blue", .str "Red"] ∧
      (Query.nested "shelf.box" (.term "shelf.box.label.raw" (.str "blue") none) false).holds
        ".raw" shelves = true := by
  have hscope := (nested_clause_of_field ".raw" "shelf.box" "label" shelves).2
    (.term "shelf.box.label.raw" (.str "blue") none) (.term _ _) false
  refine ⟨rfl, rfl, ?_⟩
  rw [hscope, Query.holds_term]
  rfl

end Polystore
