/-!
# Names in code-point order

Names are listed in the order of their code points. Sorting is by insertion, so that adding a name
to a collection inserts it at its place and moves nothing else.
-/

namespace NodeSchema

/-- Puts a name before the first name that does not precede it. -/
def insertName (a : String) : List String → List String
  | [] => [a]
  | b :: rest => if a ≤ b then a :: b :: rest else b :: insertName a rest

/-- The names in ascending order, repetitions kept. -/
def sortNames : List String → List String
  | [] => []
  | a :: rest => insertName a (sortNames rest)

@[simp] theorem mem_insertName {a b : String} {l : List String} :
    b ∈ insertName a l ↔ b = a ∨ b ∈ l := by
  induction l with
  | nil => simp [insertName]
  | cons c rest ih =>
    unfold insertName
    split
    · simp
    · simp only [List.mem_cons, ih]
      constructor <;> (rintro (h | h | h) <;> simp [h])

@[simp] theorem mem_sortNames {b : String} {l : List String} : b ∈ sortNames l ↔ b ∈ l := by
  induction l with
  | nil => simp [sortNames]
  | cons a rest ih => simp [sortNames, ih]

end NodeSchema
