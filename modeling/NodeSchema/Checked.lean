import NodeSchema.Invalid
/-!
# Reading with all issues

A part of an entry is read to a value or to at least one issue. Two parts are read independently of
each other, and the issues of both are kept in order.
-/

namespace NodeSchema

/-- A part of an entry as it has been read. -/
inductive Checked (α : Type) where
  | ok (a : α)
  | refused (first : Issue) (others : List Issue)

namespace Checked

variable {α β : Type}

def issues : Checked α → List Issue
  | .ok _ => []
  | .refused first others => first :: others

/-- The part, if it is in order. -/
def value? : Checked α → Option α
  | .ok a => some a
  | .refused _ _ => none

def refuse (problem : Problem) : Checked α := .refused ⟨[], problem⟩ []

def map (f : α → β) : Checked α → Checked β
  | .ok a => .ok (f a)
  | .refused first others => .refused first others

def both : Checked α → Checked β → Checked (α × β)
  | .ok a, .ok b => .ok (a, b)
  | .ok _, .refused first others => .refused first others
  | .refused first others, c => .refused first (others ++ c.issues)

/-- A part whose place is reached by the given steps. -/
def under (steps : List Step) : Checked α → Checked α
  | .ok a => .ok a
  | .refused first others => .refused (first.under steps) (others.map (·.under steps))

def ofExcept : Except Issue α → Checked α
  | .ok a => .ok a
  | .error issue => .refused issue []

/-- The whole entry, refused if there is an issue. -/
def toExcept (kind : EntryKind) : Checked α → Except Invalid α
  | .ok a => .ok a
  | .refused first others => .error ⟨kind, first, others⟩

theorem map_eq_ok_iff {f : α → β} {c : Checked α} {b : β} :
    c.map f = .ok b ↔ ∃ a, c = .ok a ∧ f a = b := by
  cases c <;> simp [map]

theorem both_eq_ok_iff {c : Checked α} {d : Checked β} {p : α × β} :
    c.both d = .ok p ↔ c = .ok p.1 ∧ d = .ok p.2 := by
  cases c <;> cases d <;> simp [both, Prod.ext_iff]

/-- Where something stands makes no difference for a check that succeeds. -/
theorem under_eq_ok_iff {steps : List Step} {c : Checked α} {a : α} :
    c.under steps = .ok a ↔ c = .ok a := by
  cases c <;> simp [under]

/-- Joining all issues into one error makes no check succeed and none fail. -/
theorem toExcept_eq_ok_iff {kind : EntryKind} {c : Checked α} {a : α} :
    c.toExcept kind = .ok a ↔ c = .ok a := by
  cases c <;> simp [toExcept]

@[simp] theorem value?_map (f : α → β) (c : Checked α) : (c.map f).value? = c.value?.map f := by
  cases c <;> rfl

@[simp] theorem issues_map (f : α → β) (c : Checked α) : (c.map f).issues = c.issues := by
  cases c <;> rfl

@[simp] theorem issues_both (a : Checked α) (b : Checked β) :
    (a.both b).issues = a.issues ++ b.issues := by
  cases a <;> cases b <;> simp [both, issues]

@[simp] theorem issues_under (steps : List Step) (c : Checked α) :
    (c.under steps).issues = c.issues.map (·.under steps) := by
  cases c <;> rfl

end Checked

end NodeSchema
