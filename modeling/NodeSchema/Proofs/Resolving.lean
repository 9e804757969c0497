import NodeSchema.TypeResolver
/-!
# What a resolving computation gives and finds

A resolving computation gives a value or a failed look-up, and adds to the findings. What it gives
and what it adds do not depend on what has been found before, so both can be named: `Gives` says
that a computation has this outcome and adds these findings in every run.

* `Gives.bind`, `Gives.mapM` — computations put together.
* `Gives.runAll` — computations one after the other, of which some may fail.
* `TypeResolver.resolve_gives` — the resolver, for every kind and field whether known or not.
-/

namespace NodeSchema

/-! ## 1. Findings put together -/

namespace Findings

def append (f g : Findings) : Findings := ⟨f.diagnostics ++ g.diagnostics, f.log ++ g.log⟩

def concat (l : List Findings) : Findings := l.foldr append none

@[simp] theorem append_none (f : Findings) : f.append none = f := by
  simp [append, none]

@[simp] theorem none_append (f : Findings) : none.append f = f := by
  simp [append, none]

theorem append_assoc (f g h : Findings) : (f.append g).append h = f.append (g.append h) := by
  simp [append, List.append_assoc]

@[simp] theorem concat_nil : concat [] = none := rfl

@[simp] theorem concat_cons (f : Findings) (l : List Findings) :
    concat (f :: l) = f.append (concat l) := rfl

end Findings

/-! ## 2. Computations put together -/

namespace Resolving

variable {α β : Type}

/-- `Gives x outcome found` — in every run `x` has this outcome and adds these findings to those
that there are. -/
def Gives (x : Resolving α) (outcome : Except Registry.LookupError α) (found : Findings) : Prop :=
  ∀ before : Findings, x.run.run before = (outcome, before.append found)

theorem Gives.pure (a : α) : Gives (Pure.pure a) (.ok a) .none := by
  intro before
  rw [Findings.append_none]
  rfl

/-- After a computation the next one goes on from its value and its findings. -/
theorem Gives.run_bind {x : Resolving α} {a : α} {found : Findings} (hx : Gives x (.ok a) found)
    (f : α → Resolving β) (before : Findings) :
    (x >>= f).run.run before = (f a).run.run (before.append found) := by
  rw [ExceptT.run_bind, StateT.run_bind, hx before]
  rfl

/-- The findings of two steps come one after the other. -/
theorem Gives.bind {x : Resolving α} {f : α → Resolving β} {a : α}
    {outcome : Except Registry.LookupError β} {found found' : Findings}
    (hx : Gives x (.ok a) found) (hf : Gives (f a) outcome found') :
    Gives (x >>= f) outcome (found.append found') := by
  intro before
  rw [hx.run_bind, hf, Findings.append_assoc]

/-- A computation after another one whose value is not used. -/
theorem Gives.andThen {x : Resolving α} {y : Resolving β} {a : α}
    {outcome : Except Registry.LookupError β} {found found' : Findings}
    (hx : Gives x (.ok a) found) (hy : Gives y outcome found') :
    Gives (x >>= fun _ => y) outcome (found.append found') :=
  Gives.bind hx hy

theorem Gives.return {x : Resolving α} {a : α} {found : Findings} (hx : Gives x (.ok a) found)
    (f : α → β) : Gives (x >>= fun a => Pure.pure (f a)) (.ok (f a)) found := by
  rw [← Findings.append_none found]
  exact Gives.bind hx (Gives.pure (f a))

/-- A computation after a look-up that succeeds. -/
theorem Gives.after_lookup {x : Except Registry.LookupError α} {f : α → Resolving β} {a : α}
    {outcome : Except Registry.LookupError β} {found : Findings} (hx : x = .ok a)
    (hf : Gives (f a) outcome found) : Gives (liftExcept x >>= f) outcome found := by
  rw [hx]
  exact hf

/-- Behind a step that fails nothing more is found. -/
theorem Gives.bind_error {x : Resolving α} {f : α → Resolving β} {e : Registry.LookupError}
    {found : Findings} (hx : Gives x (.error e) found) : Gives (x >>= f) (.error e) found := by
  intro before
  rw [ExceptT.run_bind, StateT.run_bind, hx before]
  rfl

/-- A computation whose value is changed, whether it gives one or fails. -/
theorem Gives.map {x : Resolving α} {outcome : Except Registry.LookupError α} {found : Findings}
    (hx : Gives x outcome found) (f : α → β) :
    Gives (x >>= fun a => Pure.pure (f a)) (outcome.map f) found := by
  cases outcome with
  | ok a => exact hx.return f
  | error e => exact hx.bind_error

theorem Gives.liftExcept (x : Except Registry.LookupError α) :
    Gives (liftExcept x : Resolving α) x .none := by
  intro before
  rw [Findings.append_none]
  cases x <;> rfl

theorem Gives.log (level : Log.Level) (source : Log.Source) (message : String) :
    Gives (Resolving.log level source message) (.ok ()) ⟨[], [⟨level, source, message⟩]⟩ := by
  intro before
  simp only [Findings.append, List.append_nil]
  rfl

/-- A computation for every item of a list. -/
theorem Gives.mapM {f : α → Resolving β} {g : α → β} {found : α → Findings} :
    ∀ {l : List α}, (∀ a ∈ l, Gives (f a) (.ok (g a)) (found a)) →
      Gives (l.mapM f) (.ok (l.map g)) (Findings.concat (l.map found))
  | [], _ => by
    rw [List.mapM_nil]
    exact Gives.pure []
  | a :: rest, h => by
    obtain ⟨ha, hrest⟩ := List.forall_mem_cons.mp h
    rw [List.mapM_cons]
    exact ha.bind ((Gives.mapM hrest).return (g a :: ·))

/-- Computations for the items of a list, each from the findings that the one before it leaves. One
that fails is followed by the next one all the same. -/
def runAll (f : α → Resolving β) (before : Findings) :
    List α → List (Except Registry.LookupError β) × Findings
  | [] => ([], before)
  | a :: rest =>
    let (outcome, after) := (f a).run.run before
    let (outcomes, last) := runAll f after rest
    (outcome :: outcomes, last)

/-- A run is read off its items: the outcomes are those that they have by themselves, and their
findings are kept in their order. -/
theorem Gives.runAll {f : α → Resolving β} {outcome : α → Except Registry.LookupError β}
    {found : α → Findings} (h : ∀ a, Gives (f a) (outcome a) (found a)) (before : Findings)
    (l : List α) :
    runAll f before l = (l.map outcome, before.append (Findings.concat (l.map found))) := by
  induction l generalizing before with
  | nil => simp [Resolving.runAll]
  | cons a rest ih =>
    have hstep := h a before
    simp [Resolving.runAll, hstep, ih, Findings.append_assoc]

end Resolving

/-! ## 3. The resolver -/

namespace TypeResolver

open Resolving

variable (t : TypeResolver) (kind name : String)

/-- The type that the validator of a field has, or else the unknown type. -/
def typeOfField (field : Field) : String :=
  match field.validator with
  | none => t.unknownType
  | some validator =>
    match validator.typeText t.sequenceType with
    | .ok type => type
    | .error _ => t.unknownType

def answer : Except Registry.LookupError String :=
  match t.overrideFor? kind name with
  | some type => .ok type
  | none => (t.registry.field kind name).map t.typeOfField

/-- A diagnostic with its two log records. -/
def reported (d : Diagnostic) (validator : Validator) : Findings where
  diagnostics := [d]
  log := [⟨.warning, .resolver, d.message⟩,
    ⟨.warning, .resolver, validator.toNative.layout reportBounds⟩]

def foundAtField (field : Field) : Findings :=
  match field.validator with
  | none => .none
  | some validator =>
    match validator.typeText t.sequenceType with
    | .ok _ => .none
    | .error e => reported ⟨kind, name, e.blamed⟩ validator

def foundAt : Findings :=
  match t.overrideFor? kind name with
  | some _ => .none
  | none =>
    match t.registry.field kind name with
    | .ok field => t.foundAtField kind name field
    | .error _ => .none

/-- A report is one diagnostic and two log records. -/
theorem report_gives (d : Diagnostic) (validator : Validator) :
    (report d validator).Gives (.ok ()) (reported d validator) := by
  have hkept : Resolving.Gives (modify (·.diagnosed d)) (.ok ()) ⟨[d], []⟩ := by
    intro before
    simp only [Findings.append, List.append_nil]
    rfl
  exact hkept.andThen ((Gives.log _ _ _).andThen (Gives.log _ _ _))

/-- **The resolver.** Whatever has been found before, the resolver gives the answer for the kind and
the field, and adds what is found there. -/
theorem resolve_gives : (t.resolve kind name).Gives (t.answer kind name) (t.foundAt kind name) := by
  unfold resolve answer foundAt
  cases t.overrideFor? kind name with
  | some type => exact .pure type
  | none =>
    cases hfield : t.registry.field kind name with
    | error e => exact .bind_error (.liftExcept _)
    | ok field =>
      refine .after_lookup rfl ?_
      show Gives _ (.ok (t.typeOfField field)) (t.foundAtField kind name field)
      unfold typeOfField foundAtField
      cases field.validator with
      | none => dsimp only; exact .pure _
      | some validator =>
        dsimp only
        cases validator.typeText t.sequenceType with
        | ok type => dsimp only; exact .pure type
        | error e => dsimp only; exact (report_gives _ validator).return fun _ => t.unknownType

/-- A field of the registry has an answer. -/
theorem answer_of_field {field : Field} (h : t.registry.field kind name = .ok field) :
    t.answer kind name = .ok ((t.overrideFor? kind name).getD (t.typeOfField field)) := by
  unfold answer
  cases t.overrideFor? kind name with
  | some type => rfl
  | none => rw [h]; rfl

end TypeResolver

end NodeSchema
