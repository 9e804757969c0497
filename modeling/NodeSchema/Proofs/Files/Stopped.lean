import NodeSchema.Proofs.Files.Writing
/-!
# Writing that stops

Artifacts are written one after the other until one of them cannot be. What is left then is what the
artifacts before it leave by themselves, and perhaps directories on the way to the one that could
not be written. Nothing is taken back, and what was to come after it has no effect.

* `write_of_error` — what an artifact that cannot be written leaves behind.
* `writeAll_append_of_done` — a list of artifacts in two parts.
* `exists_first_failure` — writing that fails does so at one artifact, after others that succeed.
* `writing_stops_at_first_failure` — what is left, whether writing fails or not.
-/

namespace NodeSchema.Artifact

open FileTree

variable {root : Path} {t t' : FileTree} {a : Artifact} {e : FileError}
  {artifacts done rest : List Artifact}

/-! ## 1. One artifact -/

/-- An artifact that cannot be written leaves directories on the way to its target, and nothing
else. -/
theorem write_of_error (h : a.write root t = (t', .error e)) :
    AddsDirectories (OnTheWay t.here (a.target root).parent) t t' := by
  have hadds := ensureDirectory_adds t (a.target root).parent
  unfold write at h
  dsimp only at h
  split at h
  · next between _ hensure =>
    rw [hensure] at hadds
    obtain rfl : between = t' := congrArg Prod.fst h
    exact hadds
  · next between hensure =>
    rw [hensure] at hadds
    -- The file was not written, so the tree is the one with the directories.
    split at h
    · obtain rfl : between = t' := congrArg Prod.fst h
      exact hadds
    · cases h

/-- An artifact is written or not. -/
theorem write_cases (a : Artifact) (root : Path) (t : FileTree) :
    (∃ t', a.write root t = (t', .ok ())) ∨ ∃ t' e, a.write root t = (t', .error e) := by
  match a.write root t with
  | (t', .ok ()) => exact Or.inl ⟨t', rfl⟩
  | (t', .error e) => exact Or.inr ⟨t', e, rfl⟩

/-! ## 2. Lists in two parts -/

/-- An artifact that cannot be written ends the writing. -/
theorem writeAll_cons_of_error (h : a.write root t = (t', .error e)) (rest : List Artifact) :
    writeAll root t (a :: rest) = ⟨t', [], some e⟩ := by
  rw [writeAll, h]

/-- An artifact that is written comes before those that are written after it. -/
theorem writeAll_cons_of_ok (h : a.write root t = (t', .ok ())) (rest : List Artifact) :
    writeAll root t (a :: rest) =
      { writeAll root t' rest with
        written := (a.target root, a) :: (writeAll root t' rest).written } := by
  rw [writeAll, h]

/-- After artifacts that could be written, the others are written to the tree that these leave. -/
theorem writeAll_append_of_done (h : (writeAll root t done).failure = none)
    (rest : List Artifact) :
    writeAll root t (done ++ rest) =
      { writeAll root (writeAll root t done).tree rest with
        written := (writeAll root t done).written ++
          (writeAll root (writeAll root t done).tree rest).written } := by
  induction done generalizing t with
  | nil => rfl
  | cons a done ih =>
    rcases a.write_cases root t with ⟨t', hwrite⟩ | ⟨t', e, hwrite⟩
    · rw [writeAll_cons_of_ok hwrite] at h ⊢
      rw [List.cons_append, writeAll_cons_of_ok hwrite, ih h]
      rfl
    · rw [writeAll_cons_of_error hwrite] at h
      cases h

/-- Writing that fails does so at one artifact, after others that could be written. -/
theorem exists_first_failure (h : (writeAll root t artifacts).failure = some e) :
    ∃ done a later, artifacts = done ++ a :: later ∧ (writeAll root t done).failure = none ∧
      (a.write root (writeAll root t done).tree).2 = .error e := by
  induction artifacts generalizing t with
  | nil => cases h
  | cons a rest ih =>
    rcases a.write_cases root t with ⟨t', hwrite⟩ | ⟨t', e', hwrite⟩
    · rw [writeAll_cons_of_ok hwrite] at h
      obtain ⟨done, b, later, rfl, hdone, herror⟩ := ih h
      have hall := writeAll_cons_of_ok hwrite done
      exact ⟨a :: done, b, later, rfl, by rw [hall]; exact hdone, by rw [hall]; exact herror⟩
    · rw [writeAll_cons_of_error hwrite] at h
      obtain rfl : e' = e := Option.some.inj h
      exact ⟨[], a, rest, rfl, rfl, congrArg Prod.snd hwrite⟩

/-! ## 3. The main statement -/

/-- `StoppedAt root t done a e w` — the artifacts `done` were written, the artifact `a` could not
be, and that is what `w` has left. -/
structure StoppedAt (root : Path) (t : FileTree) (done : List Artifact) (a : Artifact)
    (e : FileError) (w : Writing) : Prop where
  /-- By themselves, the artifacts before can be written. -/
  before : (writeAll root t done).failure = none
  wrote : WroteAll root done t (writeAll root t done)
  /-- On the tree that they leave, this artifact fails. -/
  attempt : a.write root (writeAll root t done).tree = (w.tree, .error e)
  failure : w.failure = some e
  written : w.written = (writeAll root t done).written
  /-- The files are those that the artifacts before have left. -/
  file : ∀ place, w.tree.file? place = (writeAll root t done).tree.file? place
  /-- Apart from them there is nothing new but directories on the way to this artifact. -/
  adds : AddsDirectories (OnTheWay t.here (a.target root).parent) (writeAll root t done).tree w.tree
  /-- What comes after this artifact makes no difference. -/
  later : ∀ later, writeAll root t (done ++ a :: later) = w

/-- Writing stops at the artifact that fails, whatever comes after it. -/
theorem stoppedAt_of_error (hdone : (writeAll root t done).failure = none)
    (herror : (a.write root (writeAll root t done).tree).2 = .error e) (later : List Artifact) :
    StoppedAt root t done a e (writeAll root t (done ++ a :: later)) := by
  have hwrote := writeAll_wrote hdone
  have hattempt : a.write root (writeAll root t done).tree =
      ((a.write root (writeAll root t done).tree).1, .error e) := Prod.ext rfl herror
  have hstopped : ∀ later, writeAll root t (done ++ a :: later) =
      ⟨(a.write root (writeAll root t done).tree).1, (writeAll root t done).written, some e⟩ := by
    intro later
    rw [writeAll_append_of_done hdone, writeAll_cons_of_error hattempt, List.append_nil]
  have hadds := write_of_error hattempt
  rw [hwrote.keeps.here] at hadds
  rw [hstopped later]
  exact
    { before := hdone
      wrote := hwrote
      attempt := hattempt
      failure := rfl
      written := rfl
      file := hadds.file?_eq
      adds := hadds
      later := hstopped }

/-- **Writing stops at the first artifact that cannot be written.** If all artifacts can be written,
their targets are given in order, and every file is the one that the last artifact for its place
left, or as it was; no directories are new but those above the targets. Otherwise there is a first
artifact that cannot be written. The files are those that the artifacts before it leave by
themselves, nothing else is new but directories above its target, and what was to come after it has
no effect. -/
theorem writing_stops_at_first_failure (root : Path) (t : FileTree) (artifacts : List Artifact) :
    let w := writeAll root t artifacts
    (w.failure = none →
      w.written.map Prod.fst = artifacts.map (fun a => root.join (.ofText a.destination)) ∧
        WroteAll root artifacts t w) ∧
    ∀ e, w.failure = some e →
      ∃ done a later, artifacts = done ++ a :: later ∧ StoppedAt root t done a e w := by
  refine ⟨fun hdone => ?_, fun e hfailure => ?_⟩
  · have hwrote := writeAll_wrote hdone
    refine ⟨?_, hwrote⟩
    rw [hwrote.written, List.map_map]
    rfl
  · obtain ⟨done, a, later, rfl, hdone, herror⟩ := exists_first_failure hfailure
    exact ⟨done, a, later, rfl, stoppedAt_of_error hdone herror later⟩

end NodeSchema.Artifact
