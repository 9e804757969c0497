import NodeSchema.CommandLine.Run
import NodeSchema.Proofs.Files.Writing
import NodeSchema.Proofs.Generation
import NodeSchema.Proofs.Registry.Loading
/-!
# What a run leaves behind

A run that ends well has written both artifacts of the registry that was there at its start, and
nothing else; what it prints tells the user where. A run whose registry cannot be loaded leaves
everything as it was.

* `locate_displayPath` — the path that is printed leads to the file.
* `generate_delivers` — what generating from a registry leaves behind.
* `run_writes_artifacts` — a run from its arguments on.
-/

namespace NodeSchema.CommandLine

open FileTree Registry

/-! ## 1. Printed paths -/

/-- **What is printed leads to the file.** Below the output root, the path that is shown for a
target leads where the target leads. -/
theorem locate_displayPath {t : FileTree} {here place : Place} {root d : Path}
    (hroot : root.Normal) (hd : d.Normal) (h : t.locate (root.join d) = .ok place) :
    t.locate (root.join (.ofText (displayPath here root (root.join d)))) = .ok place := by
  unfold displayPath
  split
  · next shown hshown =>
    rw [Path.join_ofText_relativeTo (hroot.join hd) hshown]
    exact h
  · next hnone =>
    have habs := Path.isAbsolute_of_relativeTo hnone
    have hjoin : root.join d = d := if_pos habs
    rw [hjoin] at h ⊢
    have hshown : root.join (.ofText (d.absolute here).text) = d.absolute here := by
      rw [Path.ofText_text (Path.normal_absolute hd habs here)]
      exact if_pos rfl
    rw [hshown]
    exact locate_absolute hd habs h here

/-! ## 2. What a run should leave -/

def Options.target (o : Options) (destination : String) : Path :=
  (Path.ofText o.root).join (.ofText destination)

/-- `Shows o t line place` — a line of output names the generator and a path that leads to a place
below the output root. -/
def Shows (o : Options) (t : FileTree) (line : String) (place : Place) : Prop :=
  ∃ shown, line = o.config.sourceLabel ++ " -> " ++ shown ∧
    t.locate (o.target shown) = .ok place

/-- `Delivers o t g declarations wrapper outcome` — the run left the artifacts of `g` in these two
places, which are where the targets lead, and the output says so. -/
structure Delivers (o : Options) (t : FileTree) (g : Generation) (declarations wrapper : Place)
    (outcome : Outcome) : Prop where
  locateDeclarations : outcome.tree.locate (o.target o.declarations) = .ok declarations
  locateWrapper : outcome.tree.locate (o.target o.wrapper) = .ok wrapper
  -- If both artifacts go to the same place, the wrapper module stands there.
  fileDeclarations : declarations ≠ wrapper →
    outcome.tree.file? declarations = some ("\n".intercalate g.declarations.lines).toUTF8
  fileWrapper : outcome.tree.file? wrapper = some ("\n".intercalate g.wrapper.lines).toUTF8
  others : ∀ place, place ≠ declarations → place ≠ wrapper →
    outcome.tree.file? place = t.file? place
  output : ∃ first second, outcome.output = [first, second] ∧
    Shows o outcome.tree first declarations ∧ Shows o outcome.tree second wrapper

/-! ## 3. Generating -/

/-- The destinations do not show in the artifacts. -/
theorem ofRegistry_config (r : Registry) (o : Options) :
    Generation.ofRegistry r o.config = Generation.ofRegistry r {} := rfl

def generationOf (r : Registry) (o : Options) : Generation :=
  Generation.expected r o.config (Generation.found r o.config)

def writingOf (t : FileTree) (o : Options) (r : Registry) : Writing :=
  Artifact.writeAll (.ofText o.root) t ((generationOf r o).artifacts o.config)

theorem generate_eq (t : FileTree) (o : Options) (r : Registry) :
    generate t o r =
      let w := writingOf t o r
      let messages := shownLog o.verbose ((Generation.found r o.config).log ++ w.log)
      match w.failure with
      | some e => { tree := w.tree, output := [], messages, ending := .error (.files e) }
      | none =>
        { tree := w.tree
          output := w.written.map fun e =>
            o.config.sourceLabel ++ " -> " ++ displayPath t.here (.ofText o.root) e.1
          messages
          ending := .ok 0 } := by
  unfold generate
  dsimp only
  rw [Generation.ofRegistry_run_none]
  rfl

/-- Once there is a registry, only a file that cannot be written ends a run in any other way than
well. -/
theorem generate_ending (t : FileTree) (o : Options) (r : Registry) :
    (generate t o r).ending =
      match (writingOf t o r).failure with
      | some e => .error (.files e)
      | none => .ok 0 := by
  rw [generate_eq]
  dsimp only
  cases (writingOf t o r).failure with
  | some e => rfl
  | none => rfl

/-- A run ends well when everything could be written, and only then. -/
theorem generate_ending_iff {t : FileTree} {o : Options} {r : Registry} :
    (generate t o r).ending = .ok 0 ↔ (writingOf t o r).failure = none := by
  rw [generate_ending]
  cases (writingOf t o r).failure with
  | some e => simp
  | none => simp

/-- The line of output for a destination shows the place where the target leads. -/
theorem shows_displayPath {t : FileTree} {o : Options} {place : Place} {destination : String}
    (here : Place) (h : t.locate (o.target destination) = .ok place) :
    Shows o t
      (o.config.sourceLabel ++ " -> " ++
        displayPath here (.ofText o.root) (o.target destination)) place := by
  have hroot := Path.normal_ofText o.root
  have hdestination := Path.normal_ofText destination
  exact ⟨_, rfl, locate_displayPath hroot hdestination h⟩

section

variable {t : FileTree} {o : Options} {r : Registry} (hdone : (writingOf t o r).failure = none)

include hdone

/-- Both artifacts are written, the wrapper module after the declarations. -/
theorem writingOf_wrote :
    Artifact.WroteAll (.ofText o.root)
      [⟨o.declarations, (generationOf r o).declarations.lines⟩,
        ⟨o.wrapper, (generationOf r o).wrapper.lines⟩] t (writingOf t o r) :=
  Artifact.writeAll_wrote hdone

/-- The wrapper module is written last, so its place is looked at first. -/
theorem file?_writingOf (place : Place) :
    (writingOf t o r).tree.file? place =
      if (o.target o.wrapper).resolve t.here = place then
        some ("\n".intercalate (generationOf r o).wrapper.lines).toUTF8
      else if (o.target o.declarations).resolve t.here = place then
        some ("\n".intercalate (generationOf r o).declarations.lines).toUTF8
      else t.file? place := by
  rw [(writingOf_wrote hdone).file, Artifact.lastFor_cons, Artifact.lastFor_cons,
    Artifact.lastFor_nil]
  have hplace : ∀ a : Artifact, a.place (.ofText o.root) t.here =
      (o.target a.destination).resolve t.here := fun _ => rfl
  simp only [hplace]
  by_cases hw : (o.target o.wrapper).resolve t.here = place
  · simp [hw, Artifact.text]
  · by_cases hd : (o.target o.declarations).resolve t.here = place
    · simp [hw, hd, Artifact.text]
    · simp [hw, hd]

end

/-- **What generating leaves behind**, if it ends well. -/
theorem generate_delivers {t : FileTree} {o : Options} {r : Registry}
    (h : (generate t o r).ending = .ok 0) :
    ∃ declarations wrapper,
      Delivers o t (generationOf r o) declarations wrapper (generate t o r) := by
  have hdone := generate_ending_iff.mp h
  have hwrote := writingOf_wrote hdone
  have hfile := file?_writingOf hdone
  have hdeclarations : (writingOf t o r).tree.locate (o.target o.declarations) =
      .ok ((o.target o.declarations).resolve t.here) :=
    hwrote.locate ⟨o.declarations, (generationOf r o).declarations.lines⟩ (by simp)
  have hwrapper : (writingOf t o r).tree.locate (o.target o.wrapper) =
      .ok ((o.target o.wrapper).resolve t.here) :=
    hwrote.locate ⟨o.wrapper, (generationOf r o).wrapper.lines⟩ (by simp)
  have hrun := generate_eq t o r
  simp only [hdone] at hrun
  rw [hrun]
  refine ⟨_, _, hdeclarations, hwrapper, fun hne => ?_, ?_, fun place hne hne' => ?_, ?_⟩
  · rw [hfile, if_neg (Ne.symm hne), if_pos rfl]
  · rw [hfile, if_pos rfl]
  · rw [hfile, if_neg (Ne.symm hne'), if_neg (Ne.symm hne)]
  · refine ⟨_, _, ?_, shows_displayPath t.here hdeclarations, shows_displayPath t.here hwrapper⟩
    rw [hwrote.written]
    rfl

/-! ## 4. Runs -/

/-- **A run of the program.** If the registry can be loaded, the run ends well unless a file
cannot be written. If it does, both artifacts of that registry stand where their targets lead,
even over the registry itself, every other file is as it was, and the output tells where. If the
registry cannot be loaded, everything is as it was, and an error that is reported ends the run
with the exit code 2 and without output.

All this is about registries whose strings are texts. A string with half of a pair of UTF-16 units
that stands alone is none: `Json.charOfUnit` replaces the half, where the text could otherwise not
be encoded when it is written. -/
theorem run_writes_artifacts {args : List String} {o : Options}
    (hargs : parse args = .ok (.generate o)) (t : FileTree) :
    (∀ r, load t (.ofText o.registry) = .ok r →
      ((run args t).ending = .ok 0 ∨ ∃ e, (run args t).ending = .error (.files e)) ∧
      ((run args t).ending = .ok 0 →
        ∃ g findings declarations wrapper,
          (Generation.ofRegistry r {}).run.run .none = (.ok g, findings) ∧
            Delivers o t g declarations wrapper (run args t))) ∧
    ∀ e, load t (.ofText o.registry) = .error e →
      (run args t).tree = t ∧
        (e.isReported = true → (run args t).ending = .ok 2 ∧ (run args t).output = []) := by
  have hrun : run args t = loadAndGenerate t o := by rw [run, hargs]
  rw [hrun]
  refine ⟨fun r hload => ?_, fun e hload => ?_⟩
  · rw [loadAndGenerate_of_ok hload]
    constructor
    · rw [generate_ending]
      cases (writingOf t o r).failure with
      | none => exact Or.inl rfl
      | some e => exact Or.inr ⟨e, rfl⟩
    intro hending
    obtain ⟨declarations, wrapper, hdelivers⟩ := generate_delivers hending
    refine ⟨_, Generation.found r o.config, declarations, wrapper, ?_, hdelivers⟩
    rw [← ofRegistry_config r o]
    exact Generation.ofRegistry_run_none r o.config
  · cases hreport : e.isReported with
    | true =>
      rw [loadAndGenerate_of_reported hload hreport]
      exact ⟨rfl, fun _ => ⟨rfl, rfl⟩⟩
    | false =>
      rw [loadAndGenerate_of_unreported hload hreport]
      exact ⟨rfl, fun h => absurd h Bool.false_ne_true⟩

def smallDocument : String :=
  "\x7b\"NODE_FIELDS\":\x7b\"A\":\x7b\x7d\x7d,\"BUILDER_KEYS\":\x7b\"A\":[]\x7d\x7d"

/-- A current directory with this document and nothing else. -/
def smallTree : FileTree :=
  (FileTree.fresh ["work"]).withFile ["work", "registry.json"] smallDocument.toUTF8

/-- The declarations go over the registry itself, and the wrapper module out of the root. -/
def smallOptions : Options :=
  { registry := "registry.json", root := ".", declarations := "../work/registry.json"
    wrapper := "/wrapper.js", verbose := false }

/-- In the small tree the artifacts of any registry can be written. -/
theorem small_written (r : Registry) : (writingOf smallTree smallOptions r).failure = none := by
  let declarations : Artifact :=
    ⟨"../work/registry.json", (generationOf r smallOptions).declarations.lines⟩
  let wrapper : Artifact := ⟨"/wrapper.js", (generationOf r smallOptions).wrapper.lines⟩
  have hlocate : smallTree.locate (smallOptions.target "../work/registry.json") =
      .ok ["work", "registry.json"] := by decide +kernel
  have hlocate' : smallTree.locate (smallOptions.target "/wrapper.js") = .ok ["wrapper.js"] := by
    decide +kernel
  have hparent : smallTree.isDirectory (smallOptions.target "../work/registry.json").parent =
      true := by decide +kernel
  have hroot : smallTree.locate (smallOptions.target "/wrapper.js").parent = .ok [] := by
    decide +kernel
  have hfree : smallTree.entry? ["work", "registry.json"] ≠ some .directory := by decide
  have hkeeps := put_file_keeps hfree declarations.text.toUTF8
  have hdirectory := isDirectory_eq_true_iff.mpr ⟨_, hkeeps.locate hroot, entry?_nil _⟩
  have hfirst : declarations.write (.ofText ".") smallTree = _ :=
    Artifact.write_of_isDirectory hparent hlocate hfree
  have hsecond : wrapper.write (.ofText ".") (smallTree.put _ _) = _ :=
    Artifact.write_of_isDirectory hdirectory (hkeeps.locate hlocate') (by
      rw [entry?_put (by decide), if_neg (by decide)]
      decide)
  have hartifacts : (generationOf r smallOptions).artifacts smallOptions.config =
      [declarations, wrapper] := rfl
  unfold writingOf
  rw [hartifacts]
  simp only [Artifact.writeAll, smallOptions, hfirst, hsecond]

/-- A run that writes over its own registry. -/
theorem run_over_registry :
    ∃ r g findings declarations wrapper,
      load smallTree (.ofText "registry.json") = .ok r ∧
      (Generation.ofRegistry r {}).run.run .none = (.ok g, findings) ∧
      Delivers smallOptions smallTree g declarations wrapper
        (run ["registry.json", "--declarations", "../work/registry.json", "--wrapper=/wrapper.js"]
          smallTree) := by
  have hread : smallTree.readFile (.ofText "registry.json") = .ok smallDocument.toUTF8 := rfl
  have htext : textOf smallDocument.toUTF8 = .ok (Text.unifyNewlines smallDocument.toList) := by
    rw [textOf, fromUTF8?_toUTF8]
  have hload : ∃ r, load smallTree (.ofText "registry.json") = .ok r := by
    rw [HoldsText.load_eq ⟨_, hread, htext⟩]
    exact ⟨_, rfl⟩
  obtain ⟨r, hr⟩ := hload
  have hargs : parse ["registry.json", "--declarations", "../work/registry.json",
      "--wrapper=/wrapper.js"] = .ok (.generate smallOptions) := rfl
  obtain ⟨hok, _⟩ := run_writes_artifacts hargs smallTree
  have hending : (run ["registry.json", "--declarations", "../work/registry.json",
      "--wrapper=/wrapper.js"] smallTree).ending = .ok 0 := by
    rw [run, hargs]
    dsimp only
    rw [loadAndGenerate_of_ok (o := smallOptions) hr, generate_ending_iff]
    exact small_written r
  obtain ⟨g, findings, declarations, wrapper, hg, hdelivers⟩ := (hok r hr).2 hending
  exact ⟨r, g, findings, declarations, wrapper, hr, hg, hdelivers⟩

end NodeSchema.CommandLine
