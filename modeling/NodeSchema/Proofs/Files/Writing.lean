import NodeSchema.Files.Writing
import NodeSchema.Proofs.Files.Following
/-!
# What writing changes

Directories are added on the way to a file, the file is written, and nothing else changes. So after
a list of artifacts every file is the one that the last artifact for its place left, and all other
files are as they were.

* `ensureDirectory_adds` — the directories that are made are on the way to the path.
* `Artifact.write_wrote` — what one artifact changes.
* `Artifact.writeAll_wrote` — what a list of artifacts changes.
-/

namespace NodeSchema

namespace FileTree

variable {t t' : FileTree}

/-! ## 1. Files and directories of a tree -/

def file? (t : FileTree) (place : Place) : Option ByteArray :=
  match t.entry? place with
  | some (.file bytes) => some bytes
  | _ => none

@[simp] theorem entry?_nil (t : FileTree) : t.entry? [] = some .directory := rfl

theorem ne_nil_of_not_directory {place : Place} (h : t.entry? place ≠ some .directory) :
    place ≠ [] := by
  intro hnil
  subst hnil
  exact h rfl

theorem entry?_put {place : Place} (h : place ≠ []) (e : Entry) (other : Place) :
    entry? (t.put place e) other = if place = other then some e else t.entry? other := by
  unfold entry? put
  by_cases hother : other = []
  · rw [if_pos hother, if_pos hother, if_neg (by rwa [hother])]
  · rw [if_neg hother, if_neg hother, Table.get?_insert]

theorem file?_put_file {place : Place} (h : place ≠ []) (bytes : ByteArray) (other : Place) :
    (t.put place (.file bytes)).file? other =
      if place = other then some bytes else t.file? other := by
  unfold file?
  rw [entry?_put h]
  by_cases heq : place = other <;> simp [heq]

/-! ## 2. Adding directories -/

/-- `AddsDirectories added t t'` — the trees are the same, but for directories in some of the places
`added` where there was nothing. -/
structure AddsDirectories (added : Place → Prop) (t t' : FileTree) : Prop where
  here : t'.here = t.here
  entry : ∀ place, t'.entry? place = t.entry? place ∨
    t.entry? place = none ∧ t'.entry? place = some .directory ∧ added place

theorem AddsDirectories.refl (added : Place → Prop) (t : FileTree) : AddsDirectories added t t :=
  ⟨rfl, fun _ => Or.inl rfl⟩

theorem AddsDirectories.mono {added added' : Place → Prop} (h : AddsDirectories added t t')
    (hsub : ∀ place, added place → added' place) : AddsDirectories added' t t' := by
  refine ⟨h.here, fun place => ?_⟩
  rcases h.entry place with heq | ⟨hnone, hnew, hadded⟩
  · exact Or.inl heq
  · exact Or.inr ⟨hnone, hnew, hsub place hadded⟩

/-- Adding directories keeps those that there are. -/
theorem AddsDirectories.keeps {added : Place → Prop} (h : AddsDirectories added t t') :
    KeepsDirectories t t' := by
  refine ⟨h.here, fun place hdirectory => ?_⟩
  rcases h.entry place with heq | ⟨hnone, _, _⟩
  · rw [heq, hdirectory]
  · rw [hnone] at hdirectory
    cases hdirectory

theorem AddsDirectories.trans {added : Place → Prop} {t'' : FileTree}
    (h : AddsDirectories added t t') (h' : AddsDirectories added t' t'') :
    AddsDirectories added t t'' := by
  refine ⟨h'.here.trans h.here, fun place => ?_⟩
  rcases h.entry place with heq | ⟨hnone, hnew, hadded⟩
  · rw [← heq]
    exact h'.entry place
  · exact Or.inr ⟨hnone, h'.keeps.directory place hnew, hadded⟩

/-- Adding directories changes no file. -/
theorem AddsDirectories.file?_eq {added : Place → Prop} (h : AddsDirectories added t t')
    (place : Place) : t'.file? place = t.file? place := by
  unfold file?
  rcases h.entry place with heq | ⟨hnone, hnew, _⟩
  · rw [heq]
  · rw [hnone, hnew]

/-- `OnTheWay here p place` — the place is the one of the path or of a path that its names start
with. -/
def OnTheWay (here : Place) (p : Path) (place : Place) : Prop :=
  ∃ names, names <+: p.parts ∧ place = (⟨p.root, names⟩ : Path).resolve here

theorem OnTheWay.of_parent {here place : Place} {p : Path} (h : OnTheWay here p.parent place) :
    OnTheWay here p place := by
  obtain ⟨names, hbegins, hplace⟩ := h
  exact ⟨names, hbegins.trans (List.dropLast_prefix p.parts), hplace⟩

/-- Making a directory adds this one and nothing else. -/
theorem makeDirectory_adds {p : Path} (h : t.makeDirectory p = .ok t') :
    AddsDirectories (OnTheWay t.here p) t t' := by
  unfold makeDirectory at h
  split at h
  · cases h
  · next place hlocate =>
    split at h
    · cases h
    · next hnone =>
      obtain rfl : t.put place .directory = t' := Except.ok.inj h
      have hfree : t.entry? place ≠ some .directory := by simp [hnone]
      have hroot := ne_nil_of_not_directory hfree
      refine ⟨rfl, fun other => ?_⟩
      rw [entry?_put hroot]
      by_cases heq : place = other
      · subst heq
        have hway : OnTheWay t.here p place :=
          ⟨p.parts, List.prefix_refl _, locate_eq_resolve hlocate⟩
        exact Or.inr ⟨hnone, if_pos rfl, hway⟩
      · exact Or.inl (if_neg heq)

/-- Admitting a directory adds it, or nothing if it is there. -/
theorem admitDirectory_adds {p : Path} (h : t.admitDirectory p = .ok t') :
    AddsDirectories (OnTheWay t.here p) t t' := by
  unfold admitDirectory at h
  split at h
  · next hmake =>
    cases h
    exact makeDirectory_adds hmake
  · split at h
    · cases h
      exact .refl _ t
    · cases h

/-- Whether it succeeds or not, making a directory adds nothing but directories on the way. -/
theorem ensureDirectory_adds (t : FileTree) (p : Path) :
    AddsDirectories (OnTheWay t.here p) t (t.ensureDirectory p).1 := by
  fun_induction ensureDirectory t p with
  | case1 p t' hadmit => exact admitDirectory_adds hadmit
  | case2 p e _ hmissing hshorter t' e' hensure ih =>
    rw [hensure] at ih
    exact ih.mono fun place => OnTheWay.of_parent
  | case3 p e _ hmissing hshorter t' hensure t'' hadmit ih =>
    rw [hensure] at ih
    have hlast := admitDirectory_adds hadmit
    rw [ih.here] at hlast
    exact (ih.mono fun place => OnTheWay.of_parent).trans hlast
  | case4 p e _ hmissing hshorter t' hensure e'' _ ih =>
    rw [hensure] at ih
    exact ih.mono fun place => OnTheWay.of_parent
  | case5 p e => exact .refl _ t

theorem isDirectory_eq_true_iff {p : Path} :
    t.isDirectory p = true ↔
      ∃ place, t.locate p = .ok place ∧ t.entry? place = some .directory := by
  unfold isDirectory
  cases t.locate p <;> simp

/-- A directory that is there needs none to be made. -/
theorem ensureDirectory_of_isDirectory {p : Path} (h : t.isDirectory p = true) :
    t.ensureDirectory p = (t, .ok ()) := by
  obtain ⟨place, hlocate, hdirectory⟩ := isDirectory_eq_true_iff.mp h
  have hmake : t.makeDirectory p = .error ⟨.occupied, p⟩ := by
    simp [makeDirectory, hlocate, hdirectory]
  have hadmit : t.admitDirectory p = .ok t := by simp [admitDirectory, hmake, h]
  rw [ensureDirectory, hadmit]

/-! ## 3. Writing a file -/

/-- A file can be written exactly where the path leads to a place that is no directory. -/
theorem writeFile_eq_ok_iff {p : Path} {bytes : ByteArray} :
    t.writeFile p bytes = .ok t' ↔ ∃ place, t.locate p = .ok place ∧
      t.entry? place ≠ some .directory ∧ t' = t.put place (.file bytes) := by
  unfold writeFile
  cases t.locate p with
  | error cause => simp
  | ok place =>
    simp only [Except.ok.injEq, exists_eq_left']
    split
    · next hdirectory => simp [hdirectory]
    · next hno =>
      constructor
      · intro h
        exact ⟨hno, (Except.ok.inj h).symm⟩
      · rintro ⟨_, rfl⟩
        rfl

theorem put_file_keeps {place : Place} (h : t.entry? place ≠ some .directory)
    (bytes : ByteArray) : KeepsDirectories t (t.put place (.file bytes)) := by
  refine ⟨rfl, fun other hother => ?_⟩
  have hother' : place ≠ other := by
    intro heq
    subst heq
    exact h hother
  rw [entry?_put (ne_nil_of_not_directory h), if_neg hother', hother]

end FileTree

namespace Artifact

open FileTree

variable {root : Path} {t t' : FileTree} {a : Artifact} {artifacts : List Artifact}

/-! ## 4. Writing an artifact -/

def place (a : Artifact) (root : Path) (here : Place) : Place := (a.target root).resolve here

/-- `Wrote root a t t'` — the target of the artifact leads to its place, where the file with its
text is. All other files are the same, and no directories are added but those on the way. -/
structure Wrote (root : Path) (a : Artifact) (t t' : FileTree) : Prop where
  keeps : KeepsDirectories t t'
  locate : t'.locate (a.target root) = .ok (a.place root t.here)
  file : ∀ place, t'.file? place =
    if a.place root t.here = place then some a.text.toUTF8 else t.file? place
  directory : ∀ place, t'.entry? place = some .directory →
    t.entry? place = some .directory ∨ OnTheWay t.here (a.target root).parent place

/-- An artifact that is written stands where its target leads, and nothing else is new but
directories. -/
theorem write_wrote (h : a.write root t = (t', .ok ())) : Wrote root a t t' := by
  unfold write at h
  dsimp only at h
  have hadds := ensureDirectory_adds t (a.target root).parent
  split at h
  · cases h
  · next between hensure =>
    rw [hensure] at hadds
    split at h
    · cases h
    · next written hwrite =>
      obtain rfl : written = t' := congrArg Prod.fst h
      obtain ⟨place, hlocate, hfree, rfl⟩ := writeFile_eq_ok_iff.mp hwrite
      have hkeeps := put_file_keeps hfree a.text.toUTF8
      have hroot := ne_nil_of_not_directory hfree
      have hplace : a.place root t.here = place := by
        rw [locate_eq_resolve hlocate, hadds.here]
        rfl
      subst hplace
      refine ⟨hadds.keeps.trans hkeeps, hkeeps.locate hlocate, fun other => ?_, ?_⟩
      · rw [file?_put_file hroot, hadds.file?_eq]
      · intro other hother
        rw [entry?_put hroot] at hother
        split at hother
        · cases hother
        · rcases hadds.entry other with heq | ⟨_, _, hway⟩
          · exact Or.inl (heq ▸ hother)
          · exact Or.inr hway

/-- Where the directory is there already, an artifact can be written over anything but a
directory. -/
theorem write_of_isDirectory {place : Place} (hparent : t.isDirectory (a.target root).parent = true)
    (hlocate : t.locate (a.target root) = .ok place) (hfree : t.entry? place ≠ some .directory) :
    a.write root t = (t.put place (.file a.text.toUTF8), .ok ()) := by
  have hwrite : t.writeFile (a.target root) a.text.toUTF8 = .ok _ :=
    writeFile_eq_ok_iff.mpr ⟨place, hlocate, hfree, rfl⟩
  simp only [write, ensureDirectory_of_isDirectory hparent, hwrite]

/-! ## 5. Writing a list of artifacts -/

def lastFor (root : Path) (here : Place) (artifacts : List Artifact) (place : Place) :
    Option Artifact :=
  artifacts.reverse.find? fun a => a.place root here = place

theorem lastFor_nil (root : Path) (here place : Place) : lastFor root here [] place = none := rfl

theorem lastFor_cons (root : Path) (here : Place) (a : Artifact) (rest : List Artifact)
    (place : Place) :
    lastFor root here (a :: rest) place =
      (lastFor root here rest place).or (if a.place root here = place then some a else none) := by
  unfold lastFor
  rw [List.reverse_cons, List.find?_append]
  by_cases h : a.place root here = place <;> simp [h]

/-- `WroteAll root artifacts t w` — every target leads to the place that it spells, the files are
those that the artifacts left there and the others as they were, and no directories are added but
those on the way. -/
structure WroteAll (root : Path) (artifacts : List Artifact) (t : FileTree) (w : Writing) :
    Prop where
  keeps : KeepsDirectories t w.tree
  written : w.written = artifacts.map fun a => (a.target root, a)
  locate : ∀ a ∈ artifacts, w.tree.locate (a.target root) = .ok (a.place root t.here)
  file : ∀ place, w.tree.file? place =
    ((lastFor root t.here artifacts place).map fun a => a.text.toUTF8).or (t.file? place)
  directory : ∀ place, w.tree.entry? place = some .directory →
    t.entry? place = some .directory ∨
      ∃ a ∈ artifacts, OnTheWay t.here (a.target root).parent place

/-- **What a list of artifacts changes**, if all of them could be written. -/
theorem writeAll_wrote (h : (writeAll root t artifacts).failure = none) :
    WroteAll root artifacts t (writeAll root t artifacts) := by
  induction artifacts generalizing t with
  | nil => exact ⟨.refl t, rfl, by simp, fun _ => rfl, fun _ => Or.inl⟩
  | cons a rest ih =>
    rw [writeAll] at h ⊢
    split at h
    · cases h
    · next t' hwrite =>
      have hfirst := write_wrote hwrite
      have hrest := ih h
      have hhere := hfirst.keeps.here
      refine ⟨hfirst.keeps.trans hrest.keeps, ?_, fun b hb => ?_, fun place => ?_,
        fun place hplace => ?_⟩
      · simp [hrest.written]
      · rcases List.mem_cons.mp hb with rfl | hb
        · exact hrest.keeps.locate hfirst.locate
        · rw [hrest.locate b hb, hhere]
      · rw [hrest.file, hfirst.file, hhere, lastFor_cons]
        cases lastFor root t.here rest place with
        | some b => simp
        | none => by_cases heq : a.place root t.here = place <;> simp [heq]
      · rcases hrest.directory place hplace with hold | ⟨b, hb, hway⟩
        · rcases hfirst.directory place hold with hold | hway
          · exact Or.inl hold
          · exact Or.inr ⟨a, by simp, hway⟩
        · exact Or.inr ⟨b, List.mem_cons_of_mem a hb, hhere ▸ hway⟩

end Artifact

end NodeSchema
