import NodeSchema.Files.Tree
import NodeSchema.Proofs.Files.Path
import NodeSchema.Proofs.Stages
/-!
# Where paths lead

Following a path goes through directories only. So the place that is reached is the one that the
names spell, it stays the same when directories and files are added, and its own names lead to it
from the root of the file system.

* `locate_eq_ok_iff` — when a path leads to a place, with the walk there as a relation.
* `locate_eq_resolve` — the place is the one that the path spells.
* `KeepsDirectories.locate` — paths lead where they led before as long as directories stay.
* `locate_absolute` — the place of an absolute path has a path of its own that leads there.
-/

namespace NodeSchema.FileTree

variable {t t' : FileTree}

/-! ## 1. Walks -/

/-- A name is taken as it is if it is two dots, or not too long. -/
def Fits (name : String) : Prop := name = ".." ∨ name.utf8ByteSize ≤ nameLimit

/-- `Leads t here names place` — the names lead from one place to the other, and each but the last
leads to a directory. -/
inductive Leads (t : FileTree) : Place → List String → Place → Prop where
  | nil (here : Place) : Leads t here [] here
  | cons {here place : Place} {name : String} {rest : List String} (hfits : Fits name)
      (hdirectory : rest ≠ [] → t.entry? (Path.enter here name) = some .directory)
      (hrest : Leads t (Path.enter here name) rest place) : Leads t here (name :: rest) place

theorem stepTo_eq_ok_iff {here place : Place} {name : String} :
    stepTo here name = .ok place ↔ Fits name ∧ Path.enter here name = place := by
  unfold stepTo Fits Path.enter
  by_cases hdots : name = ".."
  · simp [hdots]
  · by_cases hlong : name.utf8ByteSize > nameLimit
    · have hnot : ¬ name.utf8ByteSize ≤ nameLimit := by omega
      simp [hdots, hlong, hnot]
    · have hle : name.utf8ByteSize ≤ nameLimit := by omega
      simp [hdots, hlong, hle]

/-- Following names succeeds exactly if they lead somewhere. -/
theorem follow_eq_ok_iff {names : List String} {here place : Place} :
    t.follow here names = .ok place ↔ Leads t here names place := by
  induction names generalizing here with
  | nil =>
    constructor
    · intro h
      obtain rfl : here = place := Except.ok.inj h
      exact .nil here
    · intro h
      cases h
      rfl
  | cons name rest ih =>
    cases rest with
    | nil =>
      rw [follow, stepTo_eq_ok_iff]
      constructor
      · rintro ⟨hfits, rfl⟩
        exact .cons hfits (fun hne => absurd rfl hne) (.nil _)
      · intro h
        cases h with
        | cons hfits _ hrest =>
          cases hrest
          exact ⟨hfits, rfl⟩
    | cons next rest =>
      rw [follow]
      constructor
      · intro h
        obtain ⟨between, hstep, h⟩ := bind_eq_ok_iff.mp h
        obtain ⟨hfits, rfl⟩ := stepTo_eq_ok_iff.mp hstep
        split at h
        · cases h
        · cases h
        · next hdirectory => exact .cons hfits (fun _ => hdirectory) (ih.mp h)
      · intro h
        cases h with
        | cons hfits hdirectory hrest =>
          refine bind_eq_ok_iff.mpr ⟨_, stepTo_eq_ok_iff.mpr ⟨hfits, rfl⟩, ?_⟩
          rw [hdirectory (List.cons_ne_nil _ _)]
          exact ih.mpr hrest

/-- What there is in a tree decides whether names lead somewhere, but not where. -/
theorem Leads.eq_foldl {here place : Place} {names : List String} (h : Leads t here names place) :
    place = names.foldl Path.enter here := by
  induction h with
  | nil => rfl
  | cons _ _ _ ih => exact ih

/-! ## 2. Places of paths -/

def start (t : FileTree) (p : Path) : Place := if p.isAbsolute then [] else t.here

/-- A path leads to a place if its text can be that of a path and its parts lead there. -/
theorem locate_eq_ok_iff {p : Path} {place : Place} :
    t.locate p = .ok place ↔
      Char.ofNat 0 ∉ p.text.toList ∧ p.text.utf8ByteSize < pathLimit ∧
        Leads t (t.start p) p.parts place := by
  unfold locate
  by_cases hzero : Char.ofNat 0 ∈ p.text.toList
  · simp [hzero]
  · by_cases hlong : p.text.utf8ByteSize ≥ pathLimit
    · have hnot : ¬ p.text.utf8ByteSize < pathLimit := by omega
      simp [hzero, hlong, hnot]
    · have hlt : p.text.utf8ByteSize < pathLimit := by omega
      simp only [List.contains_iff_mem, hzero, hlong, hlt, if_false, not_false_iff, true_and]
      exact follow_eq_ok_iff

/-- A path leads to the place that its names spell. -/
theorem locate_eq_resolve {p : Path} {place : Place} (h : t.locate p = .ok place) :
    place = p.resolve t.here :=
  (locate_eq_ok_iff.mp h).2.2.eq_foldl

/-! ## 3. Trees with the same directories and more -/

/-- The current directory is the same, and every directory is still there. -/
structure KeepsDirectories (t t' : FileTree) : Prop where
  here : t'.here = t.here
  directory : ∀ place, t.entry? place = some .directory → t'.entry? place = some .directory

theorem KeepsDirectories.refl (t : FileTree) : KeepsDirectories t t := ⟨rfl, fun _ h => h⟩

theorem KeepsDirectories.trans {t'' : FileTree} (h : KeepsDirectories t t')
    (h' : KeepsDirectories t' t'') : KeepsDirectories t t'' :=
  ⟨h'.here.trans h.here, fun place hplace => h'.directory place (h.directory place hplace)⟩

/-- Names still lead to a place as long as all directories are kept. -/
theorem KeepsDirectories.leads {here place : Place} {names : List String}
    (hkeep : KeepsDirectories t t') (h : Leads t here names place) : Leads t' here names place := by
  induction h with
  | nil here => exact .nil here
  | cons hfits hdirectory _ ih =>
    exact .cons hfits (fun hne => hkeep.directory _ (hdirectory hne)) ih

/-- A path that leads to a place still leads there as long as all directories are kept. -/
theorem KeepsDirectories.locate {p : Path} {place : Place} (hkeep : KeepsDirectories t t')
    (h : t.locate p = .ok place) : t'.locate p = .ok place := by
  obtain ⟨hzero, hlong, hleads⟩ := locate_eq_ok_iff.mp h
  have hstart : t'.start p = t.start p := by rw [start, start, hkeep.here]
  refine locate_eq_ok_iff.mpr ⟨hzero, hlong, ?_⟩
  rw [hstart]
  exact hkeep.leads hleads

/-! ## 4. The own path of a place -/

/-- `Open t place` — from the root of the file system, the names of a place lead there: they are
names that can be followed, and the places above it are directories. -/
structure Open (t : FileTree) (place : Place) : Prop where
  names : ∀ name ∈ place, name ≠ ".." ∧ name.utf8ByteSize ≤ nameLimit
  above : ∀ before, before <+: place → before ≠ place → t.entry? before = some .directory

theorem Open.nil (t : FileTree) : Open t [] where
  names := by simp
  above := by
    intro before hbegins hne
    exact absurd (List.prefix_nil.mp hbegins) hne

theorem Open.dropLast {here : Place} (h : Open t here) : Open t here.dropLast where
  names := fun name hname => h.names name (List.dropLast_subset here hname)
  above := by
    intro before hbegins hne
    refine h.above before (hbegins.trans (List.dropLast_prefix here)) ?_
    rintro rfl
    have hlength := hbegins.length_le
    rw [List.length_dropLast] at hlength
    obtain rfl : before = [] := List.length_eq_zero_iff.mp (by omega)
    exact hne rfl

/-- Entering an open place, or leaving it for the one above, leads to an open place. -/
theorem Open.enter {here : Place} {name : String} (h : Open t here)
    (hhere : t.entry? here = some .directory) (hfits : Fits name) :
    Open t (Path.enter here name) := by
  unfold Path.enter
  split
  · exact h.dropLast
  · next hdots =>
    refine ⟨fun n hn => ?_, fun before hbegins hne => ?_⟩
    · rcases List.mem_append.mp hn with hn | hn
      · exact h.names n hn
      · obtain rfl : n = name := by simpa using hn
        exact ⟨hdots, hfits.resolve_left hdots⟩
    · have hbefore := (List.prefix_concat_iff.mp hbegins).resolve_left hne
      by_cases heq : before = here
      · rw [heq]
        exact hhere
      · exact h.above before hbefore heq

/-- From an open place, names lead to open places only. -/
theorem Leads.isOpen {here place : Place} {names : List String} (h : Leads t here names place)
    (hopen : Open t here) (hhere : t.entry? here = some .directory) : Open t place := by
  induction h with
  | nil => exact hopen
  | @cons here place name rest hfits hdirectory hrest ih =>
    have hnext := hopen.enter hhere hfits
    by_cases hne : rest = []
    · subst hne
      cases hrest
      exact hnext
    · exact ih hnext (hdirectory hne)

/-- The names of an open place lead there from every place above it. -/
theorem Open.leads_from {names before : Place} (h : Open t (before ++ names)) :
    Leads t before names (before ++ names) := by
  induction names generalizing before with
  | nil => simpa using Leads.nil before
  | cons name rest ih =>
    obtain ⟨hdots, hsize⟩ := h.names name (by simp)
    have henter : Path.enter before name = before ++ [name] := by simp [Path.enter, hdots]
    have hplace : before ++ name :: rest = (before ++ [name]) ++ rest := by simp
    refine .cons (Or.inr hsize) (fun hne => ?_) ?_
    · rw [henter]
      refine h.above _ ⟨rest, hplace.symm⟩ (fun heq => hne ?_)
      simpa using heq.symm
    · rw [henter, hplace]
      exact ih (hplace ▸ h)

/-- **The own path of a place.** Where an absolute path leads, the path of that place leads too. -/
theorem locate_absolute {p : Path} {place : Place} (hp : p.Normal) (habs : p.isAbsolute = true)
    (h : t.locate p = .ok place) (here : Place) : t.locate (p.absolute here) = .ok place := by
  obtain ⟨hzero, hlong, hleads⟩ := locate_eq_ok_iff.mp h
  have hstart : t.start p = [] := if_pos habs
  have hplace : p.resolve here = place := by
    have : p.resolve here = p.resolve t.here := by simp only [Path.resolve, habs, if_true]
    rw [this]
    exact (locate_eq_resolve h).symm
  rw [hstart] at hleads
  have hopen : Open t ([] ++ place) := hleads.isOpen (.nil t) rfl
  refine locate_eq_ok_iff.mpr ⟨fun hmem => ?_, ?_, ?_⟩
  · exact hzero (Path.mem_text_of_mem_absolute (by decide) habs hmem)
  · have := Path.absolute_text_size_le hp habs here
    omega
  · have hparts : (p.absolute here).parts = place := hplace
    rw [hparts]
    exact hopen.leads_from

end NodeSchema.FileTree
