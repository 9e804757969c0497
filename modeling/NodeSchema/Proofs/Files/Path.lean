import Mathlib.Data.List.Basic
import NodeSchema.Files.Path
/-!
# Paths and their texts

The text of a path leads back to the path. For this the names in the path have to be names, which
those of a path read from a text always are. From it follows what a user can do with a path that is
shown as seen from another one.

* `ofText_text` — the path of the text of a normal path is the path.
* `join_ofText_relativeTo` — a path is where its relative text leads to from the other path.
* `absolute_text_size_le` — the place of an absolute path has no longer text than the path.
-/

namespace NodeSchema.Path

/-! ## 1. Normal paths -/

/-- A name in a path: it is not empty, not a single dot, and has no slash. -/
def IsName (name : String) : Prop := name ≠ "" ∧ name ≠ "." ∧ '/' ∉ name.toList

structure Normal (p : Path) : Prop where
  root : p.root = "" ∨ p.root = "/" ∨ p.root = "//"
  names : ∀ name ∈ p.parts, IsName name

theorem slash_not_mem_splitSlashes (s : List Char) : ∀ piece ∈ splitSlashes s, '/' ∉ piece := by
  induction s with
  | nil => simp [splitSlashes]
  | cons c rest ih =>
    intro piece hpiece
    rw [splitSlashes] at hpiece
    split at hpiece
    · rcases List.mem_cons.mp hpiece with h | h
      · simp [h]
      · exact ih piece h
    · next hc =>
      have hc' : '/' ≠ c := fun h => hc h.symm
      split at hpiece
      · simp only [List.mem_singleton] at hpiece
        simp [hpiece, hc']
      · next first pieces hsplit =>
        rw [hsplit] at ih
        rcases List.mem_cons.mp hpiece with h | h
        · simp [h, hc', ih first (by simp)]
        · exact ih piece (List.mem_cons_of_mem _ h)

/-- The root of a path is nothing, one slash, or two. -/
theorem rootOf_cases (s : List Char) : rootOf s = "" ∨ rootOf s = "/" ∨ rootOf s = "//" := by
  unfold rootOf
  split <;> simp

/-- Every path that is read from a text is normal. -/
theorem normal_ofText (s : String) : (ofText s).Normal where
  root := rootOf_cases s.toList
  names := by
    intro name hname
    simp only [ofText, partsOf, List.mem_filter, List.mem_map, decide_eq_true_eq] at hname
    obtain ⟨⟨piece, hpiece, rfl⟩, hempty, hdot⟩ := hname
    refine ⟨hempty, hdot, ?_⟩
    rw [String.toList_ofList]
    exact slash_not_mem_splitSlashes _ piece hpiece

theorem Normal.join {p q : Path} (hp : p.Normal) (hq : q.Normal) : (p.join q).Normal := by
  unfold Path.join
  split
  · exact hq
  · refine ⟨hp.root, fun name hname => ?_⟩
    rcases List.mem_append.mp hname with h | h
    · exact hp.names name h
    · exact hq.names name h

/-! ## 2. From the text back to the path -/

theorem splitSlashes_of_not_mem {piece : List Char} (h : '/' ∉ piece) :
    splitSlashes piece = [piece] := by
  induction piece with
  | nil => rfl
  | cons c rest ih =>
    simp only [List.mem_cons, not_or] at h
    rw [splitSlashes, if_neg (Ne.symm h.1), ih h.2]

/-- What stands in front of the first slash is the first piece. -/
theorem splitSlashes_append {piece : List Char} (h : '/' ∉ piece) (rest : List Char) :
    splitSlashes (piece ++ '/' :: rest) = piece :: splitSlashes rest := by
  induction piece with
  | nil => simp [splitSlashes]
  | cons c piece ih =>
    simp only [List.mem_cons, not_or] at h
    rw [List.cons_append, splitSlashes, if_neg (Ne.symm h.1), ih h.2]

/-- Pieces without slashes are found again between the slashes that were put there. -/
theorem splitSlashes_intercalate {pieces : List (List Char)} (hne : pieces ≠ [])
    (h : ∀ piece ∈ pieces, '/' ∉ piece) : splitSlashes (['/'].intercalate pieces) = pieces := by
  induction pieces with
  | nil => exact absurd rfl hne
  | cons piece pieces ih =>
    have hpiece := h piece (by simp)
    cases pieces with
    | nil => simpa using splitSlashes_of_not_mem hpiece
    | cons next pieces =>
      rw [List.intercalate_cons_cons, List.append_assoc, List.singleton_append,
        splitSlashes_append hpiece, ih (by simp) (fun p hp => h p (List.mem_cons_of_mem _ hp))]

def joined (names : List String) : List Char := ['/'].intercalate (names.map String.toList)

theorem toList_intercalate_slash (names : List String) :
    ("/".intercalate names).toList = joined names := by
  rw [String.toList_intercalate]
  rfl

/-- Names that are joined by slashes are read back. -/
theorem partsOf_joined {names : List String} (h : ∀ name ∈ names, IsName name) :
    partsOf (joined names) = names := by
  have hfilter : names.filter (fun name => name ≠ "" ∧ name ≠ ".") = names := by
    rw [List.filter_eq_self]
    intro name hname
    obtain ⟨hempty, hdot, _⟩ := h name hname
    simp [hempty, hdot]
  by_cases hne : names = []
  · subst hne
    rfl
  · unfold partsOf joined
    rw [splitSlashes_intercalate (by simpa using hne)]
    · have hmap : (names.map String.toList).map String.ofList = names := by simp
      rw [hmap, hfilter]
    · simp only [List.mem_map, forall_exists_index, and_imp, forall_apply_eq_imp_iff₂]
      exact fun name hname => (h name hname).2.2

/-- A slash in front adds an empty piece, which is no name. -/
theorem partsOf_slash (s : List Char) : partsOf ('/' :: s) = partsOf s := by
  simp [partsOf, splitSlashes]

theorem head_joined {names : List String} (h : ∀ name ∈ names, IsName name) :
    (joined names).head? ≠ some '/' := by
  cases names with
  | nil => simp [joined]
  | cons name names =>
    obtain ⟨hempty, _, hslash⟩ := h name (by simp)
    have hchars : name.toList ≠ [] := by simpa using hempty
    obtain ⟨c, rest, hc⟩ := List.exists_cons_of_ne_nil hchars
    have hne : c ≠ '/' := by
      intro heq
      simp [hc, heq] at hslash
    cases names <;> simp [joined, hc, hne, List.intercalate_cons_cons]

theorem rootOf_append {root : String} {s : List Char}
    (hroot : root = "" ∨ root = "/" ∨ root = "//") (h : s.head? ≠ some '/') :
    rootOf (root.toList ++ s) = root := by
  cases s with
  | nil => rcases hroot with rfl | rfl | rfl <;> rfl
  | cons c s =>
    have hc : c ≠ '/' := by simpa using h
    rcases hroot with rfl | rfl | rfl <;> simp [rootOf, hc]

/-- The text of a path is its root with its parts, save that a path with neither is a dot. -/
theorem toList_text {p : Path} (h : ¬ (p.root = "" ∧ p.parts = [])) :
    p.text.toList = p.root.toList ++ joined p.parts := by
  rw [text, if_neg h, String.toList_append, toList_intercalate_slash]

/-- **The text of a path leads back to it.** -/
theorem ofText_text {p : Path} (h : p.Normal) : ofText p.text = p := by
  obtain ⟨root, parts⟩ := p
  by_cases hdot : root = "" ∧ parts = []
  · obtain ⟨rfl, rfl⟩ := hdot
    rfl
  · have hroot : rootOf (root.toList ++ joined parts) = root :=
      rootOf_append h.root (head_joined h.names)
    have hparts : partsOf (root.toList ++ joined parts) = parts := by
      have hjoined : partsOf (joined parts) = parts := partsOf_joined h.names
      rcases h.root with hr | hr | hr
      all_goals
        obtain rfl : root = _ := hr
        simpa [partsOf_slash] using hjoined
    rw [ofText, toList_text hdot, hroot, hparts]

/-! ## 3. Paths as seen from other paths -/

/-- A path is relative to another one if its parts start with those of the other one. Neither is
followed for that. -/
theorem relativeTo?_eq_some_iff {p base q : Path} :
    p.relativeTo? base = some q ↔
      p.root = base.root ∧ ∃ names, p.parts = base.parts ++ names ∧ q = ⟨"", names⟩ := by
  unfold relativeTo?
  constructor
  · intro h
    split at h
    · next hp =>
      obtain ⟨names, hnames⟩ := List.isPrefixOf_iff_prefix.mp hp.2
      refine ⟨hp.1, names, hnames.symm, ?_⟩
      rw [← hnames, List.drop_left] at h
      exact (Option.some.inj h).symm
    · cases h
  · rintro ⟨hroot, names, hparts, rfl⟩
    have hpre : base.parts.isPrefixOf p.parts = true :=
      List.isPrefixOf_iff_prefix.mpr ⟨names, hparts.symm⟩
    rw [if_pos ⟨hroot, hpre⟩, hparts, List.drop_left]

/-- A path is where its relative text leads to from the other path. -/
theorem join_ofText_relativeTo {p base q : Path} (hp : p.Normal)
    (h : p.relativeTo? base = some q) : base.join (ofText q.text) = p := by
  obtain ⟨hroot, names, hparts, rfl⟩ := relativeTo?_eq_some_iff.mp h
  have hnormal : (⟨"", names⟩ : Path).Normal := by
    refine ⟨Or.inl rfl, fun name hname => hp.names name ?_⟩
    rw [hparts]
    exact List.mem_append_right _ hname
  rw [ofText_text hnormal, join, if_neg (by simp [isAbsolute]), ← hparts, ← hroot]

/-- A path below another one that cannot be seen from there is absolute. -/
theorem isAbsolute_of_relativeTo {base d : Path} (h : (base.join d).relativeTo? base = none) :
    d.isAbsolute = true := by
  cases habsolute : d.isAbsolute with
  | true => rfl
  | false =>
    have hjoin : base.join d = ⟨base.root, base.parts ++ d.parts⟩ := by simp [join, habsolute]
    have hrel : (base.join d).relativeTo? base = some ⟨"", d.parts⟩ := by
      rw [hjoin]
      exact relativeTo?_eq_some_iff.mpr ⟨rfl, d.parts, rfl, rfl⟩
    rw [hrel] at h
    cases h

/-! ## 4. The place of an absolute path -/

theorem foldl_enter_sublist (names here : List String) :
    (names.foldl enter here).Sublist (here ++ names) := by
  induction names generalizing here with
  | nil => simp
  | cons name names ih =>
    have hstep : (enter here name).Sublist (here ++ [name]) := by
      unfold enter
      split
      · exact (List.dropLast_sublist here).trans (List.sublist_append_left here [name])
      · exact List.Sublist.refl _
    have hrest := (ih (enter here name)).trans (hstep.append_right names)
    simpa using hrest

/-- Resolving a path leaves parts out and adds none. -/
theorem resolve_sublist {p : Path} (h : p.isAbsolute = true) (here : List String) :
    (p.resolve here).Sublist p.parts := by
  have := foldl_enter_sublist p.parts []
  simpa [resolve, h] using this

theorem normal_absolute {p : Path} (hp : p.Normal) (h : p.isAbsolute = true)
    (here : List String) : (p.absolute here).Normal where
  root := by simp [absolute]
  names := fun name hname => hp.names name ((resolve_sublist h here).subset hname)

theorem size_intercalate_cons (sep name : String) (rest : List String) :
    (sep.intercalate (name :: rest)).utf8ByteSize = name.utf8ByteSize +
      if rest = [] then 0 else sep.utf8ByteSize + (sep.intercalate rest).utf8ByteSize := by
  cases rest with
  | nil => simp
  | cons next rest =>
    simp only [String.intercalate_cons_cons, String.utf8ByteSize_append, reduceCtorEq, if_false]
    omega

/-- A joined text gets no longer when names are left out. -/
theorem size_intercalate_le_of_sublist (sep : String) {a b : List String} (h : a.Sublist b) :
    (sep.intercalate a).utf8ByteSize ≤ (sep.intercalate b).utf8ByteSize := by
  induction h with
  | slnil => simp
  | @cons a b name hsub ih =>
    rw [size_intercalate_cons]
    split
    · next hb =>
      subst hb
      simp [List.sublist_nil.mp hsub]
    · omega
  | @cons_cons a b name hsub ih =>
    rw [size_intercalate_cons, size_intercalate_cons]
    by_cases hb : b = []
    · subst hb
      simp [List.sublist_nil.mp hsub]
    · rw [if_neg hb]
      split <;> omega

theorem text_of_isAbsolute {p : Path} (h : p.isAbsolute = true) :
    p.text = p.root ++ "/".intercalate p.parts := by
  have hroot : p.root ≠ "" := by simpa [isAbsolute] using h
  rw [text, if_neg (fun hdot => hroot hdot.1)]

/-- The place of an absolute path has no longer text than the path. -/
theorem absolute_text_size_le {p : Path} (hp : p.Normal) (h : p.isAbsolute = true)
    (here : List String) : (p.absolute here).text.utf8ByteSize ≤ p.text.utf8ByteSize := by
  have hnames := size_intercalate_le_of_sublist "/" (resolve_sublist h here)
  have hroot : "/".utf8ByteSize ≤ p.root.utf8ByteSize := by
    have hne : p.root ≠ "" := by simpa [isAbsolute] using h
    rcases hp.root with hr | hr | hr
    · exact absurd hr hne
    · simp [hr]
    · rw [hr]
      decide
  rw [text_of_isAbsolute h, text_of_isAbsolute (p := p.absolute here) rfl]
  simp only [absolute, String.utf8ByteSize_append]
  omega

theorem mem_joined_iff {c : Char} (hc : c ≠ '/') (names : List String) :
    c ∈ joined names ↔ ∃ name ∈ names, c ∈ name.toList := by
  induction names with
  | nil => simp [joined]
  | cons name names ih =>
    cases names with
    | nil => simp [joined]
    | cons next names =>
      have hjoined : joined (name :: next :: names) =
          name.toList ++ '/' :: joined (next :: names) := by
        simp [joined, List.intercalate_cons_cons]
      rw [hjoined, List.mem_append, List.mem_cons, ih]
      simp [hc]

/-- The place of an absolute path has no characters but those of the path. -/
theorem mem_text_of_mem_absolute {p : Path} {c : Char} (hc : c ≠ '/') (h : p.isAbsolute = true)
    {here : List String} (hmem : c ∈ (p.absolute here).text.toList) : c ∈ p.text.toList := by
  rw [text_of_isAbsolute (p := p.absolute here) rfl] at hmem
  rw [text_of_isAbsolute h]
  simp only [String.toList_append, toList_intercalate_slash, List.mem_append] at hmem ⊢
  rcases hmem with hmem | hmem
  · exact absurd (by simpa [absolute] using hmem) hc
  · obtain ⟨name, hname, hchar⟩ := (mem_joined_iff hc _).mp hmem
    exact Or.inr ((mem_joined_iff hc _).mpr ⟨name, (resolve_sublist h here).subset hname, hchar⟩)

end NodeSchema.Path
