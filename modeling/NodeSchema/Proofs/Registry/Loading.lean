import NodeSchema.CommandLine.Run
import NodeSchema.Proofs.Json.Stopping
import NodeSchema.Proofs.Registry.Grammar
/-!
# Registries that cannot be loaded

Most of what can be wrong with a registry file is told to the user, and the run ends with an exit
code. This module finds everything that is not: it goes through the stages of loading, from the
names in a document back to the path of the file, and says for each exactly when it fails without a
report.

* `ofDocument_eq_notNames_iff` — the first kind that is not in order has a number or true where a
  list of names should stand, and nothing before that place is wrong.
* `Unreported` — the four ways in which loading fails without a report.
* `load_unreported_iff` — there are no others.
* `load_failures` — what a run of the program makes of either sort.
-/

namespace NodeSchema

namespace Registry

/-! ## 1. Values without items -/

/-- Whether a value is given where a list of names may stand, but has no items: true, or a number
other than zero. -/
def holdsNoItems : Value → Bool
  | .bool b => b
  | .int n => n != 0
  | .float x => !x.isZero
  | _ => false

/-- A list of names fails exactly for a value that holds no items, which is told by its type. -/
theorem namesOf_eq_error_iff {v : Value} {e : DocumentError} :
    namesOf v = .error e ↔ holdsNoItems v = true ∧ e = .notNames v.typeName := by
  unfold namesOf holdsNoItems
  cases v with
  | null => simp [Value.truthy]
  | bool b => cases b <;> simp [Value.truthy, @eq_comm _ e]
  | int n => by_cases hn : n = 0 <;> simp [Value.truthy, hn, @eq_comm _ e]
  | float x => cases hx : x.isZero <;> simp [Value.truthy, hx, @eq_comm _ e]
  | str s => by_cases hs : s = "" <;> simp [Value.truthy, hs]
  | list items => cases items <;> simp [Value.truthy]
  | object members => cases members <;> simp [Value.truthy]

theorem exists_namesOf_iff {v : Value} :
    (∃ items, namesOf v = .ok items) ↔ holdsNoItems v = false := by
  cases h : namesOf v with
  | ok items =>
    have hne : holdsNoItems v ≠ true := fun hv => by
      rw [namesOf_eq_error_iff.mpr ⟨hv, rfl⟩] at h
      cases h
    simpa using hne
  | error e => simp [(namesOf_eq_error_iff.mp h).1]

/-! ## 2. Kinds -/

/-- `LacksItems t kind keys found` — one of the two lists of names of a kind is a value without
items, of the kind `found`, and nothing that is read before it is wrong: the builder keys are read
after the table of fields has been found, the aliases after the fields. -/
inductive LacksItems (t : Tables) (kind : String) (keys : Value) : String → Prop where
  | builderKeys {members : List (String × Value)}
      (hm : HoldsFields (entryOf kind t.fields) members) (h : holdsNoItems keys = true) :
      LacksItems t kind keys keys.typeName
  | aliases {members : List (String × Value)}
      (hm : HoldsFields (entryOf kind t.fields) members) (hkeys : holdsNoItems keys = false)
      (hfields : ∀ e ∈ members, AcceptsField e.2)
      (h : holdsNoItems (entryOf kind t.aliases) = true) :
      LacksItems t kind keys (entryOf kind t.aliases).typeName

theorem fieldEntriesOf_ne_notNames {kind found : String} {v : Value} :
    fieldEntriesOf kind v ≠ .error (.notNames found) := by
  unfold fieldEntriesOf
  split
  · split <;> simp
  · simp

theorem fieldsOf_ne_notNames {kind found : String} {members : List (String × Value)} :
    fieldsOf kind members ≠ .error (.notNames found) := by
  intro h
  rw [fieldsOf_eq_mapM, mapM_eq_error_iff] at h
  obtain ⟨_, _, _, _, _, h⟩ := h
  obtain ⟨_, _, h⟩ := mapError_eq_error_iff.mp h
  cases h

theorem exists_fieldsOf_iff (kind : String) {members : List (String × Value)} :
    (∃ fields, fieldsOf kind members = .ok fields) ↔ ∀ e ∈ members, AcceptsField e.2 := by
  simp only [fieldsOf_eq_ok_iff, exists_fieldsMatch_iff]

/-- A kind is refused without a report exactly for a list of names that has no items. -/
theorem kindOf_eq_notNames_iff {t : Tables} {kind found : String} {keys : Value} :
    kindOf t kind keys = .error (.notNames found) ↔ LacksItems t kind keys found := by
  unfold kindOf
  constructor
  · intro h
    rcases bind_eq_error_iff.mp h with h | ⟨members, hm, h⟩
    · exact absurd h fieldEntriesOf_ne_notNames
    have hm := fieldEntriesOf_eq_ok_iff.mp hm
    rcases bind_eq_error_iff.mp h with h | ⟨names, hnames, h⟩
    · obtain ⟨hkeys, he⟩ := namesOf_eq_error_iff.mp h
      cases he
      exact .builderKeys hm hkeys
    rcases bind_eq_error_iff.mp h with h | ⟨fields, hfields, h⟩
    · exact absurd h fieldsOf_ne_notNames
    rcases bind_eq_error_iff.mp h with h | ⟨aliases, _, h⟩
    · obtain ⟨haliases, he⟩ := namesOf_eq_error_iff.mp h
      cases he
      exact .aliases hm (exists_namesOf_iff.mp ⟨names, hnames⟩)
        ((exists_fieldsOf_iff kind).mp ⟨fields, hfields⟩) haliases
    · obtain ⟨_, _, he⟩ := mapError_eq_error_iff.mp h
      cases he
  · intro h
    cases h with
    | builderKeys hm h =>
      rw [fieldEntriesOf_eq_ok_iff.mpr hm, namesOf_eq_error_iff.mpr ⟨h, rfl⟩]
      rfl
    | aliases hm hkeys hfields h =>
      obtain ⟨names, hnames⟩ := exists_namesOf_iff.mpr hkeys
      obtain ⟨fields, hfields⟩ := (exists_fieldsOf_iff kind).mpr hfields
      have haliases := namesOf_eq_error_iff.mpr ⟨h, rfl⟩
      refine bind_eq_error_iff.mpr (Or.inr ⟨_, fieldEntriesOf_eq_ok_iff.mpr hm, ?_⟩)
      refine bind_eq_error_iff.mpr (Or.inr ⟨names, hnames, ?_⟩)
      refine bind_eq_error_iff.mpr (Or.inr ⟨fields, hfields, ?_⟩)
      exact bind_eq_error_iff.mpr (Or.inl haliases)

/-! ## 3. Documents -/

/-- `DocumentLacksItems document found` — the document has its tables, and the first kind whose
entries are not in order has a list of names without items. -/
def DocumentLacksItems (document : Value) (found : String) : Prop :=
  ∃ t before kind keys after, HasTables document t ∧
    t.builderKeys = before ++ (kind, keys) :: after ∧
    (∀ e ∈ before, AcceptsKind t e.1 e.2) ∧ LacksItems t kind keys found

/-- Reading the tables ends with this error at the first kind that lacks items, if all kinds in
front of it are accepted. -/
theorem ofTables_eq_notNames_iff {t : Tables} {found : String} :
    ofTables t = .error (.notNames found) ↔
      ∃ before kind keys after, t.builderKeys = before ++ (kind, keys) :: after ∧
        (∀ e ∈ before, AcceptsKind t e.1 e.2) ∧ LacksItems t kind keys found := by
  have hkinds : ofTables t = .error (.notNames found) ↔
      kindsOf t t.builderKeys = .error (.notNames found) := by
    unfold ofTables
    cases kindsOf t t.builderKeys <;> simp [bind, Except.bind]
  rw [hkinds, kindsOf_eq_mapM, mapM_eq_error_iff]
  simp only [exists_kindOf_iff, kindOf_eq_notNames_iff, Prod.exists]

theorem requiredTable_ne_notNames {document : Value} {key found : String} :
    requiredTable document key ≠ .error (.notNames found) := by
  unfold requiredTable
  split <;> simp

theorem optionalTable_ne_notNames {document : Value} {key found : String} :
    optionalTable document key ≠ .error (.notNames found) := by
  unfold optionalTable
  split <;> simp

/-- A document is refused without a report exactly for a list of names that has no items. -/
theorem ofDocument_eq_notNames_iff {document : Value} {found : String} :
    ofDocument document = .error (.notNames found) ↔ DocumentLacksItems document found := by
  constructor
  · intro h
    -- Whatever fails before the kinds are read fails with another error.
    unfold ofDocument at h
    split at h
    · rcases bind_eq_error_iff.mp h with h | ⟨fields, hf, h⟩
      · exact absurd h requiredTable_ne_notNames
      rcases bind_eq_error_iff.mp h with h | ⟨keys, hk, h⟩
      · exact absurd h requiredTable_ne_notNames
      rcases bind_eq_error_iff.mp h with h | ⟨aliases, ha, h⟩
      · exact absurd h optionalTable_ne_notNames
      have ht : HasTables document ⟨fields, keys, aliases⟩ :=
        ⟨requiredTable_eq_ok_iff.mp hf, requiredTable_eq_ok_iff.mp hk,
          optionalTable_eq_ok_iff.mp ha⟩
      obtain ⟨before, kind, names, after, hkind⟩ := ofTables_eq_notNames_iff.mp h
      exact ⟨_, before, kind, names, after, ht, hkind⟩
    · cases h
  · rintro ⟨t, before, kind, keys, after, ht, h⟩
    rw [ht.ofDocument_eq]
    exact ofTables_eq_notNames_iff.mpr ⟨before, kind, keys, after, h⟩

end Registry

/-! ## 4. Files -/

theorem FileTree.follow_ne_zeroInPath {t : FileTree} :
    ∀ {here : Place} {names : List String}, t.follow here names ≠ .error .zeroInPath
  | here, [] => by simp [follow]
  | here, [name] => by
    simp only [follow, stepTo]
    split
    · simp
    · split <;> simp
  | here, name :: next :: rest => by
    intro h
    rcases bind_eq_error_iff.mp h with h | ⟨place, _, h⟩
    · unfold stepTo at h
      split at h
      · cases h
      · split at h <;> cases h
    · split at h
      · cases h
      · cases h
      · exact follow_ne_zeroInPath h

/-- A path with a zero character fails before any of it is followed. -/
theorem FileTree.locate_eq_zeroInPath_iff {t : FileTree} {path : Path} :
    t.locate path = .error .zeroInPath ↔ Char.ofNat 0 ∈ path.text.toList := by
  unfold locate
  by_cases hz : Char.ofNat 0 ∈ path.text.toList
  · simp [hz]
  · by_cases hlong : path.text.utf8ByteSize ≥ pathLimit
    · simp [hz, hlong]
    · simp [hz, hlong, follow_ne_zeroInPath]

/-- A path with the character zero is refused before anything is read. -/
theorem FileTree.readFile_eq_zeroInPath_iff {t : FileTree} {path : Path} {e : FileError} :
    t.readFile path = .error e ∧ e.cause = .zeroInPath ↔
      Char.ofNat 0 ∈ path.text.toList ∧ e = ⟨.zeroInPath, path⟩ := by
  rw [← locate_eq_zeroInPath_iff (t := t)]
  unfold readFile
  constructor
  · rintro ⟨h, hcause⟩
    split at h
    · next cause hlocate =>
      cases h
      obtain rfl : cause = .zeroInPath := hcause
      exact ⟨hlocate, rfl⟩
    · split at h <;> cases h <;> cases hcause
  · rintro ⟨hlocate, rfl⟩
    rw [hlocate]
    exact ⟨rfl, rfl⟩

namespace Registry

/-- `HoldsText t path text` — the file at the path is encoded in UTF-8, and this is its text. -/
def HoldsText (t : FileTree) (path : Path) (text : List Char) : Prop :=
  ∃ bytes, t.readFile path = .ok bytes ∧ textOf bytes = .ok text

theorem textOf_eq_error_iff {bytes : ByteArray} {e : LoadError} :
    textOf bytes = .error e ↔ ¬ bytes.IsValidUTF8 ∧ e = .notText := by
  unfold textOf String.fromUTF8?
  by_cases h : bytes.IsValidUTF8 <;> simp [h, eq_comm]

/-- Loading goes on from the text of a file. -/
theorem HoldsText.load_eq {t : FileTree} {path : Path} {text : List Char}
    (h : HoldsText t path text) :
    load t path = (do
      let document ← (Json.read (some Json.digitLimit) text).mapError (.notJson path text)
      (ofDocument document).mapError .document) := by
  obtain ⟨bytes, hread, htext⟩ := h
  unfold load
  rw [hread]
  simp only [Except.mapError, htext, bind, Except.bind]

/-- `Unreported t path e` — loading the file at the path ends in the failure `e`, and the user is
not told. -/
inductive Unreported (t : FileTree) (path : Path) : LoadError → Prop where
  | zeroInPath (h : Char.ofNat 0 ∈ path.text.toList) :
      Unreported t path (.unreadable ⟨.zeroInPath, path⟩)
  | notText {bytes : ByteArray} (hread : t.readFile path = .ok bytes)
      (h : ¬ bytes.IsValidUTF8) : Unreported t path .notText
  | longInteger {text rest : List Char} {s : Json.State} {count : Nat}
      (htext : HoldsText t path text) (hlong : Json.digitLimit < count)
      (hreach : Json.Reaches (some Json.digitLimit) .start text s rest)
      (hexpect : s.expect = .value ∨ s.expect = .itemOrEnd)
      (hahead : Json.IntegerAhead count rest) :
      Unreported t path
        (.notJson path text ⟨.defect (.tooManyDigits count), text.length - rest.length⟩)
  | notNames {text : List Char} {document : Value} {found : String}
      (htext : HoldsText t path text)
      (hread : Json.read (some Json.digitLimit) text = .ok document)
      (h : DocumentLacksItems document found) :
      Unreported t path (.document (.notNames found))

/-- Each of the ways leads to its failure, and it is not reported. -/
theorem Unreported.load_eq {t : FileTree} {path : Path} {e : LoadError} (h : Unreported t path e) :
    load t path = .error e ∧ e.isReported = false := by
  cases h with
  | zeroInPath h =>
    obtain ⟨hread, _⟩ := (FileTree.readFile_eq_zeroInPath_iff (t := t)).mpr ⟨h, rfl⟩
    exact ⟨by rw [load, hread]; rfl, rfl⟩
  | notText hread h =>
    have htext := textOf_eq_error_iff.mpr ⟨h, rfl⟩
    have hread := mapError_eq_ok_iff (f := LoadError.unreadable).mpr hread
    refine ⟨bind_eq_error_iff.mpr (Or.inr ⟨_, hread, ?_⟩), rfl⟩
    exact bind_eq_error_iff.mpr (Or.inl htext)
  | longInteger htext hlong hreach hexpect hahead =>
    have hread := Json.read_eq_tooManyDigits_iff.mpr
      ⟨hlong, _, _, hreach, hexpect, hahead, rfl⟩
    exact ⟨by rw [htext.load_eq, hread]; rfl, rfl⟩
  | notNames htext hread h =>
    have hdocument := ofDocument_eq_notNames_iff.mpr h
    exact ⟨by rw [htext.load_eq, hread]; exact mapError_eq_error_iff.mpr ⟨_, hdocument, rfl⟩, rfl⟩

/-- A failure that is not reported came about in one of the ways. -/
theorem unreported_of_load {t : FileTree} {path : Path} {e : LoadError}
    (h : load t path = .error e) (hreport : e.isReported = false) : Unreported t path e := by
  rcases bind_eq_error_iff.mp h with h | ⟨bytes, hbytes, h⟩
  · obtain ⟨fault, hfault, rfl⟩ := mapError_eq_error_iff.mp h
    have hcause : fault.cause = .zeroInPath := by simpa [LoadError.isReported] using hreport
    obtain ⟨hzero, rfl⟩ := FileTree.readFile_eq_zeroInPath_iff.mp ⟨hfault, hcause⟩
    exact .zeroInPath hzero
  have hbytes := mapError_eq_ok_iff.mp hbytes
  rcases bind_eq_error_iff.mp h with h | ⟨text, htext, h⟩
  · obtain ⟨hvalid, rfl⟩ := textOf_eq_error_iff.mp h
    exact .notText hbytes hvalid
  have htext : HoldsText t path text := ⟨bytes, hbytes, htext⟩
  rcases bind_eq_error_iff.mp h with h | ⟨document, hdocument, h⟩
  · obtain ⟨⟨cause, offset⟩, hread, rfl⟩ := mapError_eq_error_iff.mp h
    cases cause with
    | defect d =>
      cases d with
      | tooManyDigits count =>
        obtain ⟨hlong, s, rest, hreach, hexpect, hahead, rfl⟩ :=
          Json.read_eq_tooManyDigits_iff.mp hread
        exact .longInteger htext hlong hreach hexpect hahead
      | _ => cases hreport
    | _ => cases hreport
  · obtain ⟨fault, hfault, rfl⟩ := mapError_eq_error_iff.mp h
    cases fault with
    | notNames found =>
      exact .notNames htext (mapError_eq_ok_iff.mp hdocument)
        (ofDocument_eq_notNames_iff.mp hfault)
    | _ => cases hreport

/-- **Failures without a report.** Loading fails without a report exactly when the path holds the
character zero, the file is not encoded in UTF-8, its text goes well up to an integer that is too
long, or its document goes well up to a list of names that is a number or true. -/
theorem load_unreported_iff {t : FileTree} {path : Path} {e : LoadError} :
    load t path = .error e ∧ e.isReported = false ↔ Unreported t path e := by
  constructor
  · rintro ⟨h, hreport⟩
    exact unreported_of_load h hreport
  · exact Unreported.load_eq

end Registry

/-! ## 5. Runs -/

namespace CommandLine

open Registry

theorem generate_ending_ne_load {t : FileTree} {o : Options} {r : Registry} {e : LoadError} :
    (generate t o r).ending ≠ .error (.load e) := by
  unfold generate
  dsimp only
  split
  next generation findings _ =>
    cases generation with
    | error fault => simp
    | ok g => dsimp only; split <;> simp

theorem loadAndGenerate_of_ok {t : FileTree} {o : Options} {r : Registry}
    (hload : load t (.ofText o.registry) = .ok r) : loadAndGenerate t o = generate t o r := by
  unfold loadAndGenerate
  rw [hload]

/-- An error that is reported ends the run with a message and an exit code. -/
theorem loadAndGenerate_of_reported {t : FileTree} {o : Options} {e : LoadError}
    (hload : load t (.ofText o.registry) = .error e) (hreport : e.isReported = true) :
    loadAndGenerate t o =
      { tree := t, output := [], messages := ["error: " ++ e.message], ending := .ok 2 } := by
  unfold loadAndGenerate
  rw [hload]
  exact if_pos hreport

/-- Any other error ends the run as it is. -/
theorem loadAndGenerate_of_unreported {t : FileTree} {o : Options} {e : LoadError}
    (hload : load t (.ofText o.registry) = .error e) (hreport : e.isReported = false) :
    loadAndGenerate t o =
      { tree := t, output := [], messages := [], ending := .error (.load e) } := by
  unfold loadAndGenerate
  rw [hload]
  exact if_neg (by rw [hreport]; exact Bool.false_ne_true)

/-- A run that gets to the registry ends in a failure of loading exactly when that failure is not
reported. -/
theorem loadAndGenerate_ending_iff {t : FileTree} {o : Options} {e : LoadError} :
    (loadAndGenerate t o).ending = .error (.load e) ↔ Unreported t (.ofText o.registry) e := by
  rw [← load_unreported_iff]
  constructor
  · intro h
    cases hload : load t (.ofText o.registry) with
    | ok r =>
      rw [loadAndGenerate_of_ok hload] at h
      exact absurd h generate_ending_ne_load
    | error e' =>
      cases hreport : e'.isReported with
      | true => rw [loadAndGenerate_of_reported hload hreport] at h; cases h
      | false =>
        rw [loadAndGenerate_of_unreported hload hreport] at h
        cases h
        exact ⟨rfl, hreport⟩
  · rintro ⟨hload, hreport⟩
    rw [loadAndGenerate_of_unreported hload hreport]

/-- **What becomes of a registry that cannot be loaded.** Loading fails without a report exactly in
the ways that `Unreported` lists. A run that gets to a registry ends in a failure of loading in
these cases only, and leaves the tree as it was without a word; in all other cases in which the
registry cannot be loaded it prints one message and ends with the exit code 2. -/
theorem load_failures (t : FileTree) (path : Path) :
    (∀ e, load t path = .error e ∧ e.isReported = false ↔ Unreported t path e) ∧
    ∀ args o, parse args = .ok (.generate o) → Path.ofText o.registry = path →
      (∀ e, (run args t).ending = .error (.load e) ↔ Unreported t path e) ∧
      (∀ e, Unreported t path e →
        run args t =
          { tree := t, output := [], messages := [], ending := .error (.load e) }) ∧
      (∀ e, load t path = .error e → ¬ Unreported t path e →
        run args t =
          { tree := t, output := [], messages := ["error: " ++ e.message], ending := .ok 2 }) := by
  refine ⟨fun e => load_unreported_iff, ?_⟩
  rintro args o hargs rfl
  have hrun : run args t = loadAndGenerate t o := by rw [run, hargs]
  rw [hrun]
  refine ⟨fun e => loadAndGenerate_ending_iff, fun e h => ?_, fun e hload h => ?_⟩
  · obtain ⟨hload, hreport⟩ := load_unreported_iff.mpr h
    exact loadAndGenerate_of_unreported hload hreport
  · have hreport : e.isReported = true := by
      cases hr : e.isReported with
      | true => rfl
      | false => exact absurd (load_unreported_iff.mp ⟨hload, hr⟩) h
    exact loadAndGenerate_of_reported hload hreport

/-! ## 6. A document that is refused without a report -/

/-- A registry document in which the builder keys of the only kind are a number. -/
def numberDocument : String :=
  "\x7b\"NODE_FIELDS\":\x7b\x7d,\"BUILDER_KEYS\":\x7b\"A\":5\x7d\x7d"

def numberTree : FileTree :=
  (FileTree.fresh []).withFile ["registry.json"] numberDocument.toUTF8

def numberFailure : LoadError := .document (.notNames "int")

theorem fromUTF8?_toUTF8 (s : String) : String.fromUTF8? s.toUTF8 = some s := by
  unfold String.fromUTF8?
  exact dif_pos s.isValidUTF8

/-- A number in place of the builder keys is no error that is reported: the run ends in a failure,
without a message and without an exit code. -/
theorem number_for_builderKeys_not_reported :
    Char.ofNat 0 ∉ (Path.ofText "registry.json").text.toList ∧
      load numberTree (.ofText "registry.json") = .error numberFailure ∧
      numberFailure.isReported = false ∧
      run ["registry.json"] numberTree =
        { tree := numberTree, output := [], messages := [], ending := .error (.load numberFailure) } := by
  have hload : load numberTree (.ofText "registry.json") = .error numberFailure := by
    have hread : numberTree.readFile (.ofText "registry.json") = .ok numberDocument.toUTF8 := rfl
    have htext : textOf numberDocument.toUTF8 = .ok (Text.unifyNewlines numberDocument.toList) := by
      rw [textOf, fromUTF8?_toUTF8]
    rw [HoldsText.load_eq ⟨_, hread, htext⟩]
    rfl
  have hargs : parse ["registry.json"] = .ok (.generate
      { registry := "registry.json", root := ".", declarations := ({} : Config).declarationsPath
        wrapper := ({} : Config).wrapperPath, verbose := false }) := rfl
  refine ⟨by decide, hload, rfl, ?_⟩
  rw [run, hargs]
  exact loadAndGenerate_of_unreported hload rfl

end CommandLine

end NodeSchema
