import ShapeTables.CommandLine.Run
import ShapeTables.Proofs.NodeGrounds

/-! Loading documents. A file is loaded as a value or refused, unless the loading derails, and each way to derail has its
ground in the path, in the octets or in the text of the file. A run on a document that is not loaded ends with exit code
one exactly where the loading does not derail. -/
namespace ShapeTables

variable {files : Files} {path : Path}

/-! ### Files -/

namespace Files

theorem walk_ne_nullInName (files : Files) (here names : List String) :
    files.walk here names ≠ .unreachable .nullInName := by
  fun_induction walk files here names with
  | case2 here rest ih => exact ih
  | case4 here name rest _ _ _ ih => exact ih
  | _ => simp

/-- A null character in the path is the only cause of its fault. -/
theorem read_eq_nullInName_iff : files.read path = .error .nullInName ↔ '\x00' ∈ path.text.toList := by
  unfold read find
  by_cases hnull : '\x00' ∈ path.text.toList
  · simp [hnull]
  · have hwalk := walk_ne_nullInName files (if path.root.isEmpty then [] else top) path.parts
    simp only [List.contains_iff_mem, hnull, if_false, iff_false]
    by_cases hlong : maxPath < path.text.utf8ByteSize
    · simp [hlong]
    · simp only [hlong, if_false]
      split
      · simp
      · simp
      · simp
      · next fault hfault =>
        rintro ⟨⟩
        exact hwalk hfault

end Files

theorem decode?_toUTF8 (s : String) : decode? s.toUTF8 = some (Text.unifyLineEnds s.toList) := by
  have hvalid : s.toUTF8.IsValidUTF8 := s.isValidUTF8
  rw [decode?, String.fromUTF8?, dif_pos hvalid]
  rfl

theorem decode?_eq_none_iff {octets : ByteArray} : decode? octets = none ↔ ¬octets.IsValidUTF8 := by
  by_cases hvalid : octets.IsValidUTF8
  · simp [decode?, String.fromUTF8?, hvalid]
  · simp [decode?, String.fromUTF8?, hvalid]

/-! ### Loading -/

/-- A path leads to a file, and its name says in which notation the file is. -/
structure LeadsTo (files : Files) (path : Path) (found : Notation) (octets : ByteArray) : Prop where
  notation_eq : Notation.of path = .ok found
  read_eq : files.read path = .ok octets

/-- A path leads to a file of text in a notation. -/
def LeadsToText (files : Files) (path : Path) (found : Notation) (cs : List Char) : Prop :=
  ∃ octets, LeadsTo files path found octets ∧ decode? octets = some cs

/-- The ways for loading to derail, with their grounds: a null character in the path, octets that are not UTF-8, an
integer of too many digits in a text of JSON, an escape beyond the last character or a version of too many digits in a
text of YAML, and a scalar in the document of such a text that its tag does not allow. -/
inductive Derails (files : Files) (path : Path) : LoadBreak → Prop where
  | nullInName {found : Notation} (hfound : Notation.of path = .ok found) (hnull : '\x00' ∈ path.text.toList) :
    Derails files path .nullInName
  | notUtf8 {found : Notation} {octets : ByteArray} (h : LeadsTo files path found octets) (hbad : ¬octets.IsValidUTF8) :
    Derails files path .notUtf8
  | longInteger {cs digits after : List Char} (h : LeadsToText files path .json cs)
    (hread : Json.read cs = .error (.longNumeral digits.length)) (hpart : digits ++ after <:+ cs)
    (hlong : Json.LongInteger digits after) : Derails files path (.longNumeral digits.length)
  | text {cs part : List Char} {failure : Yaml.Failure} (h : LeadsToText files path .yaml cs)
    (hread : Yaml.read cs = .error failure) (hne : failure ≠ .malformed) (hpart : part <:+ cs)
    (hground : Yaml.Ground part failure) : Derails files path (.yaml failure)
  | node {cs : List Char} {g : Yaml.Graph} {root : Nat} {failure : Yaml.Failure} (h : LeadsToText files path .yaml cs)
    (hread : Yaml.read cs = .error failure) (hne : failure ≠ .malformed)
    (hgraph : Yaml.Graph.read cs = .ok (some (g, root))) (hflaw : g.Flaw failure) : Derails files path (.yaml failure)

theorem Notation.of_ne_broken {cause : LoadBreak} : Notation.of path ≠ .error (.broken cause) := by
  unfold Notation.of
  dsimp only
  split
  · simp
  · simp

theorem readJson_eq_broken_iff {cs : List Char} {cause : LoadBreak} : readJson path cs = .error (.broken cause) ↔
    ∃ digits, Json.read cs = .error (.longNumeral digits) ∧ cause = .longNumeral digits := by
  unfold readJson
  rcases hread : Json.read cs with (⟨kind, rest⟩ | digits) | v
  · simp
  · simp [eq_comm]
  · simp

theorem readYaml_eq_broken_iff {cs : List Char} {cause : LoadBreak} : readYaml path cs = .error (.broken cause) ↔
    ∃ failure, Yaml.read cs = .error failure ∧ failure ≠ .malformed ∧ cause = .yaml failure := by
  unfold readYaml
  rcases hread : Yaml.read cs with failure | v
  · cases failure <;> simp [eq_comm]
  · simp

/-- What is loaded from a file is read from its text. -/
theorem LeadsTo.load_eq {found : Notation} {octets : ByteArray} : LeadsTo files path found octets →
    load files.read path = match decode? octets with
      | none => .error (.broken .notUtf8)
      | some cs => match found with
        | .json => readJson path cs
        | .yaml => readYaml path cs := by
  intro h
  rw [load, h.notation_eq, h.read_eq]
  rfl

theorem load_eq_broken_cases {cause : LoadBreak} : load files.read path = .error (.broken cause) ↔
    (∃ found, Notation.of path = .ok found ∧ '\x00' ∈ path.text.toList ∧ cause = .nullInName) ∨
    (∃ found octets, LeadsTo files path found octets ∧ ¬octets.IsValidUTF8 ∧ cause = .notUtf8) ∨
    (∃ cs, LeadsToText files path .json cs ∧ readJson path cs = .error (.broken cause)) ∨
    ∃ cs, LeadsToText files path .yaml cs ∧ readYaml path cs = .error (.broken cause) := by
  constructor
  · intro h
    cases hfound : Notation.of path with
    | error e =>
      rw [load, hfound] at h
      obtain rfl : e = .broken cause := Except.error.inj h
      exact absurd hfound Notation.of_ne_broken
    | ok found =>
      cases hread : files.read path with
      | error fault =>
        rw [load, hfound, hread] at h
        cases fault with
        | nullInName =>
          cases h
          exact .inl ⟨found, rfl, Files.read_eq_nullInName_iff.mp hread, rfl⟩
        | _ => cases h
      | ok octets =>
        have hleads : LeadsTo files path found octets := ⟨hfound, hread⟩
        rw [hleads.load_eq] at h
        cases htext : decode? octets with
        | none =>
          rw [htext] at h
          cases h
          exact .inr (.inl ⟨found, octets, hleads, decode?_eq_none_iff.mp htext, rfl⟩)
        | some cs =>
          rw [htext] at h
          cases found with
          | json => exact .inr (.inr (.inl ⟨cs, ⟨octets, hleads, htext⟩, h⟩))
          | yaml => exact .inr (.inr (.inr ⟨cs, ⟨octets, hleads, htext⟩, h⟩))
  · rintro (⟨found, hfound, hnull, rfl⟩ | ⟨found, octets, hleads, hbad, rfl⟩ | ⟨cs, ⟨octets, hleads, htext⟩, hread⟩ |
      ⟨cs, ⟨octets, hleads, htext⟩, hread⟩)
    · rw [load, hfound, Files.read_eq_nullInName_iff.mpr hnull]
      rfl
    · rw [hleads.load_eq, decode?_eq_none_iff.mpr hbad]
    · rw [hleads.load_eq, htext]
      exact hread
    · rw [hleads.load_eq, htext]
      exact hread

/-- Loading comes down exactly where it derails. -/
theorem load_eq_broken_iff {cause : LoadBreak} :
    load files.read path = .error (.broken cause) ↔ Derails files path cause := by
  rw [load_eq_broken_cases]
  constructor
  · rintro (⟨found, hfound, hnull, rfl⟩ | ⟨found, octets, hleads, hbad, rfl⟩ | ⟨cs, hleads, hread⟩ | ⟨cs, hleads, hread⟩)
    · exact .nullInName hfound hnull
    · exact .notUtf8 hleads hbad
    · obtain ⟨n, hjson, rfl⟩ := readJson_eq_broken_iff.mp hread
      obtain ⟨digits, after, hpart, hlong, rfl⟩ := Json.exists_longInteger_of_read hjson
      exact .longInteger hleads hjson hpart hlong
    · obtain ⟨failure, hyaml, hne, rfl⟩ := readYaml_eq_broken_iff.mp hread
      rcases Yaml.read_error hyaml hne with ⟨part, hpart, hground⟩ | ⟨g, root, hgraph, hflaw⟩
      · exact .text hleads hyaml hne hpart hground
      · exact .node hleads hyaml hne hgraph hflaw
  · intro h
    cases h with
    | nullInName hfound hnull => exact .inl ⟨_, hfound, hnull, rfl⟩
    | notUtf8 hleads hbad => exact .inr (.inl ⟨_, _, hleads, hbad, rfl⟩)
    | longInteger hleads hread => exact .inr (.inr (.inl ⟨_, hleads, readJson_eq_broken_iff.mpr ⟨_, hread, rfl⟩⟩))
    | text hleads hread hne => exact .inr (.inr (.inr ⟨_, hleads, readYaml_eq_broken_iff.mpr ⟨_, hread, hne, rfl⟩⟩))
    | node hleads hread hne => exact .inr (.inr (.inr ⟨_, hleads, readYaml_eq_broken_iff.mpr ⟨_, hread, hne, rfl⟩⟩))

/-- A file is loaded as a value or refused. -/
def Settles (files : Files) (path : Path) : Prop :=
  (∃ v, load files.read path = .ok v) ∨ ∃ reason, load files.read path = .error (.refused reason)

theorem settles_iff : Settles files path ↔ ∀ cause, ¬Derails files path cause := by
  simp only [← load_eq_broken_iff, Settles]
  rcases load files.read path with (reason | cause) | v
  · simp
  · simp
  · simp

namespace CommandLine

variable {w : World} {args : Arguments}

theorem run_of_refused {reason : LoadRefusal} (h : load w.read (.ofText args.document) = .error (.refused reason)) :
    run w args = .failed (.load reason) := by
  unfold run
  rw [h]

theorem run_of_broken {cause : LoadBreak} (h : load w.read (.ofText args.document) = .error (.broken cause)) :
    run w args = .crashed (.load cause) := by
  unfold run
  rw [h]

/-- Every run on a document that is not loaded as a value ends with exit code one exactly where loading settles. -/
theorem exits_iff (files : Files) (environment : List (String × String)) (args : Arguments) :
    ((∀ v, load files.read (.ofText args.document) ≠ .ok v) →
      ((runOn files environment args).ending files).exit = .ok 1) ↔ Settles files (.ofText args.document) := by
  constructor
  · intro h
    rcases hload : load files.read (.ofText args.document) with (reason | cause) | v
    · exact .inr ⟨reason, hload⟩
    · have hexit := h (by simp [hload])
      rw [runOn, run_of_broken (w := ⟨files.read, environment⟩) hload] at hexit
      cases hexit
    · exact .inl ⟨v, hload⟩
  · rintro (⟨v, hv⟩ | ⟨reason, hreason⟩) hnone
    · exact absurd hv (hnone v)
    · rw [runOn, run_of_refused (w := ⟨files.read, environment⟩) hreason]
      rfl

/-- A file is loaded as a value or refused exactly where its loading does not derail, and exactly there every run on it,
unless it is loaded as a value, ends with exit code one. -/
theorem settles_and_exits_iff (files : Files) : (∀ path, Settles files path ↔ ∀ cause, ¬Derails files path cause) ∧
    ∀ (environment : List (String × String)) (args : Arguments),
      ((∀ v, load files.read (.ofText args.document) ≠ .ok v) →
        ((runOn files environment args).ending files).exit = .ok 1) ↔
      ∀ cause, ¬Derails files (.ofText args.document) cause :=
  ⟨fun _ => settles_iff, fun environment args => (exits_iff files environment args).trans settles_iff⟩

/-- A text of JSON that breaks off after its first character. -/
def brokenOff : Files := [(["broken.json"], .file "\x7b".toUTF8)]

theorem load_brokenOff : ∃ reason, load brokenOff.read (.ofText "broken.json") = .error (.refused reason) := by
  have hleads : LeadsTo brokenOff (.ofText "broken.json") .json "\x7b".toUTF8 := ⟨rfl, rfl⟩
  have hjson : Json.read (Text.unifyLineEnds "\x7b".toList) = .error (.malformed .expectingName []) := rfl
  rw [hleads.load_eq, decode?_toUTF8]
  simp only [readJson, hjson]
  exact ⟨_, rfl⟩

/-- The text that breaks off is refused, and a run on it ends with exit code one. -/
theorem exits_brokenOff : (∀ cause, ¬Derails brokenOff (.ofText "broken.json") cause) ∧
    ((runOn brokenOff [] ⟨"broken.json", none, none, false⟩).ending brokenOff).exit = .ok 1 := by
  have hsettles : Settles brokenOff (.ofText "broken.json") := .inr load_brokenOff
  have hnone := ((settles_and_exits_iff brokenOff).1 (.ofText "broken.json")).mp hsettles
  obtain ⟨reason, hreason⟩ := load_brokenOff
  refine ⟨hnone, ((settles_and_exits_iff brokenOff).2 [] ⟨"broken.json", none, none, false⟩).mpr hnone ?_⟩
  simp [hreason]

/-- A date whose month there is not. -/
def noMonth : Files := [(["a.yaml"], .file "2020-13-01".toUTF8)]

theorem load_noMonth : load noMonth.read (.ofText "a.yaml") =
    .error (.broken (.yaml (.outOfRange "month must be in 1..12"))) := by
  have hleads : LeadsTo noMonth (.ofText "a.yaml") .yaml "2020-13-01".toUTF8 := ⟨rfl, rfl⟩
  have hyaml : Yaml.read (Text.unifyLineEnds "2020-13-01".toList) = .error (.outOfRange "month must be in 1..12") := rfl
  rw [hleads.load_eq, decode?_toUTF8]
  simp only [readYaml, hyaml]

/-- The date is neither loaded nor refused, and a run on it comes down. -/
theorem noMonth_derails : ¬Settles noMonth (.ofText "a.yaml") ∧
    ((runOn noMonth [] ⟨"a.yaml", none, none, false⟩).ending noMonth).exit =
      .error (.load (.yaml (.outOfRange "month must be in 1..12"))) := by
  constructor
  · rintro (⟨v, hv⟩ | ⟨reason, hreason⟩)
    · rw [load_noMonth] at hv
      cases hv
    · rw [load_noMonth] at hreason
      cases hreason
  · have hrun : runOn noMonth [] ⟨"a.yaml", none, none, false⟩ =
        .crashed (.load (.yaml (.outOfRange "month must be in 1..12"))) := run_of_broken load_noMonth
    rw [hrun]
    rfl

end CommandLine

end ShapeTables
