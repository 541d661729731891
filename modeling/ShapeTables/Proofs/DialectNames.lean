import ShapeTables.Proofs.Reading
import ShapeTables.Request

/-! Names of dialects in settings and in requests. Both take a name without regard to case and to blanks around it and
look it up in a table of their own. The tables agree on every name but one, by which only requests know a dialect; with
any other name a setting and a request come to the same, and so do the answers under them. -/
namespace ShapeTables

namespace Text

theorem lowerChar_ne_nil (c : Char) : lowerChar c ≠ [] := by
  unfold lowerChar
  split
  · simp
  · split <;> simp

theorem lowerBetween_ne_nil (before after : List Char) (c : Char) : lowerBetween before c after ≠ [] := by
  unfold lowerBetween
  split_ifs
  · simp
  · exact lowerChar_ne_nil c

/-- Every character has a lower-case form, so only the empty text is left empty. -/
theorem lower_eq_empty_iff {s : String} : lower s = "" ↔ s = "" := by
  constructor
  · intro h
    have hnil : lowerFrom [] s.toList = [] := by simpa [lower] using congrArg String.toList h
    cases hs : s.toList with
    | nil => simpa using hs
    | cons c rest =>
      rw [hs, lowerFrom] at hnil
      exact absurd (List.append_eq_nil_iff.mp hnil).1 (lowerBetween_ne_nil [] rest c)
  · rintro rfl
    rfl

end Text

open Text (lower trim)

namespace Settings

open Reading

/-! ### The two tables -/

/-- The name of a dialect that requests have and settings do not. -/
def unshared : String := "mariadb"

/-- The tables agree but for the empty name and the one that is not shared. -/
theorem lookup_dialects {name : String} (hempty : name ≠ "") :
    dialects.lookup name = if name = unshared then none else Sql.Dialect.byName.lookup name := by
  by_cases hunshared : name = unshared
  · subst hunshared
    rfl
  · have hmariadb : name ≠ "mariadb" := hunshared
    simp only [dialects, Sql.Dialect.byName, List.lookup_cons, List.lookup_nil, beq_eq_false_iff_ne.mpr hempty,
      beq_eq_false_iff_ne.mpr hmariadb, if_neg hunshared]

theorem readDialect_eq_ok_iff {name : String} {d : Sql.Dialect} (hblank : trim name ≠ "") :
    readDialect (.text name) = .ok d ↔ Sql.Dialect.ofName? name = some d ∧ lower (trim name) ≠ unshared := by
  have hempty : lower (trim name) ≠ "" := fun h => hblank (Text.lower_eq_empty_iff.mp h)
  rw [readDialect, lookup_dialects hempty, Sql.Dialect.ofName?]
  by_cases hunshared : lower (trim name) = unshared
  · simp [hunshared, fault]
  · rw [if_neg hunshared]
    cases Sql.Dialect.byName.lookup (lower (trim name)) <;> simp [hunshared, fault]

/-! ### Settings from sources -/

namespace Sources

/-- The sources with a name of a dialect given ahead of all that they give. -/
def naming (s : Sources) (name : String) : Sources :=
  { s with given := (.text "default_dialect", .text name) :: s.given }

/-- All settings but the dialect are read from sources. -/
structure Provide (s : Sources) (settings : Settings) : Prop where
  appName : optional s.members "app_name" ({} : Settings).appName text = .ok settings.appName
  logLevel : optional s.members "log_level" ({} : Settings).logLevel text = .ok settings.logLevel
  length : optional s.members "string_column_length" ⟨({} : Settings).stringLength, by decide⟩ readLength =
    .ok ⟨settings.stringLength, settings.one_le_stringLength, settings.stringLength_le⟩
  origins : optional s.members "frontend_origins" ({} : Settings).origins readOrigins = .ok settings.origins

variable {s : Sources} {name field : String} {settings : Settings}

theorem lookup_filterMap_text (value? : String → Option Value) {names : List String} (hfield : field ∈ names) :
    (names.filterMap fun name => (value? name).map fun v => (Scalar.text name, v)).lookup (.text field) =
      value? field := by
  induction names with
  | nil => cases hfield
  | cons name names ih =>
    by_cases hname : name = field
    · subst hname
      cases hvalue : value? name with
      | some v => simp [hvalue]
      | none =>
        rw [List.filterMap_cons_none (by simp [hvalue]), List.lookup_eq_none_iff]
        intro m hm
        obtain ⟨other, -, hother⟩ := List.mem_filterMap.mp hm
        obtain ⟨v, hv, rfl⟩ := Option.map_eq_some_iff.mp hother
        rw [bne_iff_ne]
        rintro hsame
        cases hsame
        cases hvalue.symm.trans hv
    · have hrest := ih ((List.mem_cons.mp hfield).resolve_left (Ne.symm hname))
      have hkey : (Scalar.text field == Scalar.text name) = false := by simpa using Ne.symm hname
      cases hvalue : value? name with
      | some v => rw [List.filterMap_cons_some (by simp [hvalue]; rfl), List.lookup_cons, hkey, hrest]
      | none => rw [List.filterMap_cons_none (by simp [hvalue]), hrest]

theorem member?_members (hfield : field ∈ fields) : member? s.members field = s.field? field :=
  lookup_filterMap_text s.field? hfield

/-- The other fields do not see the name. -/
theorem member?_members_naming (hfield : field ∈ fields) (hne : field ≠ "default_dialect") :
    member? (s.naming name).members field = member? s.members field := by
  have hgiven : (s.naming name).given? field = s.given? field := by
    have hlower : lower "default_dialect" = "default_dialect" := by rfl
    rw [given?, naming, List.find?_cons_of_neg (by simp [hlower, Ne.symm hne]), given?]
  rw [member?_members hfield, member?_members hfield, field?, hgiven, field?]
  rfl

theorem optional_naming {α : Type} {absent : α} {read : Value → Reading α} (hfield : field ∈ fields)
    (hne : field ≠ "default_dialect") :
    optional (s.naming name).members field absent read = optional s.members field absent read := by
  rw [Reading.optional, member?_members_naming hfield hne, Reading.optional]

theorem load_naming_eq_ok_iff :
    load (s.naming name) = .ok settings ↔ readDialect (.text name) = .ok settings.dialect ∧ s.Provide settings := by
  have hdialect : optional (s.naming name).members "default_dialect" ({} : Settings).dialect readDialect =
      (readDialect (.text name)).under (.name "default_dialect") := by
    have hfound : member? (s.naming name).members "default_dialect" = some (.text name) :=
      member?_members (by decide)
    rw [Reading.optional, hfound]
  simp only [load, read, map_eq_ok_iff, both_eq_ok_iff, hdialect, under_eq_ok_iff]
  rw [optional_naming (by decide) (by decide), optional_naming (by decide) (by decide),
    optional_naming (by decide) (by decide), optional_naming (by decide) (by decide)]
  constructor
  · rintro ⟨⟨appName, logLevel, dialect, length, origins⟩, ⟨hname, hlevel, hdialect, hlength, horigins⟩, rfl⟩
    exact ⟨hdialect, hname, hlevel, hlength, horigins⟩
  · rintro ⟨hdialect, h⟩
    exact ⟨(settings.appName, settings.logLevel, settings.dialect, ⟨settings.stringLength, _⟩, settings.origins),
      ⟨h.appName, h.logLevel, hdialect, h.length, h.origins⟩, rfl⟩

end Sources

end Settings

/-! ### Requests -/

/-- A request that names the dialect of the settings is answered like one that names none. -/
theorem Request.answer_naming {name : String} {settings : Settings} (hname : name ≠ "")
    (hdialect : Sql.Dialect.ofName? name = some settings.dialect) (document : Value) :
    ({ document, dialect := some name } : Request).answer settings = ({ document } : Request).answer settings := by
  have hchosen : ({ document, dialect := some name } : Request).chosenDialect settings = .ok settings.dialect := by
    unfold chosenDialect
    split
    · rfl
    · next hempty => exact absurd (Option.some.inj hempty) hname
    · next hsome =>
      obtain rfl := Option.some.inj hsome
      rw [hdialect]
  rw [answer, answer, hchosen]
  rfl

/-- Settings take the name of a dialect exactly when requests do, unless it is the one that is not shared, and then the
dialect is the same, and so is the answer to every document. -/
theorem configured_iff_requested {sources : Settings.Sources} {name : String}
    (hothers : ∃ settings, Settings.load (sources.naming "mysql") = .ok settings) (hblank : trim name ≠ "") :
    ((∃ settings, Settings.load (sources.naming name) = .ok settings) ↔
      (∃ d, Sql.Dialect.ofName? name = some d) ∧ lower (trim name) ≠ Settings.unshared) ∧
    ∀ settings, Settings.load (sources.naming name) = .ok settings →
      Sql.Dialect.ofName? name = some settings.dialect ∧ ∀ document,
        ({ document, dialect := some name } : Request).answer settings = ({ document } : Request).answer settings := by
  obtain ⟨others, hothers⟩ := hothers
  have hprovide := (Settings.Sources.load_naming_eq_ok_iff.mp hothers).2
  refine ⟨⟨?_, ?_⟩, ?_⟩
  · rintro ⟨settings, hload⟩
    obtain ⟨hname, hshared⟩ := (Settings.readDialect_eq_ok_iff hblank).mp (Settings.Sources.load_naming_eq_ok_iff.mp hload).1
    exact ⟨⟨settings.dialect, hname⟩, hshared⟩
  · rintro ⟨⟨d, hname⟩, hshared⟩
    have hread := (Settings.readDialect_eq_ok_iff hblank).mpr ⟨hname, hshared⟩
    exact ⟨{ others with dialect := d }, Settings.Sources.load_naming_eq_ok_iff.mpr
      ⟨hread, hprovide.appName, hprovide.logLevel, hprovide.length, hprovide.origins⟩⟩
  · intro settings hload
    have hname := ((Settings.readDialect_eq_ok_iff hblank).mp (Settings.Sources.load_naming_eq_ok_iff.mp hload).1).1
    have hne : name ≠ "" := by
      rintro rfl
      exact hblank rfl
    exact ⟨hname, Request.answer_naming hne hname⟩

/-- Capitals, a no-break space and a line feed do not matter. -/
theorem configured_postgres :
    let name := "\u00a0PostgreS\n"
    ((∃ settings, Settings.load (({ environment := [("APP_NAME", "Tables")] } : Settings.Sources).naming name) =
        .ok settings) ↔ (∃ d, Sql.Dialect.ofName? name = some d) ∧ lower (trim name) ≠ Settings.unshared) ∧
      ∀ settings, Settings.load (({ environment := [("APP_NAME", "Tables")] } : Settings.Sources).naming name) =
        .ok settings → Sql.Dialect.ofName? name = some settings.dialect ∧ ∀ document,
          ({ document, dialect := some name } : Request).answer settings =
            ({ document } : Request).answer settings := by
  refine configured_iff_requested ⟨{ appName := "Tables", dialect := .mysql }, ?_⟩ ?_
  · rfl
  · decide

/-- Requests know a dialect by a name that settings refuse. -/
theorem mariadb_not_configured : trim "mariadb" ≠ "" ∧ Sql.Dialect.ofName? "mariadb" = some .mysql ∧
    Settings.load (({} : Settings.Sources).naming "mariadb") =
      .error (.faults [⟨[.name "default_dialect"], .mismatch "^(postgresql|mysql)$"⟩]) :=
  ⟨by decide, rfl, rfl⟩

end ShapeTables
