import ShapeTables.CommandLine.Run
import ShapeTables.Proofs.FileChanges

/-! Runs of the command line are all or nothing. A run that succeeds delivers the text of its compiled document, either
on the standard output or in one file, and says nothing on the error output. Every other run leaves the standard output
empty and all files as they were; all that it can leave behind is directories. A text is made of characters, and a lone
surrogate in a document is read as the replacement character, so a text can always be encoded; an output whose encoding
has no place for some characters is not modelled. -/
namespace ShapeTables.CommandLine

open Files (Kept KeptAt)

/-- A run loads its document, has settings, and compiles the document to what has this text. -/
structure Renders (w : World) (args : Arguments) (c : Compiled) (text : String) : Prop where
  exists_answer : ∃ document settings, load w.read (.ofText args.document) = .ok document ∧ w.settings = .ok settings ∧
    ({ document, dialect := args.dialect } : Request).answer settings = .ok c
  render_eq : (SqlResult.ofCompiled c).render args.tables = some text

/-- What becomes of the text of a compiled document. Without a file to write it to it is printed, and no file changes;
else it is in that file, no other file changes, and a line about it is printed. -/
def Delivers (files : Files) (c : Compiled) (text : String) (e : Ending) : Option String → Prop
  | none => e.out = text ∧ e.files = files
  | some output => e.out = notice c (.ofText output) ∧
    ∃ place, e.files.find (.ofText output) = .file place text.toUTF8 ∧ ∀ other ≠ place, KeptAt files e.files other

variable {w : World} {args : Arguments} {files : Files} {c : Compiled} {text : String}

/-- A run comes to a text to deliver, to a message, or down. -/
theorem run_cases (w : World) (args : Arguments) :
    (∃ c text, Renders w args c text ∧ run w args = deliver args c) ∨ (∃ why, run w args = .failed why) ∨
      ∃ cause, run w args = .crashed cause := by
  unfold run
  cases hload : load w.read (.ofText args.document) with
  | error e =>
    cases e with
    | refused reason => exact .inr (.inl ⟨_, rfl⟩)
    | broken cause => exact .inr (.inr ⟨_, rfl⟩)
  | ok document =>
    cases hsettings : w.settings with
    | error cause => exact .inr (.inr ⟨_, rfl⟩)
    | ok settings =>
      dsimp only
      rcases hanswer : ({ document, dialect := args.dialect } : Request).answer settings with
        (dialect | (problems | cause)) | c
      · exact .inr (.inl ⟨_, rfl⟩)
      · exact .inr (.inl ⟨_, rfl⟩)
      · exact .inr (.inr ⟨_, rfl⟩)
      · cases hrender : (SqlResult.ofCompiled c).render args.tables with
        | none => exact .inr (.inr ⟨.longInteger, by simp [deliver, hrender]⟩)
        | some text => exact .inl ⟨c, text, ⟨⟨document, settings, hload, hsettings, hanswer⟩, hrender⟩, rfl⟩

/-- Delivering a text succeeds, or stops before the file is written. -/
theorem ending_deliver (files : Files) (hrender : (SqlResult.ofCompiled c).render args.tables = some text) :
    let e := (deliver args c).ending files
    (e.exit = .ok 0 ∧ e.err = "" ∧ Delivers files c text e args.output) ∨
      (∃ cause, e.exit = .error cause) ∧ e.out = "" ∧ Kept files e.files := by
  simp only [deliver, hrender]
  cases args.output with
  | none => exact .inl ⟨rfl, rfl, rfl, rfl⟩
  | some output =>
    simp only [Outcome.ending]
    cases hfault : (files.write (.ofText output) text.toUTF8).fault with
    | none => exact .inl ⟨rfl, rfl, rfl, Files.find_write hfault⟩
    | some fault => exact .inr ⟨⟨_, rfl⟩, rfl, Files.write_kept (Option.ne_none_iff_exists'.mpr ⟨fault, hfault⟩)⟩

end ShapeTables.CommandLine
