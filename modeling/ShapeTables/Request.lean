import ShapeTables.Compile
import ShapeTables.Settings.Basic

/-! Requests. A request has a document and may name a dialect; if it does not, the settings say which one to
use. The dialect is looked at before the document. -/
namespace ShapeTables

structure Request where
  document : Value
  dialect : Option String := none

/-- Why a request has no compiled document. -/
inductive RequestError where
  | unsupported (dialect : String)
  | halted (cause : Halt)

namespace Request

/-- The dialect to use; an empty name names none. -/
def chosenDialect (r : Request) (settings : Settings) : Except String Sql.Dialect :=
  match r.dialect with
  | none | some "" => .ok settings.dialect
  | some name => match Sql.Dialect.ofName? name with
    | some d => .ok d
    | none => .error name

def answer (r : Request) (settings : Settings) : Except RequestError Compiled :=
  match r.chosenDialect settings with
  | .error name => .error (.unsupported name)
  | .ok d => match generateSql (settings.style d) r.document with
    | .ok compiled => .ok compiled
    | .error cause => .error (.halted cause)

end Request

end ShapeTables
