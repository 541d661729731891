import ShapeTables.Compile
import ShapeTables.Flat.Record
import ShapeTables.Json.Printer
import ShapeTables.Report
import ShapeTables.Value.Writable

/-! Results of compilations. A compilation yields tables, or statements for them, or reports that say why there
are none; there is never both, and reports are never none. A result is shown as the text of its statements or
as the JSON text of its tables. -/
namespace ShapeTables

open Flat (ResolvedTable)

/-- Reports that say why there is no result. -/
abbrev Reports := { reports : List Report // reports ≠ [] }

inductive TableResult where
  | tables (tables : List ResolvedTable)
  | failed (reports : Reports)

/-- What there is besides the statements of a result. -/
structure SqlResult where
  dialect : Option String
  tables : Option (List ResolvedTable)
  statements : Except Reports (List String)

def tablesValue (tables : Option (List ResolvedTable)) : Value :=
  (tables.map fun tables => Value.list (tables.map ResolvedTable.toValue)).getD .null

def reportsValue (reports : Option (List Report)) : Value :=
  (reports.map fun reports => Value.list (reports.map Report.toValue)).getD .null

namespace TableResult

def reports? : TableResult → Option (List Report)
  | .tables _ => none
  | .failed reports => some reports.1

def tables? : TableResult → Option (List ResolvedTable)
  | .tables found => some found
  | .failed _ => none

def isSuccess (r : TableResult) : Bool := r.reports?.isNone

def toValue (r : TableResult) : Value :=
  .object [("errors", reportsValue r.reports?), ("tables", tablesValue r.tables?)]

end TableResult

namespace SqlResult

def reports? (r : SqlResult) : Option (List Report) :=
  match r.statements with
  | .ok _ => none
  | .error reports => some reports.1

def statements? (r : SqlResult) : Option (List String) := r.statements.toOption

def isSuccess (r : SqlResult) : Bool := r.reports?.isNone

def toValue (r : SqlResult) : Value :=
  .object [("errors", reportsValue r.reports?), ("dialect", Flat.optionalText r.dialect),
    ("statements", (r.statements?.map Value.texts).getD .null), ("tables", tablesValue r.tables)]

/-- The statements with a blank line between them, or the tables as JSON; nothing stands for what a result
does not have. There is no text of tables with an integer that cannot be written. -/
def render (r : SqlResult) (asTables : Bool) : Option String :=
  if asTables then
    let tables := Value.list ((r.tables.getD []).map ResolvedTable.toValue)
    if tables.isWritable then some (Json.render tables ++ "\n") else none
  else some ("\n\n".intercalate (r.statements?.getD []) ++ "\n")

/-- The result of a compilation that succeeded. -/
def ofCompiled (c : Compiled) : SqlResult := ⟨some c.dialect.name, some c.tables, .ok c.statements⟩

end SqlResult

/-! ### Reading -/

namespace Reading

/-- Reports, of which there must be one. -/
def nonempty (reports : List Report) : Reading Reports :=
  if h : reports ≠ [] then .ok ⟨reports, h⟩ else fault (.brokenRule "errors must not be empty when present")

def readReports (members : List (Scalar × Value)) : Reading (Option (List Report)) :=
  optional members "errors" none (nullable (list Report.read))

def tableList (members : List (Scalar × Value)) : Reading (Option (List ResolvedTable)) :=
  optional members "tables" none (nullable Flat.readResolvedTables)

end Reading

open Reading

def TableResult.read (members : List (Scalar × Value)) : Reading TableResult :=
  (both (readReports members) (tableList members)).bind fun
    | (none, some found) => .ok (.tables found)
    | (some reports, none) => (nonempty reports).map .failed
    | _ => fault (.brokenRule "A compile result carries either tables or errors")

def SqlResult.read (members : List (Scalar × Value)) : Reading SqlResult :=
  (both (readReports members) (both (optional members "dialect" none (nullable text))
    (both (optional members "statements" none (nullable (list text))) (tableList members)))).bind fun
    | (none, dialect, some statements, tables) => .ok ⟨dialect, tables, .ok statements⟩
    | (some reports, dialect, none, tables) =>
      (nonempty reports).map fun reports => ⟨dialect, tables, .error reports⟩
    | _ => fault (.brokenRule "A SQL result carries either statements or errors")

end ShapeTables
