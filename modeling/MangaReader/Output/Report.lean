import MangaReader.Output.Table
import MangaReader.Output.Yaml

/-!
# Results as text

* `OutputForm` : how results are written.
* `Report`, `Report.text` : a result, and its text in a form.
* `Report.ofList` : the report of results of one kind.
-/

namespace MangaReader.Output

inductive OutputForm where
  | table
  | json
  | compactJson
  | yaml
  | plain
  deriving DecidableEq, Repr

/-- A result: as data, for a reader, and as the least that names it. -/
structure Report where
  value : Json.Value
  table : String
  plain : String

namespace Report

def text (r : Report) : OutputForm → String
  | .table => r.table
  | .json => r.value.pretty
  | .compactJson => r.value.compact
  | .yaml => Yaml.document r.value
  | .plain => r.plain

/-- The report of results of one kind: a table with a row for each, and a line for each. -/
def ofList {α : Type} (value : α → Json.Value) (head : List String) (row : α → List String)
    (plain : α → String) (results : List α) : Report where
  value := .array (results.map value)
  table := Table.draw head (results.map row)
  plain := "\n".intercalate (results.map plain)

end Report

end MangaReader.Output
