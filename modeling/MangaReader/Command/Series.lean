import MangaReader.Chapter.Form
import MangaReader.Command.Session
import MangaReader.Library.Form
import MangaReader.Text.Blank

/-!
# Commands on series

* `chapters`, `header`, `lastRead` : what there is of a series, and what of it has been read.
* `search` : series at a site.
-/

namespace MangaReader.Command

open Output

def missingText : String := "-"

def idText (id : Option Int) : String := (id.map toString).getD ""

def orMissing (text : Option String) : String := text.getD missingText

def labelText (r : Option Reference) : String := orMissing (r.map (·.label))

def referenceReport (shape : Json.Shape Reference) (r : Reference) : Report :=
  ⟨shape.form.write r, r.label, idText r.id⟩

def chaptersReport (chapters : List Chapter) : Report :=
  .ofList Chapter.shape.form.write ["Group", "#", "ID", "Title"]
    (fun c => [c.kind.name, toString c.position, toString c.id, c.title]) (fun c => toString c.id)
    chapters

def chapters (o : Options) (manga : Int) (group : Option ChapterKind) : Action Unit := do
  let library ← Action.library o manga
  let index ← Action.ask (.ofSeries manga) (library.chapters manga)
  let found := match group with
    | some kind => index.group kind
    | none => index.toList
  if found.isEmpty then Action.say o ("No chapters for manga " ++ toString manga)
  else Action.report o (chaptersReport found)

def yesNo : Option Bool → String
  | some true => "yes"
  | some false => "no"
  | none => missingText

def headerReport (h : SeriesHeader) : Report where
  value := SeriesHeader.shape.form.write h
  table := "\n".intercalate
    ["ID:           " ++ orMissing (h.mangaId.map toString),
      "Latest:       " ++ labelText h.latestChapter,
      "Updated:      " ++ orMissing h.lastUpdateDate,
      "Finished:     " ++ yesNo h.finished,
      "Thumbnail:    " ++ orMissing h.thumbnail]
  plain := idText h.mangaId

def header (o : Options) (manga : Int) : Action Unit := do
  let library ← Action.library o manga
  let h ← Action.ask (.ofSeries manga) (library.header manga)
  Action.report o (headerReport h)

def lastRead (o : Options) (manga : Int) : Action Unit := do
  let library ← Action.library o manga
  match ← Action.ask (.ofSeries manga) (library.lastRead manga) with
  | none => Action.say o ("Nothing read yet in manga " ++ toString manga)
  | some chapter => Action.report o (referenceReport Reference.chapterShape chapter)

def searchReport (results : List SearchResult) : Report :=
  .ofList SearchResult.shape.form.write ["ID", "Name", "URL"]
    (fun r => [idText r.id, r.name, r.url.getD ""]) (fun r => r.url.getD r.name) results

/-- Searches a site for a keyword, and shows no more than so many results. -/
def search (o : Options) (keyword : String) (site : Site) (limit : Nat) : Action Unit := do
  if (Text.trimmed keyword).isEmpty then Action.refuse (.validation "keyword" "cannot be empty")
  else
    let library ← Action.library o 0
    let results := (← Action.ask .ofRead (library.search keyword site)).take limit
    if results.isEmpty then Action.say o ("No results for '" ++ keyword ++ "'")
    else Action.report o (searchReport results)

end MangaReader.Command
