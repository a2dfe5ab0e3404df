import MangaReader.Command.Shows

/-!
# Commands on the histories

* `history` : lists the reading or the watching history, adds to it or removes from it.
-/

namespace MangaReader.Command

open Output

def seriesReport (entries : List SeriesSummary) : Report :=
  .ofList SeriesSummary.shape.form.write ["ID", "Name", "Last read", "Latest", "Updated", "Fav"]
    (fun s =>
      [idText s.id, s.name, labelText s.lastReadChapter, labelText s.latestChapter,
        dateText s.lastUpdate, if s.isFavourite then "★" else ""])
    (fun s => idText s.id) entries

/-- The season of a show, as far as it is known. -/
def seasonText (s : ShowSummary) : String :=
  match s.year, s.season with
  | some year, some season => year ++ " " ++ season
  | some only, none | none, some only => only
  | none, none => missingText

def showsReport (entries : List ShowSummary) : Report :=
  .ofList ShowSummary.shape.form.write ["ID", "Name", "Season", "Last watched", "Added"]
    (fun s => [idText s.id, s.name, seasonText s, labelText s.lastWatched, dateText s.lastAdded])
    (fun s => idText s.id) entries

/-- The name of something in a history, for a sentence. -/
def Medium.title : Medium → String
  | .manga => "manga"
  | .anime => "anime"

def Medium.heading : Medium → String
  | .manga => "Manga"
  | .anime => "Anime"

def Medium.ledger : Medium → String
  | .manga => "history"
  | .anime => "watch history"

def Medium.listCommand : Medium → String
  | .manga => "history list"
  | .anime => "history list --anime"

def Medium.failure (medium : Medium) (id : Int) (e : ReadError) : CommandError :=
  .ofLookup medium.title medium.listCommand id e

/-- The series that a reader would read that serves a history. -/
def Medium.readerId : Medium → Int → Int
  | .manga, id => id
  | .anime, _ => 0

/-- Goes on only if a question need not be asked, as there is no one to answer it. -/
def confirm (o : Options) (question : String) : Action Unit :=
  if o.yes then return () else Action.refuse (.confirmation question)

def listHistory (o : Options) : Medium → Action Unit
  | .manga => do
    let library ← Action.library o 0
    let entries ← Action.ask .ofRead library.history
    if entries.isEmpty then Action.say o "Reading history is empty"
    else Action.report o (seriesReport entries)
  | .anime => do
    let library ← Action.library o 0
    let entries ← Action.ask .ofRead library.animeHistory
    if entries.isEmpty then Action.say o "Watch history is empty"
    else Action.report o (showsReport entries)

def addToHistory (o : Options) (medium : Medium) (id : Int) : Action Unit := do
  let library ← Action.library o (medium.readerId id)
  Action.ask (medium.failure id) (match medium with
    | .manga => library.addToHistory id
    | .anime => library.addToAnimeHistory id)
  Action.say o (medium.heading ++ " " ++ toString id ++ " added to " ++ medium.ledger)

def removeFromHistory (o : Options) (medium : Medium) (id : Int) : Action Unit := do
  confirm o ("Remove " ++ medium.title ++ " " ++ toString id ++ " from " ++ medium.ledger ++ "?")
  let library ← Action.library o (medium.readerId id)
  let removed ← Action.ask (medium.failure id) (match medium with
    | .manga => library.removeFromHistory id
    | .anime => library.removeFromAnimeHistory id)
  if removed then
    Action.say o (medium.heading ++ " " ++ toString id ++ " removed from " ++ medium.ledger)
  else
    Action.refuse (.notFound (medium.ledger ++ " entry") (toString id) medium.listCommand)

def history (o : Options) (medium : Medium) : HistoryRequest → Action Unit
  | .list => listHistory o medium
  | .add id => addToHistory o medium id
  | .remove id => removeFromHistory o medium id

end MangaReader.Command
