import MangaReader.Backend.Record
import MangaReader.Backend.Script
import MangaReader.Text.Quoted

/-!
# Calls

A call asks the backend for one thing and says what form the answer has.

* `Call`, and one call for everything that a backend can do.
* `Call.result` : what an answer says.
-/

namespace MangaReader.Backend

open Json

/-- Something to ask the backend for, and the form of its answer. -/
structure Call (α : Type) where
  method : Method := .get
  endpoint : Endpoint
  /-- The names and values of the form that is sent, if there is one. -/
  fields : Option (List (String × String)) := none
  answer : Form α

def preview (text : String) : String := String.ofList (text.toList.take 200)

def Body.whole (b : Body) : Except TransportFault String :=
  match b.ending with
  | .complete => .ok b.text
  | .cut => .error .cut
  | .hang => .error .expired

def Answer.failure (a : Answer) : Failure :=
  .http a.status
    (match a.body.whole with
    | .ok text => preview text
    | .error _ => "")

namespace Call

def result {α : Type} (call : Call α) (a : Answer) : Except Failure α :=
  if !a.isSuccess then .error a.failure
  else
    match a.body.whole with
    | .error fault => .error (.transport fault)
    | .ok text =>
      match call.answer.parse text with
      | .ok data => .ok data
      | .error e =>
        .error (.undecodable
          (e.message ++ " (body preview: " ++ Text.Quoted.ofText (preview text) ++ ")") text)

/-! ## Chapters -/

def chapters (manga : Int) : Call ChapterGroups where
  endpoint := .chapters manga
  answer := ChapterGroups.form

def header (manga : Int) : Call MetaRecord where
  endpoint := .header manga
  answer := MetaRecord.shape.form

def manga (manga : Int) : Call MangaRecord where
  endpoint := .manga manga
  answer := MangaRecord.shape.form

def search (keyword site : String) : Call (List SearchHit) where
  endpoint := .search keyword site
  answer := .list SearchHit.shape.form

def history : Call (List MangaRecord) where
  endpoint := .history
  answer := .list MangaRecord.shape.form

def readingFields (manga : Int) (chapter : Option Int) : List (String × String) :=
  ("manga_id", toString manga) ::
    (match chapter with
    | some id => [("chapter_id", toString id)]
    | none => [])

def addHistory (manga : Int) : Call HistoryAck where
  method := .post
  endpoint := .history
  fields := some (readingFields manga none)
  answer := HistoryAck.shape.form

def updateHistory (manga chapter : Int) : Call HistoryAck where
  method := .put
  endpoint := .history
  fields := some (readingFields manga (some chapter))
  answer := HistoryAck.shape.form

def removeHistory (manga : Int) : Call RemovalAck where
  method := .delete
  endpoint := .history
  fields := some (readingFields manga none)
  answer := RemovalAck.shape.form

/-! ## Episodes -/

def episodes (anime : Int) : Call (List EpisodeRecord) where
  endpoint := .episodes anime
  answer := .list EpisodeRecord.shape.form

def episode (episode : Int) : Call VideoRecord where
  endpoint := .episode episode
  answer := VideoRecord.shape.form

def anime (anime : Int) : Call AnimeRecord where
  endpoint := .anime anime
  answer := AnimeRecord.shape.form

def animeHistory : Call (List AnimeRecord) where
  endpoint := .animeHistory
  answer := .list AnimeRecord.shape.form

def watchingFields (anime : Int) (episode : Option Int) : List (String × String) :=
  ("anime_id", toString anime) ::
    (match episode with
    | some id => [("episode_id", toString id)]
    | none => [])

def addAnimeHistory (anime : Int) : Call AnimeHistoryAck where
  method := .post
  endpoint := .animeHistory
  fields := some (watchingFields anime none)
  answer := AnimeHistoryAck.shape.form

def updateAnimeHistory (anime episode : Int) : Call AnimeHistoryAck where
  method := .put
  endpoint := .animeHistory
  fields := some (watchingFields anime (some episode))
  answer := AnimeHistoryAck.shape.form

def removeAnimeHistory (anime : Int) : Call RemovalAck where
  method := .delete
  endpoint := .animeHistory
  fields := some (watchingFields anime none)
  answer := RemovalAck.shape.form

end Call

end MangaReader.Backend
