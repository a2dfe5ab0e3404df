import MangaReader.Command.Grammar
import MangaReader.Command.Options

/-!
# What a command line asks for

* `Request` : everything that can be asked for.
* `Request.ofLine` : what a command line asks for.
-/

namespace MangaReader.Command

open Arguments

inductive Medium where
  | manga
  | anime
  deriving DecidableEq, Repr

inductive HistoryRequest where
  | list
  | add (id : Int)
  | remove (id : Int)
  deriving DecidableEq, Repr

inductive SettingsRequest where
  | create
  | view
  | assign (key value : String)
  | profiles
  | use (name : String)
  | keepCookie
  deriving DecidableEq, Repr

structure ReadingRequest where
  manga : Int
  group : ChapterKind := .chapter
  position : Nat := 0
  /-- How many chapters are read after the first. -/
  follow : Nat := 0
  /-- Whether the reading history is left as it is. -/
  withoutHistory : Bool := false
  deriving DecidableEq, Repr

structure WatchingRequest where
  anime : Int
  position : Nat := 0
  /-- Whether the episode after the last one is meant, in place of a position. -/
  next : Bool := false
  /-- Whether the watching history is left as it is. -/
  withoutHistory : Bool := false
  deriving DecidableEq, Repr

inductive Request where
  | chapters (manga : Int) (group : Option ChapterKind)
  | read (r : ReadingRequest)
  | header (manga : Int)
  | lastRead (manga : Int)
  | episodes (anime : Int)
  | watch (r : WatchingRequest)
  | lastWatched (anime : Int)
  | history (medium : Medium) (r : HistoryRequest)
  | search (keyword : String) (site : Site) (limit : Nat)
  | settings (r : SettingsRequest)
  | completions
  deriving DecidableEq, Repr

namespace Request

def groupOf (name : String) : Option ChapterKind :=
  match name with
  | "chapter" => some .chapter
  | "volume" => some .volume
  | "misc" => some .misc
  | _ => none

def historyOf (line : Line) (command : String) : HistoryRequest :=
  let id := (line.integer? "id").getD 0
  match command with
  | "add" => .add id
  | "remove" => .remove id
  | _ => .list

def settingsOf (line : Line) (command : String) : SettingsRequest :=
  let text (name : String) : String := (line.get? name).getD ""
  match command with
  | "init" => .create
  | "set" => .assign (text "key") (text "value")
  | "profiles" => .profiles
  | "use" => .use (text "name")
  | "set-cookie" => .keepCookie
  | _ => .view

/-- What a command line asks for. Values that it does not give have their defaults; those that may
not be missing are there. -/
def ofLine (line : Line) : Request :=
  let id := (line.integer? "id").getD 0
  let position := (line.natural? "position").getD 0
  let group := (line.get? "group").bind groupOf
  let withoutHistory := line.isTrue "no-history"
  let below := (line.path.drop 2).headD ""
  match (line.path.drop 1).headD "" with
  | "chapters" => .chapters id group
  | "read" =>
    .read {
      manga := id, group := group.getD .chapter, position
      follow := (line.natural? "follow").getD 0, withoutHistory }
  | "meta" => .header id
  | "last-read" => .lastRead id
  | "episodes" => .episodes id
  | "watch" => .watch { anime := id, position, next := line.isTrue "next", withoutHistory }
  | "last-watched" => .lastWatched id
  | "history" => .history (if line.isTrue "anime" then .anime else .manga) (historyOf line below)
  | "search" =>
    .search ((line.get? "keyword").getD "") (((line.get? "site").bind Site.ofName?).getD .manhuaren)
      ((line.natural? "limit").getD 5)
  | "config" => .settings (settingsOf line below)
  | _ => .completions

end Request

end MangaReader.Command
