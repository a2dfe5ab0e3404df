import MangaReader.Arguments.Grammar
import MangaReader.Chapter.Index
import MangaReader.Library.Series

/-!
# The commands of the program

* `programGrammar` : all commands with what they take.
-/

namespace MangaReader.Command

open Arguments

def outputNames : List String := ["table", "json", "json-compact", "yaml", "plain"]

def colorNames : List String := ["auto", "always", "never"]

def groupNames : List String := ["chapter", "volume", "misc"]

def shellNames : List String := ["bash", "elvish", "fish", "powershell", "zsh"]

def valued (long : String) (kind : Kind) (short : Option Char) (fallback : Option String) :
    Parameter :=
  { long, short, effect := .value kind, fallback }

def marked (long : String) (short : Option Char) : Parameter :=
  { long, short, effect := .mark false }

def sharedParameters : List Parameter :=
  [valued "profile" .text (some 'p') (some "MANGAVIEW_PROFILE"),
    valued "server" .text (some 's') (some "MANGAVIEW_SERVER"),
    valued "session-cookie" .text none (some "MANGAVIEW_SESSION_COOKIE"),
    valued "output" (.choice outputNames) (some 'o') (some "MANGAVIEW_OUTPUT"),
    valued "color" (.choice colorNames) none none,
    { marked "verbose" (some 'v') with effect := .mark true },
    marked "quiet" (some 'q'),
    marked "yes" (some 'y'),
    { marked "insecure" (some 'k') with fallback := some "MANGAVIEW_INSECURE" },
    valued "timeout" .natural none (some "MANGAVIEW_TIMEOUT"),
    valued "stream-timeout" .natural none (some "MANGAVIEW_STREAM_TIMEOUT"),
    { long := "help", short := some 'h', effect := .help },
    { long := "version", short := some 'V', effect := .version }]

def idPositional : Positional := ⟨"id", .integer⟩

def groupParameter : Parameter := valued "group" (.choice groupNames) (some 'g') none

def historyCommands : List Grammar :=
  [{ names := ["list", "ls"] },
    { names := ["add"], positionals := [idPositional] },
    { names := ["remove", "rm"], positionals := [idPositional] }]

def settingsCommands : List Grammar :=
  [{ names := ["init"] },
    { names := ["show"] },
    { names := ["set"], positionals := [⟨"key", .text⟩, ⟨"value", .text⟩] },
    { names := ["profiles"] },
    { names := ["use"], positionals := [⟨"name", .text⟩] },
    { names := ["set-cookie"], parameters := [valued "profile" .text none none] }]

def programGrammar : Grammar :=
  { names := ["mangaview"]
    shared := sharedParameters
    commands :=
      [{ names := ["chapters", "ls"], positionals := [idPositional],
         parameters := [groupParameter] },
        { names := ["read"]
          positionals := [idPositional]
          parameters := [groupParameter, valued "position" .natural none none,
            valued "follow" .natural (some 'f') none, marked "no-history" none] },
        { names := ["meta"], positionals := [idPositional] },
        { names := ["last-read"], positionals := [idPositional] },
        { names := ["episodes", "eps"], positionals := [idPositional] },
        { names := ["watch"]
          positionals := [idPositional]
          parameters := [{ valued "position" .natural none none with excludes := ["next"] },
            marked "next" (some 'n'), marked "no-history" none] },
        { names := ["last-watched"], positionals := [idPositional] },
        { names := ["history", "hist"], shared := [marked "anime" (some 'a')],
          commands := historyCommands },
        { names := ["search"]
          positionals := [⟨"keyword", .text⟩]
          parameters := [valued "site" (.choice (Site.all.map Site.name)) none none,
            valued "limit" .natural (some 'l') none] },
        { names := ["config"], commands := settingsCommands },
        { names := ["completions"], positionals := [⟨"shell", .choice shellNames⟩] }] }

end MangaReader.Command
