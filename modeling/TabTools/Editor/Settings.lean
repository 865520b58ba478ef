import TabTools.Assembly.Token
import TabTools.Files.Basic
import TabTools.Json.Basic
import TabTools.Toml.Parser

/-!
# Preferences

The editor tools have two preferences: which classes of tokens should be written in uppercase, and
how much the server tells the client's log. They start from a file and change when the client sends
its configuration.

**From a file.** The file is read as a whole: one value that does not fit makes all of it unusable.
Keys that are not known are passed over, and those that are missing keep their default.

**From a client.** Every preference is looked at on its own: one that is missing or does not fit
keeps its current value, whatever the other is.
-/

namespace TabTools.Editor

/-- How much the server tells the client's log. -/
inductive TraceLevel where
  | off
  | messages
  | verbose
deriving DecidableEq, Repr

namespace TraceLevel

def name : TraceLevel → String
  | .off => "off"
  | .messages => "messages"
  | .verbose => "verbose"

def ofName? : String → Option TraceLevel
  | "off" => some .off
  | "messages" => some .messages
  | "verbose" => some .verbose
  | _ => none

/-- A level in a file: its name, or a table whose one key is the name and leads to nothing. -/
def ofToml? : Toml.Value → Option TraceLevel
  | .text s => ofName? s
  | .table _ [(key, v)] => if v.isEmpty then ofName? key else none
  | _ => none

/-- A level from a client: its name, or an object whose one key is the name and leads to `null`. -/
def ofJson? : Json → Option TraceLevel
  | .str s => ofName? s
  | .obj [(key, .null)] => ofName? key
  | _ => none

end TraceLevel

structure Settings where
  /-- Names of the token classes that should be in uppercase, in any case themselves. -/
  preferUppercase : List String := []
  trace : TraceLevel := .off
deriving DecidableEq, Repr

namespace Settings

/-- Whether tokens of a class should be in uppercase. -/
def prefersUppercase (s : Settings) (tag : Assembly.TokenClass) : Bool :=
  s.preferUppercase.any fun name => name.toList.map Char.toLower == tag.name.toList

/-! ## Files -/

/-- A list of texts in a file. -/
def textsOfToml? : Toml.Value → Option (List String)
  | .array items => items.mapM fun
    | .text s => some s
    | _ => none
  | _ => none

/-- The value of an entry, or the default when there is no such entry. -/
def entry? {α : Type} (entries : Toml.Entries) (key : String) (decode : Toml.Value → Option α)
    (default : α) : Option α :=
  match entries.lookup key with
  | none => some default
  | some v => decode v

def ofToml? (entries : Toml.Entries) : Option Settings := do
  let preferUppercase ← entry? entries "prefer_uppercase" textsOfToml? []
  let trace ← entry? entries "trace" TraceLevel.ofToml? .off
  return { preferUppercase, trace }

/-- The settings in a file, if it can be read and all of it fits. -/
def ofFile? (files : Files.View) (path : String) : Option Settings := do
  let text ← (files.readText path).toOption
  ofToml? (← Toml.parse? text)

/-- Where the settings of a user are. -/
def homePath (home : String) : String := home ++ "/.config/tabasm/settings.toml"

/-- The settings of a user; the defaults when there are none that can be used. -/
def load (files : Files.View) (home : String) : Settings :=
  (ofFile? files (homePath home)).getD {}

/-! ## Client configuration -/

/-- The name of the client's configuration section. -/
def sectionName : String := "tabasm"

/-- The part of a client's configuration that is looked at: the section, or all of it when it has no
such section. -/
def clientSection (payload : Json) : Json := (payload.get? sectionName).getD payload

/-- A list of texts from a client. -/
def textsOfJson? : Json → Option (List String)
  | .arr items => items.mapM Json.str?
  | _ => none

/-- The classes to write in uppercase that a client's configuration gives. -/
def clientUppercase? (payload : Json) : Option (List String) :=
  ((clientSection payload).get? "preferUppercase").bind textsOfJson?

/-- The trace level that a client's configuration gives. -/
def clientTrace? (payload : Json) : Option TraceLevel :=
  (((clientSection payload).get? "trace").bind (Json.get? "server")).bind TraceLevel.ofJson?

/-- Takes over what a client's configuration gives. -/
def applyClient (s : Settings) (payload : Json) : Settings where
  preferUppercase := (clientUppercase? payload).getD s.preferUppercase
  trace := (clientTrace? payload).getD s.trace

end Settings

end TabTools.Editor
