import LightningGateway.FileTree
import LightningGateway.Settings.CommandLine
import LightningGateway.Settings.Stored

/-
  Loading settings from files.

  If the command line names a file, the settings are in it.
  Otherwise they are in the default file; where that cannot be
  opened, it is written with the default settings.  A log level
  on the command line goes before the one of the file and is
  never written.

  Key definitions include:
    * `Scheme`
    * `LoadError`
    * `Scheme.load`
-/

namespace LightningGateway.Settings

open Toml

------------------------------------------------------------
-- Schemes
------------------------------------------------------------

/- A kind of settings, and where they are kept. -/
structure Scheme (σ : Type) where
  -- The default file and its folder, from the working folder.
  file : List String
  folder : List String
  default : σ
  ofToml? : Table → Option σ
  outline : σ → Outline
  -- The settings with another log level.
  withLevel : String → σ → σ

/- The settings of the program. -/
def scheme : Scheme Settings where
  file := ["config", "local.toml"]
  folder := ["config"]
  default := .default
  ofToml? := Settings.ofToml?
  outline := Settings.outline
  withLevel l s := { s with level := some l }

/- The settings of a host. -/
def hostScheme : Scheme HostSettings where
  file := ["config", "settings.toml"]
  folder := ["config"]
  default := .default
  ofToml? := HostSettings.ofToml?
  outline := HostSettings.outline
  withLevel l s := { s with level := some l }

------------------------------------------------------------
-- Errors
------------------------------------------------------------

/- Why there are no settings. -/
inductive LoadError where
  | notFound (f : FileTree.Fault)
  | unreadable (f : FileTree.Fault)
  | unmapped
  | defaultUnreadable (f : FileTree.Fault)
  | defaultUnmapped
  | folderNotMade (f : FileTree.Fault)
  | fileNotMade (f : FileTree.Fault)
  deriving DecidableEq, Repr

/- How an error is reported. -/
def LoadError.message : LoadError → String
  | .notFound f => "Failed to find file: " ++ f.message
  | .unreadable f => "Failed to read config: " ++ f.message
  | .unmapped => "Failed to map config to settings"
  | .defaultUnreadable f =>
      "Failed to read default config: " ++ f.message
  | .defaultUnmapped => "Failed to parse default config"
  | .folderNotMade f =>
      "Failed to create config directory: " ++ f.message
  | .fileNotMade f =>
      "Failed to create config file: " ++ f.message

/- Say what went wrong. -/
def orFail
    {α β : Type}
    (blame : β → LoadError)
    (r : Except β α) : Except LoadError α :=
  r.mapError blame

------------------------------------------------------------
-- Loading
------------------------------------------------------------

namespace Scheme

variable {σ : Type}

/- The settings that a text holds. -/
def read?
    (k : Scheme σ)
    (text : String) : Option σ :=
  (parse? text).bind k.ofToml?

/- The settings in a file that was named. -/
def readNamed
    (k : Scheme σ)
    (work : List String)
    (path : String)
    (t : FileTree) : Except LoadError σ := do
  let node ← orFail .notFound (t.open? work path)
  let text ← orFail .unreadable node.text?
  match k.read? text with
  | some s => .ok s
  | none => .error .unmapped

/- The default file. -/
def openDefault
    (k : Scheme σ)
    (work : List String)
    (t : FileTree) : Except FileTree.Fault FileTree :=
  t.follow [] ((work ++ k.file).map .enter)

/- The settings in the default file. -/
def readDefault
    (k : Scheme σ)
    (node : FileTree) : Except LoadError σ := do
  let text ← orFail .defaultUnreadable node.text?
  match k.read? text with
  | some s => .ok s
  | none => .error .defaultUnmapped

/-
  Write the default file; what was made until then stays if
  that fails.
-/
def writeDefault
    (k : Scheme σ)
    (work : List String)
    (t : FileTree) : Except LoadError σ × FileTree :=
  match t.makeFolders? (work ++ k.folder) with
  | .error f => (.error (.folderNotMade f), t)
  | .ok t =>
      let bytes := Text.Utf8.encode (k.outline k.default).toText
      match t.write? bytes (work ++ k.file) with
      | .error f => (.error (.fileNotMade f), t)
      | .ok t => (.ok k.default, t)

/- The settings of files, and the files afterwards. -/
def loadFile
    (k : Scheme σ)
    (work : List String)
    (path : Option String)
    (t : FileTree) : Except LoadError σ × FileTree :=
  match path with
  | some p => (k.readNamed work p t, t)
  | none =>
      match k.openDefault work t with
      | .ok node => (k.readDefault node, t)
      | .error _ => k.writeDefault work t

/- The settings with the log level of the command line, if given. -/
def override
    (k : Scheme σ)
    (given : CommandLine.Given)
    (s : σ) : σ :=
  match given.level with
  | some l => k.withLevel l s
  | none => s

/- Load settings, and change the files if need be. -/
def load
    (k : Scheme σ)
    (work : List String)
    (given : CommandLine.Given)
    (t : FileTree) : Except LoadError σ × FileTree :=
  let (r, t) := k.loadFile work given.config t
  (r.map (k.override given), t)

end Scheme

end LightningGateway.Settings
