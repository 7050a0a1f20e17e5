import LightningGateway.Text.Pieces
import LightningGateway.Text.Utf8

/-
  A tree of files and folders.

  A path is followed one step at a time; each step, also one
  that stays, needs a folder to start from.  Going up from the
  root stays at the root.

  There are no access rights: whoever can enter the folders on
  the way may read and write every file.  So a file that can be
  written but not read is not described.

  Key definitions include:
    * `FileTree`
    * `FileTree.Fault`
    * `FileTree.open?`
    * `FileTree.makeFolders?`
    * `FileTree.write?`
-/

namespace LightningGateway

------------------------------------------------------------
-- Trees
------------------------------------------------------------

/- A file with its bytes, or a folder with its named entries. -/
inductive FileTree where
  | file (bytes : List UInt8)
  | folder (entries : List (String × FileTree))

namespace FileTree

/- A folder without entries. -/
def empty : FileTree := .folder []

/- Why a file cannot be used. -/
inductive Fault where
  | missing
  | present
  | notFolder
  | isFolder
  | longName
  | nulInPath
  | notText
  deriving DecidableEq, Repr

/- How a fault is reported. -/
def Fault.message : Fault → String
  | .missing => "No such file or directory (os error 2)"
  | .present => "File exists (os error 17)"
  | .notFolder => "Not a directory (os error 20)"
  | .isFolder => "Is a directory (os error 21)"
  | .longName => "File name too long (os error 36)"
  | .nulInPath =>
      "file name contained an unexpected NUL byte"
  | .notText => "stream did not contain valid UTF-8"

------------------------------------------------------------
-- Paths
------------------------------------------------------------

/- One step along a path. -/
inductive Step where
  | stay
  | up
  | enter (name : String)
  deriving DecidableEq, Repr

/- The step that a part of a path stands for. -/
def Step.ofPart (part : String) : Step :=
  if part = "" ∨ part = "." then .stay
  else if part = ".." then .up
  else .enter part

/- The steps of a path, which has slashes between its parts. -/
def steps (path : String) : List Step :=
  (Text.splitAll (· == '/') path.toList).map fun p =>
    .ofPart (String.ofList p)

/- Whether a path starts at the root. -/
def isAbsolute (path : String) : Bool :=
  path.toList.head? = some '/'

/- The number of bytes that a name has at most. -/
def nameLimit : Nat := 255

/- The number of bytes that a path has at most. -/
def pathLimit : Nat := 4095

/-
  Follow steps from a place in the tree, of which the folders
  around it are known, the innermost first.
-/
def follow
    (around : List FileTree)
    (here : FileTree) : List Step → Except Fault FileTree
  | [] => .ok here
  | s :: rest =>
      match here with
      | .file _ => .error .notFolder
      | .folder entries =>
          match s with
          | .stay => follow around here rest
          | .up =>
              match around with
              | [] => follow [] here rest
              | outer :: around => follow around outer rest
          | .enter name =>
              if name.utf8ByteSize > nameLimit then
                .error .longName
              else
                match entries.lookup name with
                | none => .error .missing
                | some t => follow (here :: around) t rest

/- The path from the root, given one from a working folder. -/
def fromRoot
    (work : List String)
    (path : String) : String :=
  if isAbsolute path then path
  else
    String.join (work.map fun name => "/" ++ name) ++ "/" ++ path

/- What a path leads to, from a working folder. -/
def open?
    (work : List String)
    (path : String)
    (t : FileTree) : Except Fault FileTree :=
  let path := fromRoot work path
  if path.toList.contains '\x00' then .error .nulInPath
  else if path.utf8ByteSize > pathLimit then .error .longName
  else follow [] t (steps path)

/- The text of a file. -/
def text? : FileTree → Except Fault String
  | .folder _ => .error .isFolder
  | .file bytes =>
      match Text.Utf8.decode? bytes with
      | .ok s => .ok s
      | .error _ => .error .notText

------------------------------------------------------------
-- Changes
------------------------------------------------------------

/- Give a name in a list of entries its meaning. -/
def put
    (name : String)
    (t : FileTree) :
    List (String × FileTree) → List (String × FileTree)
  | [] => [(name, t)]
  | (k, u) :: rest =>
      if k = name then (name, t) :: rest
      else (k, u) :: put name t rest

/- Make all folders along a list of names that are not there. -/
def makeFolders? :
    List String → FileTree → Except Fault FileTree
  | _, .file _ => .error .notFolder
  | [], .folder entries => .ok (.folder entries)
  | name :: rest, .folder entries =>
      match entries.lookup name with
      | none =>
          (makeFolders? rest empty).map fun t =>
            .folder (put name t entries)
      | some (.file _) =>
          if rest.isEmpty then .error .present
          else .error .notFolder
      | some (.folder inner) =>
          (makeFolders? rest (.folder inner)).map fun t =>
            .folder (put name t entries)

/- Write a file, in a folder that is there. -/
def write?
    (bytes : List UInt8) :
    List String → FileTree → Except Fault FileTree
  | _, .file _ => .error .notFolder
  | [], .folder _ => .error .isFolder
  | [name], .folder entries =>
      match entries.lookup name with
      | some (.folder _) => .error .isFolder
      | _ => .ok (.folder (put name (.file bytes) entries))
  | name :: rest, .folder entries =>
      match entries.lookup name with
      | none => .error .missing
      | some t =>
          (write? bytes rest t).map fun t =>
            .folder (put name t entries)

end FileTree

end LightningGateway
