/-
**Paths.**

A path is made of parts between slashes.  An empty part and a single dot name nothing; two dots name
the folder around the one that was reached.  A log file is named by a path whose last part is a file
name, and it lies in the folder that the path without that part leads to.

Main definitions:

* `TapeMachine.Command.FileProblem` — why a file or folder cannot be used;
* `TapeMachine.Command.beginnings` — the beginnings of a path, as far as they name something;
* `TapeMachine.Command.LogPath`, `TapeMachine.Command.LogPath.read?` — the place of a log file, and
  the one that a path names.
-/

import TapeMachine.Text.Split

set_option relaxedAutoImplicit false
set_option autoImplicit false

namespace TapeMachine.Command

/-- Why a file or folder cannot be used. -/
inductive FileProblem where
  | missing
  | alreadyThere
  | notFolder
  | isFolder
  | nameTooLong
  | notText
  /-- Another problem, in the words of the system. -/
  | other (report : String)
deriving DecidableEq

/-- The report of a file that cannot be used, with the number the system gives it. -/
def FileProblem.message : FileProblem → String
  | missing => "No such file or directory (os error 2)"
  | alreadyThere => "File exists (os error 17)"
  | notFolder => "Not a directory (os error 20)"
  | isFolder => "Is a directory (os error 21)"
  | nameTooLong => "File name too long (os error 36)"
  | notText => "stream did not contain valid UTF-8"
  | other report => report

/-- A part of a path names something. -/
def isName (part : List Char) : Bool := part ≠ [] && part ≠ ['.']

/-- A path is absolute when it begins with a slash. -/
def isAbsolute (path : List Char) : Bool := path.head? = some '/'

/-- The beginnings of a path that end with a part that names something, each with that part, the
shortest first; `before` is what precedes the parts. -/
def beginningsFrom (before : List Char) : List (List Char) → List (List Char × List Char)
  | [] => []
  | part :: rest =>
    let path := before ++ part
    if isName part then (path, part) :: beginningsFrom (path ++ ['/']) rest
    else beginningsFrom (path ++ ['/']) rest

/-- The beginnings of a path that end with a part that names something, each with that part, the
shortest first. -/
def beginnings (path : List Char) : List (List Char × List Char) :=
  beginningsFrom [] (Text.split '/' path)

/-- The place of a log file. -/
structure LogPath where
  /-- The folder in which the path begins: the root, or the one that is worked in. -/
  base : String
  /-- The folder of the file and the folders that lead to it, as paths, the nearest first; the
  folder in which the path begins is not among them. -/
  folders : List String
  /-- The name of the file. -/
  name : String
deriving DecidableEq

namespace LogPath

/-- The place of the log file that a path names; a path without a name in it, or one that ends with
two dots, names none. -/
def read? (path : String) : Option LogPath :=
  match (beginnings path.toList).reverse with
  | [] => none
  | (_, name) :: folders =>
    if name = ['.', '.'] then none
    else
      some
        { base := if isAbsolute path.toList then "/" else "."
          folders := folders.map fun (folder, _) => String.ofList folder
          name := String.ofList name }

/-- The path of the file. -/
def path (l : LogPath) : String :=
  match l.folders with
  | folder :: _ => folder ++ "/" ++ l.name
  | [] => if l.base = "/" then l.base ++ l.name else l.base ++ "/" ++ l.name

/-- The report of a path that names no file. -/
def problem (path : String) : String := s!"log path has no UTF-8 file name: {path}"

end LogPath

end TapeMachine.Command
