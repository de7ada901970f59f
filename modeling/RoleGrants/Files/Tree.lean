import RoleGrants.Files.OsError
import RoleGrants.Files.PathName
import RoleGrants.Files.Place
import RoleGrants.Sorted
import RoleGrants.Table

/-! # Files and folders

The files are kept under their places.  A path is followed piece by piece, and
each piece but the last must be a folder; a slash at the end asks for a folder
too.  A file that may not be written keeps that mark when it is copied, and it
can be removed or replaced. -/

set_option autoImplicit false

namespace RoleGrants

inductive Node where
  | folder
  | file (text : String) (readOnly : Bool)
  deriving DecidableEq, Repr, Inhabited

structure Files where
  nodes : Table Node := Table.empty
  working : Place := .root

namespace Files

def at? (files : Files) (place : Place) : Option Node :=
  if place = .root then some .folder else files.nodes.get? place.key

def put (files : Files) (place : Place) (node : Node) : Files :=
  { files with nodes := files.nodes.insert place.key node }

def drop (files : Files) (place : Place) : Files :=
  { files with nodes := files.nodes.erase place.key }

def enter (files : Files) (place : Place) : Except OsError Unit :=
  match files.at? place with
  | none => .error .notFound
  | some (.file _ _) => .error .notFolder
  | some .folder => .ok ()

def nameFits (name : String) : Bool :=
  name.utf8ByteSize ≤ 255

/-- The pieces of a path as they are followed, among them every single dot. -/
def steps (path : PathName) : List PathName.Piece :=
  (Text.pieces '/' path).filterMap fun piece =>
    if piece = "" then none
    else if piece = "." then some .here
    else if piece = ".." then some .up
    else some (.name piece)

def endsInSlash (path : PathName) : Bool :=
  path.toList.getLast? = some '/'

def start (files : Files) (path : PathName) : Place :=
  if path.isAbsolute then .root else files.working

def follow (files : Files) : Place → List PathName.Piece → Except OsError Place
  | place, [] => .ok place
  | place, piece :: rest =>
      match files.enter place with
      | .error refusal => .error refusal
      | .ok () =>
          match piece with
          | .root | .here => follow files place rest
          | .up => follow files place.above rest
          | .name name =>
              if nameFits name then follow files (place.child name) rest
              else .error .nameTooLong

/-- The bytes of a path, with the one that ends it, have room for so many. -/
def longestPath : Nat := 4096

def checked (path : PathName) : Except OsError PathName :=
  if path.toList.contains (Char.ofNat 0) then .error .nullInName
  else if path = "" then .error .notFound
  else if longestPath ≤ path.utf8ByteSize then .error .nameTooLong
  else .ok path

/-- The place that a path leads to, whether or not something is there. -/
def locate (files : Files) (path : PathName) : Except OsError Place := do
  let path ← checked path
  let place ← files.follow (files.start path) (steps path)
  if endsInSlash path then files.enter place
  .ok place

def status (files : Files) (path : PathName) : Except OsError Node := do
  let place ← files.locate path
  match files.at? place with
  | some node => .ok node
  | none => .error .notFound

def isFolder (files : Files) (path : PathName) : Bool :=
  match files.status path with
  | .ok .folder => true
  | _ => false

def target (files : Files) (path : PathName) :
    Except OsError (Place × Option PathName.Piece) := do
  let path ← checked path
  let pieces := steps path
  let folder ← files.follow (files.start path) pieces.dropLast
  files.enter folder
  match pieces.getLast? with
  | some (.name name) =>
      if nameFits name then .ok (folder, some (.name name)) else .error .nameTooLong
  | last => .ok (folder, last)

def readText (files : Files) (path : PathName) : Except OsError String := do
  match ← files.status path with
  | .folder => .error .isFolder
  | .file text _ => .ok text

/-- Writes a file whole; one that is there keeps its mark. -/
def writeText (files : Files) (path : PathName) (text : String) : Except OsError Files := do
  match ← files.target path with
  | (folder, some (.name name)) =>
      let place := folder.child name
      match files.at? place with
      | some .folder => .error .isFolder
      | some (.file _ readOnly) =>
          if endsInSlash path then .error .notFolder
          else .ok (files.put place (.file text readOnly))
      | none =>
          if endsInSlash path then .error .isFolder
          else .ok (files.put place (.file text false))
  | _ => .error .isFolder

def makeFolder (files : Files) (path : PathName) : Except OsError Files := do
  match ← files.target path with
  | (folder, some (.name name)) =>
      let place := folder.child name
      match files.at? place with
      | some _ => .error .fileExists
      | none => .ok (files.put place .folder)
  | _ => .error .fileExists

/-- A folder that was to be made and is there already will do. -/
def settleFolder (files : Files) (path : PathName) (refusal : OsError) :
    Files × Except OsError Unit :=
  (files, if files.isFolder path then .ok () else .error refusal)

def makeFolders : Nat → Files → PathName → Files × Except OsError Unit
  | 0, files, _ => (files, .error .noTree)
  | fuel + 1, files, path =>
      if path = "" then (files, .ok ())
      else
        match files.makeFolder path with
        | .ok made => (made, .ok ())
        | .error .notFound =>
            match path.parent? with
            | none => (files, .error .noTree)
            | some parent =>
                match makeFolders fuel files parent with
                | (above, .error refusal) => (above, .error refusal)
                | (above, .ok ()) =>
                    match above.makeFolder path with
                    | .ok made => (made, .ok ())
                    | .error refusal => above.settleFolder path refusal
        | .error refusal => files.settleFolder path refusal

def createFolders (files : Files) (path : PathName) : Files × Except OsError Unit :=
  makeFolders (path.length + 1) files path

def removeFile (files : Files) (path : PathName) : Except OsError Files := do
  match ← files.target path with
  | (folder, some (.name name)) =>
      let place := folder.child name
      match files.at? place with
      | none => .error .notFound
      | some .folder => .error .isFolder
      | some (.file _ _) =>
          if endsInSlash path then .error .notFolder else .ok (files.drop place)
  | _ => .error .isFolder

def copyFile (files : Files) (source destination : PathName) : Except OsError Files := do
  match ← files.status source with
  | .folder => .error .notRegularFile
  | .file text readOnly =>
      let written ← files.writeText destination text
      let place ← written.locate destination
      .ok (written.put place (.file text readOnly))

/-- Where a file may be put in one move; a folder is never replaced by a file. -/
def landing (files : Files) (path : PathName) : Except OsError Place := do
  match ← files.target path with
  | (folder, some (.name name)) =>
      let place := folder.child name
      if endsInSlash path then .error .notFolder
      else
        match files.at? place with
        | some .folder => .error .isFolder
        | _ => .ok place
  | _ => .error .busy

def moveFile (files : Files) (place : Place) (path : PathName) : Except OsError Files :=
  match files.at? place with
  | some (.file text readOnly) =>
      match files.landing path with
      | .ok destination => .ok ((files.drop place).put destination (.file text readOnly))
      | .error refusal => .error refusal
  | _ => .error .notFound

def names (files : Files) (path : PathName) : Except OsError (List String) := do
  let place ← files.locate path
  files.enter place
  let above := place.key ++ "/"
  .ok (ascending (files.nodes.rows.filterMap fun row =>
    if Text.startsWith row.1 above then
      let rest := (row.1.toList.drop above.length)
      if rest.contains '/' then none else some (String.ofList rest)
    else none))

/-- A name that no entry of a folder has. -/
def freshName (files : Files) (folder : Place) : String :=
  let size := files.nodes.size
  let candidates := (List.range (size + 1)).map fun number => ".staged" ++ toString number
  (candidates.find? fun name => (files.at? (folder.child name)).isNone).getD ".staged"

end Files

end RoleGrants
