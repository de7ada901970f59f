import RoleGrants.Files.Tree
import RoleGrants.Policy.Compiled
import RoleGrants.Policy.Error

/-! # Publishing a policy file

A policy is written beside the active file under a name of its own, marked as
not to be written any more, and then moved onto the active file in one move.
Before that the active file is copied to the backup; failures there are passed
over.  An empty policy is never published.

Each stage is one operation on the files. -/

set_option autoImplicit false

namespace RoleGrants

def backupPath (policyPath : PathName) : PathName :=
  PathName.withFileName policyPath (policyPath.fileName?.getD "" ++ ".bak")

def folderOf (policyPath : PathName) : PathName :=
  match policyPath.parent? with
  | none => "."
  | some parent => if parent = "" then "." else parent

inductive PublishStage where
  | folders
  | create
  | write (staged : Place)
  | flush (staged : Place)
  | seal (staged : Place)
  | removeBackup (staged : Place)
  | copyBackup (staged : Place)
  | replace (staged : Place)
  | ended (answer : Except PolicyError Unit)

structure Publish where
  path : PathName
  text : String
  stage : PublishStage := .folders

namespace Publish

def atStage (publish : Publish) (stage : PublishStage) : Publish :=
  { publish with stage := stage }

def fail (publish : Publish) (path : PathName) (error : OsError) : Publish :=
  publish.atStage (.ended (.error (.files path error)))

def stagedPlace (files : Files) (folder : PathName) : Except OsError Place := do
  let place ← files.locate folder
  files.enter place
  .ok (place.child (files.freshName place))

def advance (files : Files) (publish : Publish) : Files × Publish :=
  let folder := folderOf publish.path
  match publish.stage with
  | .folders =>
      match files.createFolders folder with
      | (made, .ok ()) => (made, publish.atStage .create)
      | (made, .error error) => (made, publish.fail folder error)
  | .create =>
      match stagedPlace files folder with
      | .ok place => (files.put place (.file "" false), publish.atStage (.write place))
      | .error error => (files, publish.fail folder error)
  | .write place => (files.put place (.file publish.text false), publish.atStage (.flush place))
  | .flush place => (files, publish.atStage (.seal place))
  | .seal place =>
      (files.put place (.file publish.text true), publish.atStage (.removeBackup place))
  | .removeBackup place =>
      match files.removeFile (backupPath publish.path) with
      | .ok removed => (removed, publish.atStage (.copyBackup place))
      | .error .notFound => (files, publish.atStage (.copyBackup place))
      | .error _ => (files, publish.atStage (.replace place))
  | .copyBackup place =>
      match files.copyFile publish.path (backupPath publish.path) with
      | .ok copied => (copied, publish.atStage (.replace place))
      | .error _ => (files, publish.atStage (.replace place))
  | .replace place =>
      match files.moveFile place publish.path with
      | .ok moved => (moved, publish.atStage (.ended (.ok ())))
      | .error error => (files.drop place, publish.fail publish.path error)
  | .ended _ => (files, publish)

def distance : PublishStage → Nat
  | .folders => 8
  | .create => 7
  | .write _ => 6
  | .flush _ => 5
  | .seal _ => 4
  | .removeBackup _ => 3
  | .copyBackup _ => 2
  | .replace _ => 1
  | .ended _ => 0

def runFor : Nat → Files → Publish → Files × Publish
  | 0, files, publish => (files, publish)
  | fuel + 1, files, publish =>
      let (after, next) := publish.advance files
      runFor fuel after next

def answer (publish : Publish) : Except PolicyError Unit :=
  match publish.stage with
  | .ended answer => answer
  | _ => .error (.worker "publishing stopped")

end Publish

def publish (files : Files) (path : PathName) (compiled : Compiled) :
    Files × Except PolicyError Unit :=
  if compiled.isEmpty then (files, .error .empty)
  else
    let begun : Publish := { path := path, text := compiled.render }
    let (after, ended) := Publish.runFor (Publish.distance begun.stage) files begun
    (after, ended.answer)

def ensureModel (files : Files) (path : PathName) (text : String) :
    Files × Except PolicyError Bool :=
  match files.status path with
  | .ok _ => (files, .ok false)
  | .error .notFound =>
      let parent := path.parent?.getD ""
      match if parent = "" then (files, .ok ()) else files.createFolders parent with
      | (made, .error error) => (made, .error (.files parent error))
      | (made, .ok ()) =>
          match made.writeText path text with
          | .error error => (made, .error (.files path error))
          | .ok written => (written, .ok true)
  | .error error => (files, .error (.files path error))

end RoleGrants
