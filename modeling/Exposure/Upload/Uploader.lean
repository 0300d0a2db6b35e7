/-
# Upload.Uploader — where uploads go

An uploader takes an upload and what it has to work with, and says whether that
failed.  Uploaders are built from a few: one that does nothing, one that makes
records, one that writes documents below a directory, one that waits between
uploads and one that hands every upload to several others.

Time passes only where an uploader waits, so a clock of nanoseconds that only
those waits move says all there is to know.

A list of paths is handed over, not copied: who made it and keeps it shares it
with the uploader.  Nothing prevents an uploader from writing into it.  What has
been written there is part of what uploads leave behind.
-/
import Exposure.Dict
import Exposure.FileTree
import Exposure.Number.Binary64
import Exposure.Upload.Basic
import Exposure.Watch

namespace Exposure

set_option autoImplicit false

open Number

/-- Why an upload failed. -/
inductive UploadError where
  | interrupted (cause : Interrupt)
  | beyondDeadline
  | directory (path : String) (cause : FileError)
  | file (path : String) (cause : FileError)
  | refused (message : String)
  | several (errors : List UploadError)
  deriving Repr

namespace UploadError

/-- The text of an error; several errors have a line each. -/
def message : UploadError → String
  | .interrupted cause => cause.message
  | .beyondDeadline => "rate: Wait(n=1) would exceed context deadline"
  | .directory path cause => "creating " ++ path ++ ": " ++ cause.message
  | .file path cause => "writing " ++ path ++ ": " ++ cause.message
  | .refused m => m
  | .several errors => Text.joined "\n" (messages errors)
where
  messages : List UploadError → List String
    | [] => []
    | e :: es => message e :: messages es

/-- What interrupted an upload, or one of several. -/
def interrupt? : UploadError → Option Interrupt
  | .interrupted cause => some cause
  | .several errors => first? errors
  | _ => none
where
  first? : List UploadError → Option Interrupt
    | [] => none
    | e :: es => (interrupt? e).orElse fun _ => first? es

end UploadError

/-- How long a caller is willing to wait: whether it has lost interest, and until when it has
not. -/
structure Patience where
  lost : Option Interrupt := none
  deadline : Option Int := none
  deriving DecidableEq, Repr

/-- Whether the caller has lost interest at a time. -/
def Patience.lostAt (p : Patience) (clock : Int) : Option Interrupt :=
  p.lost.orElse fun _ => p.deadline.bind fun d => if d ≤ clock then some .deadline else none

/-- What uploads work with and leave behind. -/
structure Outbox where
  files : FileTree := {}
  /-- The records made, in order. -/
  records : List Log.Record := []
  /-- The time, in nanoseconds. -/
  clock : Int := 0
  /-- When each throttle lets the next upload through. -/
  ready : List (Nat × Int) := []
  /-- The uploads handed in, in order. -/
  sent : List Upload := []
  /-- What uploaders have written over lists of paths that they were handed, by bug. -/
  rewritten : Dict (List PathRecord) := .empty

/-- What is found in lists of paths, by those who share them with uploaders. -/
def Outbox.seen (o : Outbox) (paths : Dict (List PathRecord)) : Dict (List PathRecord) :=
  paths.mapValues fun bug records => (o.rewritten.get? bug).getD records

/-- Takes uploads. -/
structure Uploader where
  send : Patience → Upload → Outbox → Outbox × Option UploadError

namespace Uploader

/-- Hands an upload in.  That it was handed in is not up to the uploader. -/
def handIn (uploader : Uploader) (patience : Patience) (u : Upload) (o : Outbox) :
    Outbox × Option UploadError :=
  match uploader.send patience u o with
  | (next, failure) => ({ next with sent := o.sent ++ [u] }, failure)

/-- Forgets every upload. -/
def nothing : Uploader := ⟨fun _ _ o => (o, none)⟩

/-- Makes records of every upload. -/
def log : Uploader := ⟨fun _ u o => ({ o with records := o.records ++ u.summary }, none)⟩

/-- Fails every upload that is refused for a reason. -/
def refusing (reason : Upload → Option String) : Uploader :=
  ⟨fun _ u o => (o, (reason u).map .refused)⟩

/-- The tree with the document of an upload below a root. -/
def writeDocument (root run time : String) (u : Upload) (t : FileTree) :
    Except UploadError FileTree := do
  let dir := FilePath.join [root, u.kind]
  let t ← (t.makeDirectories dir).mapError (.directory dir)
  let path := FilePath.join [dir, Upload.fileName u.key ++ ".json"]
  (t.write path (JsonText.ofTree (u.document run time))).mapError (.file path)

/-- Writes every upload as a document below a root: `<root>/<kind>/<key>.json`. -/
def directory (root run time : String) : Uploader where
  send patience u o :=
    match patience.lostAt o.clock with
    | some cause => (o, some (.interrupted cause))
    | none =>
      match writeDocument root run time u o.files with
      | .ok files => ({ o with files }, none)
      | .error e => (o, some e)

/-- The nanoseconds between two uploads of which `perSecond` go through in a second; none if
that is not limited. -/
def period (perSecond : Binary64) : Option Int :=
  match perSecond with
  | .finite false m q =>
    if m = 0 then none
    else
      let (n, d) := Binary64.ratio m q
      some (1000000000 * d / n : Nat)
  | _ => none

/-- Lets uploads through to another uploader one at a time, with a pause after each.  An
upload whose turn would come after the deadline fails at once. -/
def throttled (id : Nat) (perSecond : Binary64) (next : Uploader) : Uploader where
  send patience u o :=
    match patience.lostAt o.clock with
    | some cause => (o, some (.interrupted cause))
    | none =>
      match period perSecond with
      | none => next.send patience u o
      | some pause =>
        let turn := max o.clock ((o.ready.lookup id).getD o.clock)
        if patience.deadline.any fun d => decide (d < turn) then (o, some .beyondDeadline)
        else
          let ready := (id, turn + pause) :: o.ready.filter (·.1 != id)
          next.send patience u { o with clock := turn, ready }

/-- Hands an upload to uploaders one after the other; the errors come in the same order. -/
def sendAll (patience : Patience) (u : Upload) : List Uploader → Outbox → Outbox × List UploadError
  | [], o => (o, [])
  | uploader :: rest, o =>
    let (o, failure) := uploader.send patience u o
    let (o, failures) := sendAll patience u rest o
    (o, failure.toList ++ failures)

/-- Hands every upload to all of several uploaders. -/
def several (uploaders : List Uploader) : Uploader where
  send patience u o :=
    match sendAll patience u uploaders o with
    | (o, []) => (o, none)
    | (o, errors) => (o, some (.several errors))

end Uploader

end Exposure
