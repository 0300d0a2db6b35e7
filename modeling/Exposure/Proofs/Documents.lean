/-
# Proofs.Documents — the documents that uploads leave behind

Every upload to a directory is a document of its own, in a file that is named
for the key.  A later upload leaves it alone unless its file has the same name,
and then the later document stands there instead.  So no document is lost
exactly if no two keys have one name (`documents_of_deliveries`).

Names are made from keys by writing `_` for every character that is not fit for
a name, so two keys may well have one name; keys of fit characters are their own
names.  `deliveries_collide` shows two bugs of which the second takes the place
of the first, although neither upload fails.

What a document says is read off its text: `Filed.read?` takes it apart into the
run, the time, the key and the items, and finds what was uploaded
(`Upload.read?_document`).  So a document of one key is not one of another.
-/
import Exposure.Proofs.Files
import Exposure.Proofs.JsonReader
import Exposure.Proofs.Records
import Exposure.Upload.Uploader
import Mathlib.Data.List.Nodup

namespace Exposure

set_option autoImplicit false

/-! ## What documents say

The readers of items are the inverses of their writers, as far as texts are shown. What is left out
of a profile is read as the empty part that it was. -/

namespace JsonText.Tree

variable {α : Type}

def text? : Tree → Option String
  | .text s => some s
  | _ => none

def field? (name : String) : Tree → Option Tree
  | .object fs => fs.lookup name
  | _ => none

def textAt? (t : Tree) (name : String) : Option String := (t.field? name).bind text?

/-- The items of a list, each read by `f`; there may be no list at all. -/
def items? (f : Tree → Option α) : Tree → Option (Option (List α))
  | .null => some none
  | .list ts => (ts.mapM f).map some
  | _ => none

def construct? (t : Tree) : Option Construct := do
  some ⟨⟨← t.textAt? "lang"⟩, ⟨← t.textAt? "kind"⟩, ← t.textAt? "qname"⟩

def pathRecord? (t : Tree) : Option PathRecord := do
  let path ← (← t.field? "path").items? construct?
  some ⟨← t.textAt? "bug", ← (← t.field? "source").construct?, ← (← t.field? "target").construct?,
    path.getD []⟩

def profile? (t : Tree) : Option Profile := do
  let normalized ← match t.field? "normalized" with
    | none => some .nameless
    | some part => part.construct?
  let part (name : String) : Option String := match t.field? name with
    | none => some ""
    | some part => part.text?
  some ⟨← (← t.field? "original").construct?, normalized, ← part "locator", ← part "digest"⟩

def touchPoint? (t : Tree) : Option TouchPoint := do
  some ⟨← (← t.field? "from").profile?, ← (← t.field? "to").profile?, ⟨← t.textAt? "direction"⟩⟩

end JsonText.Tree

/-- What a document says: which run made it and when, and what was uploaded. -/
structure Filed where
  run : String
  time : String
  upload : Upload
  deriving DecidableEq, Repr

namespace Filed

open JsonText (Tree)

/-- The upload of a kind, by its key and its items. -/
def upload? (kind key : String) (items : Tree) : Option Upload :=
  if kind = "paths" then (items.items? Tree.pathRecord?).map (.paths key)
  else if kind = "reachable" then (items.items? Tree.profile?).map (.reachable key)
  else if kind = "touchpoints" then (items.items? Tree.touchPoint?).map (.touchPoints key)
  else none

/-- What the text of a document says, among documents of a kind. -/
def read? (kind text : String) : Option Filed := do
  let t ← JsonText.read text
  some ⟨← t.textAt? "run", ← t.textAt? "timestamp", ← upload? kind (← t.textAt? "key")
    (← t.field? "items")⟩

end Filed

/-! ### Items as they are shown -/

def Construct.shown (c : Construct) : Construct :=
  ⟨⟨Text.shown c.lang.text⟩, ⟨Text.shown c.kind.text⟩, Text.shown c.name⟩

def PathRecord.shown (r : PathRecord) : PathRecord :=
  ⟨Text.shown r.bug, r.source.shown, r.target.shown, r.constructs.map Construct.shown⟩

/-- A construct without a name is not shown at all. -/
def Profile.shown (p : Profile) : Profile where
  reported := p.reported.shown
  normalized := if p.normalized.isNameless then .nameless else p.normalized.shown
  locator := Text.shown p.locator
  digest := Text.shown p.digest

def TouchPoint.shown (t : TouchPoint) : TouchPoint :=
  ⟨t.caller.shown, t.callee.shown, ⟨Text.shown t.direction.text⟩⟩

def Upload.shown : Upload → Upload
  | .paths bug records => .paths (Text.shown bug) (records.map (·.map PathRecord.shown))
  | .reachable digest profiles =>
      .reachable (Text.shown digest) (profiles.map (·.map Profile.shown))
  | .touchPoints digest points =>
      .touchPoints (Text.shown digest) (points.map (·.map TouchPoint.shown))

theorem Upload.key_shown (u : Upload) : u.shown.key = Text.shown u.key := by cases u <;> rfl

namespace JsonText

open Exposure.JsonText.Tree

/-- The names of fields are shown as they are. -/
theorem shown_names :
    Text.shown "run" = "run" ∧ Text.shown "key" = "key" ∧ Text.shown "timestamp" = "timestamp" ∧
    Text.shown "items" = "items" ∧ Text.shown "lang" = "lang" ∧ Text.shown "kind" = "kind" ∧
    Text.shown "qname" = "qname" ∧ Text.shown "bug" = "bug" ∧ Text.shown "source" = "source" ∧
    Text.shown "target" = "target" ∧ Text.shown "path" = "path" ∧
    Text.shown "original" = "original" ∧ Text.shown "normalized" = "normalized" ∧
    Text.shown "locator" = "locator" ∧ Text.shown "digest" = "digest" ∧
    Text.shown "from" = "from" ∧ Text.shown "to" = "to" ∧ Text.shown "direction" = "direction" := by
  decide

theorem construct?_ofConstruct (c : Construct) :
    (ofConstruct c).shown.construct? = some c.shown := by
  simp [construct?, textAt?, field?, text?, ofConstruct, Tree.shown, shownFields, shown_names,
    List.lookup_cons, Construct.shown]

theorem items?_list {α : Type} {f : Tree → Option α} {write : α → Tree} {shown : α → α}
    (reads : ∀ x, f (write x).shown = some (shown x)) (xs : List α) :
    (Tree.list (xs.map write)).shown.items? f = some (some (xs.map shown)) := by
  have each : ((xs.map write).map Tree.shown).mapM f = some (xs.map shown) := by
    rw [mapM_eq_some_iff, List.map_map, List.map_map, List.map_map]
    exact List.map_congr_left fun x _ => reads x
  rw [Tree.shown, shownItems_eq_map, items?, each]
  rfl

theorem items?_listOrNull (cs : List Construct) :
    ((listOrNull (cs.map ofConstruct)).shown.items? construct?).map (·.getD []) =
      some (cs.map Construct.shown) := by
  cases cs with
  | nil => rfl
  | cons c cs =>
      rw [listOrNull, if_neg (by simp), items?_list construct?_ofConstruct]
      rfl

theorem pathRecord?_ofPathRecord (r : PathRecord) :
    (ofPathRecord r).shown.pathRecord? = some r.shown := by
  obtain ⟨path, read, same⟩ := Option.map_eq_some_iff.1 (items?_listOrNull r.constructs)
  simp [pathRecord?, textAt?, field?, text?, ofPathRecord, Tree.shown, shownFields, shown_names,
    List.lookup_cons, construct?_ofConstruct, read, same, PathRecord.shown]

theorem profile?_ofProfile (p : Profile) : (ofProfile p).shown.profile? = some p.shown := by
  have empty : Text.shown "" = "" := rfl
  cases normalized : p.normalized.isNameless <;> cases locator : p.locator == "" <;>
    cases digest : p.digest == "" <;>
    simp_all [profile?, field?, text?, ofProfile, Tree.shown, shownFields, shown_names,
      List.lookup_cons, construct?_ofConstruct, Profile.shown]

theorem touchPoint?_ofTouchPoint (t : TouchPoint) :
    (ofTouchPoint t).shown.touchPoint? = some t.shown := by
  simp [touchPoint?, textAt?, field?, text?, ofTouchPoint, Tree.shown, shownFields, shown_names,
    List.lookup_cons, profile?_ofProfile, TouchPoint.shown]

end JsonText

namespace Upload

theorem upload?_items (u : Upload) :
    Filed.upload? u.kind (Text.shown u.key) ((u.items.map JsonText.Tree.list).getD .null).shown =
      some u.shown := by
  cases u with
  | paths bug records =>
      cases records with
      | none => rfl
      | some records =>
          simp [Filed.upload?, kind, key, items, shown,
            JsonText.items?_list JsonText.pathRecord?_ofPathRecord]
  | reachable digest profiles =>
      cases profiles with
      | none => rfl
      | some profiles =>
          simp [Filed.upload?, kind, key, items, shown,
            JsonText.items?_list JsonText.profile?_ofProfile]
  | touchPoints digest points =>
      cases points with
      | none => rfl
      | some points =>
          simp [Filed.upload?, kind, key, items, shown,
            JsonText.items?_list JsonText.touchPoint?_ofTouchPoint]

/-- **A document is read back**: it says which run made it and when, and has the key and the items
of the upload. -/
theorem read?_document (u : Upload) (run time : String) :
    Filed.read? u.kind (JsonText.ofTree (u.document run time)) =
      some ⟨Text.shown run, Text.shown time, u.shown⟩ := by
  rw [Filed.read?, JsonText.read_ofTree]
  simp [document, JsonText.Tree.textAt?, JsonText.Tree.field?, JsonText.Tree.text?,
    JsonText.Tree.shown, JsonText.shownFields, JsonText.shown_names, List.lookup_cons,
    upload?_items]

/-! ## Names of files -/

theorem fit_of_mem_fileName {key : String} {c : Char} (member : c ∈ (fileName key).toList) :
    isFileNameChar c = true := by
  unfold fileName at member
  split at member
  · obtain rfl : c = '_' := by simpa using member
    decide
  · rw [String.toList_ofList] at member
    obtain ⟨d, -, rfl⟩ := List.mem_map.1 member
    split
    · assumption
    · decide

/-- The name of a document is a name. -/
theorem isName_fileName (key : String) : FilePath.IsName (fileName key ++ ".json") where
  plain := by
    intro slash
    rw [String.toList_append, List.mem_append] at slash
    rcases slash with inside | ending
    · exact absurd (fit_of_mem_fileName inside) (by decide)
    · revert ending
      decide
  filled := by simp
  notHere := by
    intro same
    have length := congrArg (·.toList.length) same
    simp at length
  notUp := by
    intro same
    have length := congrArg (·.toList.length) same
    simp at length

/-- A key of characters that are fit for a name is its own name. -/
theorem fileName_of_fit {key : String} (filled : key ≠ "")
    (fit : ∀ c ∈ key.toList, isFileNameChar c = true) : fileName key = key := by
  have unchanged : (key.toList.map fun c => if isFileNameChar c then c else '_') = key.toList := by
    refine (List.map_congr_left fun c member => ?_).trans (List.map_id _)
    rw [if_pos (fit c member), id]
  rw [fileName, if_neg (by simpa using filled), unchanged, String.ofList_toList]

/-- The path of the document of an upload below a root. -/
def documentPath (u : Upload) (root : String) : String :=
  FilePath.join [FilePath.join [root, u.kind], fileName u.key ++ ".json"]

/-- Where that path leads in a tree. -/
def place (u : Upload) (root : String) (t : FileTree) : Location :=
  t.folder (FilePath.join [root, u.kind]) ++ [fileName u.key ++ ".json"]

theorem place_eq_of_grows (u : Upload) (root : String) {t t' : FileTree} (grows : t.Grows t') :
    u.place root t' = u.place root t := by
  rw [place, place, grows.folder]

/-- Documents of different names are at different places. -/
theorem fileName_eq_of_place_eq {u v : Upload} {root : String} {t : FileTree}
    (same : u.place root t = v.place root t) : fileName u.key = fileName v.key := by
  have ends := (List.append_inj' same rfl).2
  rw [List.cons.injEq, String.append_left_inj] at ends
  exact ends.1

end Upload

/-! ## One upload -/

namespace Uploader

variable {root run time : String} {u : Upload} {t t' : FileTree}

theorem mapError_eq_ok {ε ε' α : Type} {f : ε → ε'} {x : Except ε α} {a : α}
    (done : x.mapError f = .ok a) : x = .ok a := by
  cases x with
  | error e => cases done
  | ok b => exact congrArg Except.ok (Except.ok.inj done)

/-- An upload first makes its directory and then writes its file. -/
theorem writeDocument_eq_ok (written : writeDocument root run time u t = .ok t') :
    ∃ made, t.makeDirectories (FilePath.join [root, u.kind]) = .ok made ∧
      made.write (u.documentPath root) (JsonText.ofTree (u.document run time)) = .ok t' := by
  cases making : t.makeDirectories (FilePath.join [root, u.kind]) with
  | error e => simp [writeDocument, making, Except.mapError, bind, Except.bind] at written
  | ok made =>
      rw [writeDocument, making] at written
      exact ⟨made, rfl, mapError_eq_ok written⟩

/-- **What an upload leaves behind.**  Its document is at its place, and every other file is as
it was. -/
theorem writeDocument_spec (written : writeDocument root run time u t = .ok t') :
    t.Grows t' ∧ t'.locate (u.documentPath root) = .ok (u.place root t) ∧
      ∀ l, t'.content? l =
        if l = u.place root t then some (JsonText.ofTree (u.document run time))
        else t.content? l := by
  obtain ⟨made, directories, placed⟩ := writeDocument_eq_ok written
  obtain ⟨grows, files⟩ := FileTree.makeFrom_spec directories
  obtain ⟨l, found, rfl⟩ := FileTree.write_eq_ok placed
  have filled : FilePath.join [root, u.kind] ≠ "" :=
    FilePath.join_ne_empty (by cases u <;> simp [Upload.kind])
  obtain rfl : l = u.place root t := by
    rw [FileTree.locate_join filled (Upload.isName_fileName u.key) found,
      grows.folder, Upload.place]
  refine ⟨grows.trans (made.grows_put _ _), (made.grows_put _ _).locate found, fun l => ?_⟩
  rw [FileTree.content?_put, FileTree.content?, files, FileTree.content?]

end Uploader

/-! ## One upload after the other -/

/-- An upload, with the time it is made at and the patience of its sender. -/
structure Delivery where
  time : String
  patience : Patience
  upload : Upload

namespace Delivery

/-- The name of the file it is for. -/
def name (d : Delivery) : String := Upload.fileName d.upload.key

/-- What its document is to say. -/
def filed (d : Delivery) (run : String) : Filed :=
  ⟨Text.shown run, Text.shown d.time, d.upload.shown⟩

end Delivery

/-- What the document of a name says, among the documents of a kind below a root:
`<root>/<kind>/<name>.json`. -/
def Outbox.filed? (o : Outbox) (root kind name : String) : Option Filed :=
  (o.files.read (FilePath.join [FilePath.join [root, kind], name ++ ".json"])).toOption.bind
    (Filed.read? kind)

theorem Outbox.filed?_eq {o : Outbox} {root kind name text : String}
    (read : o.files.read (FilePath.join [FilePath.join [root, kind], name ++ ".json"]) = .ok text) :
    o.filed? root kind name = Filed.read? kind text := by
  simp only [filed?, read, Except.toOption, Option.bind_some]

/-- Whether the document of an upload is at its place and says what it is to say. -/
def Kept (root run : String) (o : Outbox) (d : Delivery) : Prop :=
  o.filed? root d.upload.kind d.name = some (d.filed run)

/-- Hands uploads to a directory one after the other, until one fails. -/
def deliver (root run : String) : List Delivery → Outbox → Except UploadError Outbox
  | [], o => .ok o
  | d :: ds, o =>
    match (Uploader.directory root run d.time).send d.patience d.upload o with
    | (o, none) => deliver root run ds o
    | (_, some e) => .error e

variable {root run : String} {d : Delivery} {ds : List Delivery} {o o' : Outbox}

/-- The first upload is written before the others are handed in. -/
theorem deliver_cons (delivered : deliver root run (d :: ds) o = .ok o') :
    ∃ next, Uploader.writeDocument root run d.time d.upload o.files = .ok next.files ∧
      deliver root run ds next = .ok o' := by
  rw [deliver, Uploader.directory] at delivered
  cases lost : d.patience.lostAt o.clock with
  | some cause => simp [lost] at delivered
  | none =>
      cases written : Uploader.writeDocument root run d.time d.upload o.files with
      | error e => simp [lost, written] at delivered
      | ok files => exact ⟨{ o with files }, rfl, by simpa [lost, written] using delivered⟩

theorem deliver_append {before : List Delivery}
    (delivered : deliver root run (before ++ ds) o = .ok o') :
    ∃ between, deliver root run before o = .ok between ∧ deliver root run ds between = .ok o' := by
  induction before generalizing o with
  | nil => exact ⟨o, rfl, delivered⟩
  | cons d before ih =>
      rw [List.cons_append, deliver] at delivered
      rw [deliver]
      cases sent : (Uploader.directory root run d.time).send d.patience d.upload o with
      | mk next failure =>
          cases failure with
          | some e => simp [sent] at delivered
          | none => exact ih (by simpa [sent] using delivered)

/-- Uploads leave every file alone that is not at the place of one of them. -/
theorem deliver_spec (delivered : deliver root run ds o = .ok o') :
    o.files.Grows o'.files ∧ ∀ l, (∀ d ∈ ds, l ≠ d.upload.place root o.files) →
      o'.files.content? l = o.files.content? l := by
  induction ds generalizing o with
  | nil =>
      obtain rfl : o = o' := Except.ok.inj delivered
      exact ⟨.refl _, fun _ _ => rfl⟩
  | cons d ds ih =>
      obtain ⟨next, written, rest⟩ := deliver_cons delivered
      obtain ⟨grows, -, contents⟩ := Uploader.writeDocument_spec written
      obtain ⟨growsOn, kept⟩ := ih rest
      refine ⟨grows.trans growsOn, fun l elsewhere => ?_⟩
      rw [kept l fun later member => ?_, contents, if_neg (elsewhere d List.mem_cons_self)]
      rw [later.upload.place_eq_of_grows root grows]
      exact elsewhere later (List.mem_cons_of_mem d member)

/-- The document of an upload is kept if no later upload has a file of the same name. -/
theorem kept_of_last {before after : List Delivery}
    (delivered : deliver root run (before ++ d :: after) o = .ok o')
    (last : ∀ later ∈ after, later.name ≠ d.name) : Kept root run o' d := by
  obtain ⟨between, -, rest⟩ := deliver_append delivered
  obtain ⟨next, written, others⟩ := deliver_cons rest
  obtain ⟨grows, found, contents⟩ := Uploader.writeDocument_spec written
  obtain ⟨growsOn, kept⟩ := deliver_spec others
  have stored : o'.files.content? (d.upload.place root between.files) =
      some (JsonText.ofTree (d.upload.document run d.time)) := by
    rw [kept _ fun later member same => ?_, contents, if_pos rfl]
    rw [later.upload.place_eq_of_grows root grows] at same
    exact last later member (Upload.fileName_eq_of_place_eq same.symm)
  have read : o'.files.read (d.upload.documentPath root) = .ok _ :=
    FileTree.read_eq_ok (growsOn.locate found) stored
  exact (Outbox.filed?_eq read).trans (d.upload.read?_document run d.time)

/-- A list with a member that has a property has a last one. -/
theorem exists_last {α : Type} {p : α → Prop} {l : List α} (some : ∃ x ∈ l, p x) :
    ∃ before x after, l = before ++ x :: after ∧ p x ∧ ∀ y ∈ after, ¬ p y := by
  induction l with
  | nil => simp at some
  | cons x l ih =>
      by_cases later : ∃ y ∈ l, p y
      · obtain ⟨before, y, after, rfl, holds, last⟩ := ih later
        exact ⟨x :: before, y, after, rfl, holds, last⟩
      · obtain ⟨y, member, holds⟩ := some
        rcases List.mem_cons.1 member with rfl | inside
        · exact ⟨[], y, l, rfl, holds, fun z among holds => later ⟨z, among, holds⟩⟩
        · exact absurd ⟨y, inside, holds⟩ later

/-- The document of an upload is not kept if a later upload of the same kind has a file of the same
name: the document of such an upload is at its place. -/
theorem filed?_of_replaced {before after : List Delivery}
    (delivered : deliver root run (before ++ d :: after) o = .ok o')
    (alike : ∀ later ∈ after, later.upload.kind = d.upload.kind)
    (replaced : ∃ later ∈ after, later.name = d.name) :
    ∃ later ∈ after, later.name = d.name ∧ o'.filed? root d.upload.kind d.name =
      some (later.filed run) := by
  obtain ⟨between, later, rest, rfl, same, last⟩ := exists_last replaced
  have member : later ∈ between ++ later :: rest := by simp
  refine ⟨later, member, same, ?_⟩
  have delivered : deliver root run ((before ++ d :: between) ++ later :: rest) o = .ok o' := by
    simpa using delivered
  rw [← alike later member, ← same]
  exact kept_of_last delivered fun y among => same ▸ last y among

/-- What uploads of one kind to one directory leave behind. -/
structure Documents (root run kind : String) (ds : List Delivery) (o o' : Outbox) : Prop where
  /-- The last upload of a name is kept. -/
  last : ∀ before d after, ds = before ++ d :: after → (∀ later ∈ after, later.name ≠ d.name) →
    Kept root run o' d
  /-- A later upload of the same name takes the place of an earlier one. -/
  replaced : ∀ before d after, ds = before ++ d :: after → (∃ later ∈ after, later.name = d.name) →
    ∃ later ∈ after, later.name = d.name ∧ o'.filed? root kind d.name = some (later.filed run)
  /-- Of different keys, no document is lost exactly if no two have one name. -/
  complete : (ds.map fun d => Text.shown d.upload.key).Nodup →
    ((∀ d ∈ ds, Kept root run o' d) ↔ (ds.map Delivery.name).Nodup)
  /-- Different keys of characters that are fit for names are names, and no document is lost. -/
  fit : (ds.map fun d => d.upload.key).Nodup →
    (∀ d ∈ ds, d.upload.key ≠ "" ∧ ∀ c ∈ d.upload.key.toList, Upload.isFileNameChar c = true) →
    ∀ d ∈ ds, o'.filed? root kind d.upload.key = some (d.filed run)
  /-- Nothing else changes. -/
  others : ∀ l, (∀ d ∈ ds, l ≠ d.upload.place root o.files) →
    o'.files.content? l = o.files.content? l

/-- Uploads of different names are all kept. -/
theorem kept_of_nodup (delivered : deliver root run ds o = .ok o')
    (apart : (ds.map Delivery.name).Nodup) (member : d ∈ ds) : Kept root run o' d := by
  obtain ⟨before, after, rfl⟩ := List.append_of_mem member
  refine kept_of_last delivered fun later among same => ?_
  rw [List.map_append, List.map_cons] at apart
  have fresh := (List.nodup_cons.1 (List.nodup_append.1 apart).2.1).1
  exact fresh (same ▸ List.mem_map_of_mem among)

/-- Documents of one file are of one key, as far as it is shown. -/
theorem shown_key_of_kept {e : Delivery} (first : Kept root run o d) (second : Kept root run o e)
    (alike : d.upload.kind = e.upload.kind) (same : d.name = e.name) :
    Text.shown d.upload.key = Text.shown e.upload.key := by
  rw [Kept, alike, same, second] at first
  have uploads := congrArg Filed.upload (Option.some.inj first)
  rw [← d.upload.key_shown, ← e.upload.key_shown]
  exact (congrArg Upload.key uploads).symm

/-- **No document is lost exactly if no two keys have one name.** -/
theorem documents_of_deliveries {kind : String} (alike : ∀ d ∈ ds, d.upload.kind = kind)
    (delivered : deliver root run ds o = .ok o') : Documents root run kind ds o o' where
  last := by
    rintro before d after rfl last
    exact kept_of_last delivered last
  replaced := by
    rintro before d after rfl some
    rw [← alike d (by simp)]
    refine filed?_of_replaced delivered (fun later member => ?_) some
    rw [alike later (by simp [member]), alike d (by simp)]
  complete := by
    intro keys
    refine ⟨fun kept => ?_, fun apart d member => kept_of_nodup delivered apart member⟩
    refine List.Nodup.map_on (fun d member e among same => ?_) (List.Nodup.of_map _ keys)
    have alike : d.upload.kind = e.upload.kind := (alike d member).trans (alike e among).symm
    exact List.inj_on_of_nodup_map keys member among
      (shown_key_of_kept (kept d member) (kept e among) alike same)
  fit := by
    intro keys fit d member
    have own : ∀ d ∈ ds, d.name = d.upload.key := fun d member =>
      Upload.fileName_of_fit (fit d member).1 (fit d member).2
    have apart : (ds.map Delivery.name).Nodup := by rwa [List.map_congr_left own]
    have kept := kept_of_nodup delivered apart member
    rwa [Kept, alike d member, own d member] at kept
  others := (deliver_spec delivered).2

/-- A bug with one call, on its way. -/
def deliveryOf (bug callee : String) : Delivery where
  time := "2024-01-01T00:00:00Z"
  patience := {}
  upload :=
    let caller := Construct.ofName .java "e"
    let called := Construct.ofName .java callee
    .paths bug (some [⟨bug, caller, called, [caller, called]⟩])

theorem documents_of_deliveries_two_bugs :
    ∃ o', deliver "out" "r1" [deliveryOf "CVE-2024-1" "s", deliveryOf "CVE:2024:2" "t"] {} =
        .ok o' ∧
      Documents "out" "r1" "paths" [deliveryOf "CVE-2024-1" "s", deliveryOf "CVE:2024:2" "t"]
        {} o' ∧
      o'.filed? "out" "paths" "CVE-2024-1" =
        some ⟨"r1", "2024-01-01T00:00:00Z", (deliveryOf "CVE-2024-1" "s").upload⟩ ∧
      o'.filed? "out" "paths" "CVE_2024_2" =
        some ⟨"r1", "2024-01-01T00:00:00Z", (deliveryOf "CVE:2024:2" "t").upload⟩ := by
  let sent := [deliveryOf "CVE-2024-1" "s", deliveryOf "CVE:2024:2" "t"]
  have goes : (deliver "out" "r1" sent {}).toOption.isSome = true := by decide +kernel
  cases delivered : deliver "out" "r1" sent {} with
  | error e => simp [delivered, Except.toOption] at goes
  | ok o' =>
      have documents : Documents "out" "r1" "paths" sent {} o' :=
        documents_of_deliveries (by decide) delivered
      have kept := (documents.complete (by decide)).2 (by decide)
      refine ⟨o', rfl, documents, (kept _ List.mem_cons_self).trans ?_,
        (kept (deliveryOf "CVE:2024:2" "t") (by simp [sent])).trans ?_⟩ <;> decide +kernel

/-- **A bug may take the place of another.**  Both uploads succeed, and no file has a document of
the first bug: its name leads to the document of the second one. -/
theorem deliveries_collide :
    ∃ o', deliver "out" "r1" [deliveryOf "CVE-2024_1" "s", deliveryOf "CVE-2024:1" "t"] {} =
        .ok o' ∧
      o'.filed? "out" "paths" "CVE-2024_1" =
        some ⟨"r1", "2024-01-01T00:00:00Z", (deliveryOf "CVE-2024:1" "t").upload⟩ ∧
      ∀ l text, o'.files.content? l = some text →
        (Filed.read? "paths" text).map (·.upload.key) ≠ some "CVE-2024_1" := by
  let sent := [deliveryOf "CVE-2024_1" "s", deliveryOf "CVE-2024:1" "t"]
  let document := JsonText.ofTree
    ((deliveryOf "CVE-2024:1" "t").upload.document "r1" "2024-01-01T00:00:00Z")
  let files := [(["work", "out", "paths", "CVE-2024_1.json"], document)]
  have left : (deliver "out" "r1" sent {}).toOption.map (·.files.files) = some files := by
    decide +kernel
  have reads : (Filed.read? "paths" document).map (·.upload.key) ≠ some "CVE-2024_1" := by
    have whole : Filed.read? "paths" document = some _ :=
      (deliveryOf "CVE-2024:1" "t").upload.read?_document "r1" _
    rw [whole]
    decide +kernel
  cases delivered : deliver "out" "r1" sent {} with
  | error e => simp [delivered, Except.toOption] at left
  | ok o' =>
      have only : o'.files.files = files := by simpa [delivered, Except.toOption] using left
      refine ⟨o', rfl, ?_, fun l text stored => ?_⟩
      · have delivered : deliver "out" "r1"
            ([] ++ deliveryOf "CVE-2024_1" "s" :: [deliveryOf "CVE-2024:1" "t"]) {} = .ok o' :=
          delivered
        obtain ⟨later, among, -, there⟩ :=
          filed?_of_replaced delivered (by decide) ⟨_, List.mem_cons_self, by decide⟩
        obtain rfl := List.mem_singleton.1 among
        exact there.trans (by decide +kernel)
      · rw [FileTree.content?, only, List.lookup_cons] at stored
        split at stored
        · exact Option.some.inj stored ▸ reads
        · cases stored

end Exposure
