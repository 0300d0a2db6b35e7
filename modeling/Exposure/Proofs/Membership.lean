/-
# Proofs.Membership — what belongs to the application

A name belongs to the application when its part before the first `$` is the
beginning of the name of some application construct.  `search_iff_membership`
says that the sorted index answers just this, with beginnings taken byte by byte.

The constructs come from a list in a configuration or in a call graph document.
An entry of such a list makes its own beginnings belong to the application, and
not the names that it is a beginning of: an entry `app.` covers `app` and leaves
out `app.Main.run()`.  `application_lists` says so of both kinds of lists.
-/
import Exposure.Config.Basic
import Exposure.Proofs.AppNames
import Exposure.Proofs.DocumentGraph
import Mathlib.Algebra.Order.BigOperators.Group.List
import Mathlib.Algebra.Order.Group.Nat

namespace Exposure

set_option autoImplicit false

open Text

/-! ## Beginnings -/

namespace Text

/-- The bytes of `text` begin with those of `start`. -/
def Begins (start text : String) : Prop :=
  ∃ rest : ByteArray, start.toByteArray ++ rest = text.toByteArray

/-- A text is the beginning of another by its bytes exactly if it is by its characters. -/
theorem begins_iff {start text : String} : Begins start text ↔ start.toList <+: text.toList := by
  unfold Begins
  rw [← String.utf8Encode_toList, ← String.utf8Encode_toList]
  constructor
  · rintro ⟨rest, bytes⟩
    exact List.isPrefix_of_utf8Encode_append_eq_utf8Encode rest bytes
  · rintro ⟨rest, chars⟩
    exact ⟨rest.utf8Encode, by rw [← chars, List.utf8Encode_append]⟩

/-- `head` is the part of `name` before its first `$`, or all of it if there is none. -/
def IsHead (head name : String) : Prop :=
  '$' ∉ head.toList ∧ (name = head ∨ ∃ tail, name = head ++ "$" ++ tail)

theorem isHead_iff {head name : String} :
    IsHead head name ↔ head.toList = upTo '$' name.toList := by
  constructor
  · rintro ⟨plain, rfl | ⟨tail, rfl⟩⟩
    · exact (upTo_of_not_mem plain).symm
    · have dollar : "$".toList = ['$'] := by decide
      rw [String.toList_append, String.toList_append, dollar, List.append_assoc,
        List.singleton_append, upTo_append_cons, upTo_of_not_mem plain]
  · intro cut
    refine ⟨?_, ?_⟩
    · rw [cut]
      intro member
      simpa using List.mem_takeWhile_imp member
    · have whole : upTo '$' name.toList ++ name.toList.dropWhile (· != '$') = name.toList :=
        List.takeWhile_append_dropWhile
      rw [← cut] at whole
      cases rest : name.toList.dropWhile (· != '$') with
      | nil =>
          rw [rest, List.append_nil] at whole
          exact .inl (String.toList_inj.1 whole.symm)
      | cons c tail =>
          have dollar : c = '$' := by
            have := List.head?_dropWhile_not (· != '$') name.toList
            simpa [rest] using this
          refine .inr ⟨String.ofList tail, String.toList_inj.1 ?_⟩
          rw [← whole, rest, dollar]
          simp

end Text

namespace AppIndex

/-- **One look at the insertion point decides membership.**  Some name of the set begins with the
text exactly if the index says so, and a name belongs to the application exactly if its part before
the first `$` is the beginning of some name of the set. -/
theorem search_iff_membership (apps : ConstructSet) (name : String) :
    ((ofSet apps).hasPrefixed name = true ↔ ∃ c ∈ apps.members, Begins name c.name) ∧
      ((ofSet apps).isApp name = true ↔ ∃ head, IsHead head name ∧
        ∃ c ∈ apps.members, Begins head c.name) := by
  have prefixed (text : String) :
      (ofSet apps).hasPrefixed text = true ↔ ∃ c ∈ apps.members, Begins text c.name := by
    simp [hasPrefixed_ofSet, ConstructSet.hasName_iff, startsWith, begins_iff]
  refine ⟨prefixed name, ?_⟩
  rw [isApp, prefixed]
  constructor
  · rintro ⟨c, member, begins⟩
    exact ⟨_, isHead_iff.2 String.toList_ofList, c, member, begins⟩
  · rintro ⟨head, isHead, c, member, begins⟩
    rw [← isHead_iff.1 isHead, String.ofList_toList]
    exact ⟨c, member, begins⟩

/-! ## Lists of entries -/

/-- All names below the entries belong to the application: those that begin with an entry that is
not blank, and have no `$`. -/
def CoversBelow (index : AppIndex) (entries : List String) : Prop :=
  ∀ p ∈ entries, allBlank p.toList = false → ∀ name, Begins p name → '$' ∉ name.toList →
    index.isApp name = true

/-- What the index of `names` says of names without `$`, where `names` are the entries as they are
read. -/
structure AnswersFor (index : AppIndex) (entries names : List String) : Prop where
  /-- Such a name belongs to the application exactly if it is the beginning of an entry. -/
  isApp : ∀ name, '$' ∉ name.toList → (index.isApp name = true ↔ ∃ entry ∈ names, Begins name entry)
  /-- The names below the entries are covered only if there are none. -/
  coversBelow : index.CoversBelow entries ↔ ∀ p ∈ entries, allBlank p.toList = true ∨ '$' ∈ p.toList

theorem isApp_of_plain {apps : ConstructSet} {name : String} (plain : '$' ∉ name.toList) :
    (ofSet apps).isApp name = true ↔ ∃ entry, apps.hasName entry = true ∧ Begins name entry := by
  simp only [isApp_ofSet, upTo_of_not_mem plain, begins_iff]

/-- Below an entry there are names that are longer than all entries. -/
theorem exists_below (p : String) (plain : '$' ∉ p.toList) (names : List String) :
    ∃ name, Begins p name ∧ '$' ∉ name.toList ∧ ∀ entry ∈ names, ¬ Begins name entry := by
  let length := (names.map fun entry => entry.toList.length).sum + 1
  refine ⟨p ++ String.ofList (List.replicate length 'x'), ?_, ?_, ?_⟩
  · simp [begins_iff]
  · simp [plain]
  · intro entry member begins
    have shorter := (begins_iff.1 begins).length_le
    have within : entry.toList.length ≤ (names.map fun entry => entry.toList.length).sum :=
      List.le_sum_of_mem (List.mem_map_of_mem member)
    simp only [String.toList_append, String.toList_ofList, List.length_append,
      List.length_replicate] at shorter
    omega

theorem answersFor_ofNames (lang : Lang) (entries names : List String) :
    (ofSet (.ofNames lang names)).AnswersFor entries names := by
  have isApp : ∀ name, '$' ∉ name.toList →
      ((ofSet (.ofNames lang names)).isApp name = true ↔ ∃ entry ∈ names, Begins name entry) := by
    intro name plain
    simp [isApp_of_plain plain, ConstructSet.ofNames, ConstructSet.hasName_ofList, Construct.ofName]
  refine ⟨isApp, ⟨fun covers p member => ?_, fun none p member filled name begins plain => ?_⟩⟩
  · by_contra usable
    rw [not_or, Bool.not_eq_true] at usable
    obtain ⟨name, below, plain, missing⟩ := exists_below p usable.2 names
    obtain ⟨entry, among, begins⟩ :=
      (isApp name plain).1 (covers p member usable.1 name below plain)
    exact missing entry among begins
  · rcases none p member with blank | dollar
    · rw [blank] at filled
      cases filled
    · exact absurd ((begins_iff.1 begins).subset dollar) plain

end AppIndex

/-- The application set of a configuration's options. -/
theorem Config.apps_options {c : Config} {lang : Lang} {o : Options}
    (made : c.options lang = .ok o) :
    o.apps = if (c.app.getD []).isEmpty then none
      else some (.ofNames (if lang.text == "" then c.lang else lang) (c.app.getD [])) := by
  simp only [options, bind, Except.bind, pure, Except.pure] at made
  split at made
  · cases made
  split at made
  · cases made
  split at made
  · cases made
  -- the entry filter is the only part that is read in two ways
  split at made
  · cases made
    rfl
  · split at made <;> cases made
    rfl

/-- **An entry stands for its own beginnings, in a configuration as in a document.**  The entries of
a document are read without the blanks around them.  Neither covers the names below its entries,
unless every entry is blank or has a `$`, so that there are no such names. -/
theorem application_lists (c : Config) (d : Document) :
    (∀ (lang : Lang) (o : Options), c.options lang = .ok o → c.app.getD [] ≠ [] →
      ∃ apps, o.apps = some apps ∧
        (AppIndex.ofSet apps).AnswersFor (c.app.getD []) (c.app.getD [])) ∧
    ∀ (strict : Bool) (watch : Watch) (b : BuiltDocument), d.build strict watch = .ok b →
      (AppIndex.ofSet b.apps).AnswersFor d.app (d.app.map trimmed) := by
  refine ⟨fun lang o made listed => ?_, fun strict watch b built => ?_⟩
  · have apps := Config.apps_options made
    rw [if_neg (by simpa using listed)] at apps
    exact ⟨_, apps, AppIndex.answersFor_ofNames _ _ _⟩
  · rw [(Document.build_eq_ok built).2.2]
    exact AppIndex.answersFor_ofNames _ _ _

/-- A configuration whose application is given by the beginning of its names. -/
def prefixConfig : Config := { app := some ["com.acme."] }

/-- A document whose application is given by the beginning of its names. -/
def prefixDocument : Document where
  lang := .java
  edges := ["app.A.a() -> app.B.b()", "app.B.b() -> lib.C.c()"]
  entryPoints := ["app.A.a()"]
  app := ["app."]
  archives := [⟨"lib-1.0.jar", "3f2a", ["lib"]⟩]

theorem exists_prefixOptions : ∃ o, prefixConfig.options .java = .ok o := by
  have made : (prefixConfig.options .java).toOption.isSome = true := by decide +kernel
  cases options : prefixConfig.options .java with
  | ok o => exact ⟨o, rfl⟩
  | error e => simp [options, Except.toOption] at made

theorem exists_prefixBuild : ∃ b, prefixDocument.build false .silent = .ok b := by
  have made : (prefixDocument.build false .silent).toOption.isSome = true := by decide +kernel
  cases built : prefixDocument.build false .silent with
  | ok b => exact ⟨b, rfl⟩
  | error e => simp [built, Except.toOption] at made

theorem application_lists_prefixes : ∃ o apps b,
    prefixConfig.options .java = .ok o ∧ o.apps = some apps ∧
      (AppIndex.ofSet apps).isApp "com.acme" = true ∧
      ¬ (AppIndex.ofSet apps).isApp "com.acme.Main.run()" = true ∧
      prefixDocument.build false .silent = .ok b ∧ (AppIndex.ofSet b.apps).isApp "app" = true ∧
      ¬ (AppIndex.ofSet b.apps).isApp "app.A.a()" = true := by
  obtain ⟨o, made⟩ := exists_prefixOptions
  obtain ⟨b, built⟩ := exists_prefixBuild
  obtain ⟨fromConfig, fromDocument⟩ := application_lists prefixConfig prefixDocument
  obtain ⟨apps, listed, ofConfig⟩ := fromConfig .java o made (by decide)
  have ofDocument := fromDocument false .silent b built
  refine ⟨o, apps, b, made, listed, ?_, ?_, built, ?_, ?_⟩
  · rw [ofConfig.isApp _ (by decide +kernel)]
    exact ⟨"com.acme.", by decide, begins_iff.2 (by decide +kernel)⟩
  · rw [ofConfig.isApp _ (by decide +kernel)]
    rintro ⟨entry, member, begins⟩
    obtain rfl : entry = "com.acme." := by simpa [prefixConfig] using member
    exact absurd (begins_iff.1 begins) (by decide +kernel)
  · rw [ofDocument.isApp _ (by decide +kernel)]
    exact ⟨"app.", by decide +kernel, begins_iff.2 (by decide +kernel)⟩
  · rw [ofDocument.isApp _ (by decide +kernel)]
    rintro ⟨entry, member, begins⟩
    have trims : prefixDocument.app.map trimmed = ["app."] := by decide +kernel
    rw [trims, List.mem_singleton] at member
    subst member
    exact absurd (begins_iff.1 begins) (by decide +kernel)

/-- Neither in a configuration nor in a document does such an entry cover the names that begin with
it. -/
theorem prefixes_do_not_cover :
    (¬ ∀ (c : Config) (lang : Lang) (o : Options) (apps : ConstructSet), c.options lang = .ok o →
      o.apps = some apps → (AppIndex.ofSet apps).CoversBelow (c.app.getD [])) ∧
    ¬ ∀ (d : Document) (strict : Bool) (watch : Watch) (b : BuiltDocument),
      d.build strict watch = .ok b → (AppIndex.ofSet b.apps).CoversBelow d.app := by
  refine ⟨fun all => ?_, fun all => ?_⟩
  · obtain ⟨o, made⟩ := exists_prefixOptions
    have listed : o.apps = some (.ofNames .java ["com.acme."]) := Config.apps_options made
    have covered := all prefixConfig .java o _ made listed "com.acme." (by decide)
      (by decide +kernel)
      "com.acme.Main.run()" (begins_iff.2 (by decide +kernel)) (by decide +kernel)
    exact absurd covered (by decide +kernel)
  · obtain ⟨b, built⟩ := exists_prefixBuild
    have covered := all prefixDocument false .silent b built "app." (by decide) (by decide +kernel)
      "app.A.a()" (begins_iff.2 (by decide +kernel)) (by decide +kernel)
    rw [(Document.build_eq_ok built).2.2] at covered
    exact absurd covered (by decide +kernel)

end Exposure
