/-
# Proofs.DocumentBuild — when a document builds, and what its builder holds

A document can be wrong in two ways (`Document.Fault`): an edge is malformed, or
an entry point is no vertex and the build is strict.  Edges are read first, and
the first malformed one is reported; of the entry points all that are missing are
reported, in order.

A build that nothing interrupts fails with exactly that, and then the builder
holds what it held before.  Otherwise it holds what the document describes
(`Document.Describes`), whatever was built earlier (`build_exact`).
-/
import Exposure.Proofs.DocumentGraph

namespace Exposure

set_option autoImplicit false

/-! ## Edges as they are written -/

theorem Text.cut_cons (sep : List Char) (c : Char) (s : List Char) :
    cut sep (c :: s) = if sep.isPrefixOf (c :: s) then some ([], (c :: s).drop sep.length)
      else (cut sep s).map fun parts => (c :: parts.1, parts.2) := rfl

/-- A cut is at the first occurrence of the separator. -/
theorem Text.cut_eq_some_iff {sep : List Char} (filled : sep ≠ []) {s left right : List Char} :
    cut sep s = some (left, right) ↔
      s = left ++ sep ++ right ∧ ∀ before after, s = before ++ sep ++ after →
        left.length ≤ before.length := by
  induction s generalizing left with
  | nil =>
      constructor
      · intro found
        simp [cut, filled] at found
      · rintro ⟨split, -⟩
        simp [filled] at split
  | cons c s ih =>
      rw [cut_cons]
      by_cases here : sep.isPrefixOf (c :: s) = true
      · obtain ⟨rest, split⟩ := List.isPrefixOf_iff_prefix.1 here
        rw [if_pos here, ← split, List.drop_left]
        constructor
        · intro found
          cases found
          exact ⟨rfl, fun _ _ _ => Nat.zero_le _⟩
        · rintro ⟨whole, least⟩
          obtain rfl : left = [] := by simpa using least [] rest rfl
          simpa using whole
      · have later : ∀ before after : List Char, c :: s = before ++ sep ++ after →
            ∃ rest, before = c :: rest ∧ s = rest ++ sep ++ after := by
          intro before after split
          cases before with
          | nil => exact absurd (List.isPrefixOf_iff_prefix.2 ⟨after, split.symm⟩) here
          | cons b rest =>
              injection split with head tail
              exact ⟨rest, by rw [head], tail⟩
        rw [if_neg here]
        constructor
        · intro found
          obtain ⟨⟨before, after⟩, first, same⟩ := Option.map_eq_some_iff.1 found
          cases same
          obtain ⟨split, least⟩ := ih.1 first
          refine ⟨congrArg (c :: ·) split, fun front back whole => ?_⟩
          obtain ⟨rest, rfl, part⟩ := later front back whole
          exact Nat.succ_le_succ (least rest back part)
        · rintro ⟨whole, least⟩
          obtain ⟨rest, rfl, part⟩ := later left right whole
          have first : cut sep s = some (rest, right) := by
            refine ih.2 ⟨part, fun front back split => ?_⟩
            exact Nat.le_of_succ_le_succ (least (c :: front) back (congrArg (c :: ·) split))
          rw [first, Option.map_some]

namespace Edge

/-- `s` is a caller and a callee, neither of them blank, around its first arrow. -/
structure Writes (s caller callee : String) : Prop where
  split : ∃ left right : String, s = left ++ "->" ++ right ∧
    (∀ before after : String, s = before ++ "->" ++ after → left.length ≤ before.length) ∧
    caller = Text.trimmed left ∧ callee = Text.trimmed right
  caller_filled : caller ≠ ""
  callee_filled : callee ≠ ""

/-- An edge that writes no call. -/
def Malformed (s : String) : Prop := ¬ ∃ caller callee, Writes s caller callee

theorem toList_around (before after : String) :
    (before ++ "->" ++ after).toList = before.toList ++ arrow ++ after.toList := by
  simp only [String.toList_append]
  rfl

theorem cut_arrow_iff {s : String} {left right : String} :
    Text.cut arrow s.toList = some (left.toList, right.toList) ↔ s = left ++ "->" ++ right ∧
      ∀ before after : String, s = before ++ "->" ++ after → left.length ≤ before.length := by
  have around : ∀ before after : String, s = before ++ "->" ++ after ↔
      s.toList = before.toList ++ arrow ++ after.toList := by
    intro before after
    rw [← toList_around, String.toList_inj]
  rw [Text.cut_eq_some_iff (by simp [arrow]), around]
  refine and_congr_right fun _ =>
    ⟨fun least before after split => ?_, fun least before after split => ?_⟩
  · rw [← String.length_toList, ← String.length_toList]
    exact least _ _ ((around before after).1 split)
  · have shorter := least (String.ofList before) (String.ofList after)
      ((around _ _).2 (by simpa using split))
    rwa [← String.length_toList, ← String.length_toList, String.toList_ofList] at shorter

theorem ofText?_eq_some_iff {s caller callee : String} :
    ofText? s = some (caller, callee) ↔ Writes s caller callee := by
  constructor
  · intro read
    unfold ofText? at read
    cases parts : Text.cut arrow s.toList with
    | none => simp [parts] at read
    | some ends =>
        obtain ⟨left, right⟩ := ends
        simp only [parts] at read
        split at read
        · cases read
        · rename_i filled
          cases read
          simp only [Bool.or_eq_true, List.isEmpty_iff, not_or] at filled
          have first : Text.cut arrow s.toList =
              some ((String.ofList left).toList, (String.ofList right).toList) := by
            simpa using parts
          obtain ⟨split, least⟩ := cut_arrow_iff.1 first
          refine ⟨⟨String.ofList left, String.ofList right, split, least, ?_, ?_⟩, ?_, ?_⟩
          · simp [Text.trimmed]
          · simp [Text.trimmed]
          · simpa using filled.1
          · simpa using filled.2
  · rintro ⟨⟨left, right, split, least, rfl, rfl⟩, callerFilled, calleeFilled⟩
    have first := cut_arrow_iff.2 ⟨split, least⟩
    have callerSome : (Text.trim left.toList).isEmpty = false := by
      simpa [Text.trimmed] using callerFilled
    have calleeSome : (Text.trim right.toList).isEmpty = false := by
      simpa [Text.trimmed] using calleeFilled
    simp [ofText?, first, callerSome, calleeSome, Text.trimmed]

theorem malformed_iff {s : String} : Malformed s ↔ (ofText? s).isNone = true := by
  rw [Option.isNone_iff_eq_none, Option.eq_none_iff_forall_ne_some]
  simp [Malformed, ofText?_eq_some_iff]

end Edge

/-! ## What a document describes -/

/-- What is wrong with a document: its first malformed edge; and if there is none and the build is
strict, the entry points that are no vertices. -/
inductive Document.Fault (d : Document) (strict : Bool) : DocumentError → Prop
  | malformed {before after : List String} {edge : String}
      (split : d.edges = before ++ edge :: after)
      (wellFormed : ∀ e ∈ before, ¬ Edge.Malformed e) (malformed : Edge.Malformed edge) :
      Fault d strict (.malformedEdge edge)
  | missing {names : List String} (wellFormed : ∀ e ∈ d.edges, ¬ Edge.Malformed e)
      (isStrict : strict = true)
      (absent : names = d.entryNames.filter (· ∉ d.mentions)) (some : names ≠ []) :
      Fault d strict (.missingEntryPoints names)

/-- What is built is what the document describes: its vertices in the order of their first mention,
the different calls, the entry points that are vertices, and the constructs of the application. -/
structure Document.Describes (d : Document) (built : BuiltDocument) : Prop where
  /-- The calls are what the edges write, one by one. -/
  calls : List.Forall₂ (fun edge call => Edge.Writes edge call.1 call.2) d.edges d.calls
  vertices : built.graph.vertices = d.mentions.eraseDups.map d.construct
  edges : built.graph.edges = d.calls.eraseDups.map fun c => (c.1, d.construct c.2)
  entries : built.entries.members = (d.entryNames.filter (· ∈ d.mentions)).eraseDups.map d.construct
  apps : built.apps.members = (d.app.map Text.trimmed).eraseDups.map d.construct
  /-- Every entry point is a node of the call graph, whatever the archives are. -/
  indexed : ∀ c ∈ built.entries.members, ∀ resolver, ∃ i,
    (Callgraph.ofRaw built.graph.toRaw resolver).index? c.name = some i ∧
      (Callgraph.ofRaw built.graph.toRaw resolver).identities[i]? = some c

namespace Document

variable {d : Document}

theorem missing_eq {g : Digraph} (grown : g.Grown d.language d.mentions d.calls) :
    d.missing g = d.entryNames.filter (· ∉ d.mentions) := by
  refine List.filter_congr fun name _ => ?_
  by_cases known : name ∈ d.mentions
  · simp [known, (grown.hasName name).2 known]
  · simp [known, Bool.eq_false_iff.2 (mt (grown.hasName name).1 known)]

theorem forall₂_writes {edges : List String} (wellFormed : ∀ e ∈ edges, ¬ Edge.Malformed e) :
    List.Forall₂ (fun edge call => Edge.Writes edge call.1 call.2) edges
      (edges.filterMap Edge.ofText?) := by
  induction edges with
  | nil => exact .nil
  | cons edge edges ih =>
      have here := wellFormed edge List.mem_cons_self
      rw [Edge.malformed_iff, Option.isNone_iff_eq_none] at here
      obtain ⟨call, read⟩ := Option.ne_none_iff_exists'.1 here
      rw [List.filterMap_cons_some read]
      exact .cons (Edge.ofText?_eq_some_iff.1 read)
        (ih fun e member => wellFormed e (List.mem_cons_of_mem _ member))

theorem describes_of_build {strict : Bool} {watch : Watch} {built : BuiltDocument}
    (wellFormed : ∀ e ∈ d.edges, ¬ Edge.Malformed e) (success : d.build strict watch = .ok built) :
    d.Describes built := by
  obtain ⟨grown, entries, apps⟩ := build_eq_ok success
  have listed : built.entries.members =
      (d.entryNames.filter (· ∈ d.mentions)).eraseDups.map d.construct := by
    have same : d.entryNames.filter built.graph.members.hasName =
        d.entryNames.filter (· ∈ d.mentions) := by
      refine List.filter_congr fun name _ => ?_
      rw [Bool.eq_iff_iff, decide_eq_true_eq]
      exact grown.hasName name
    rw [entries, same]
    exact ConstructSet.members_ofNames _ _
  refine ⟨forall₂_writes wellFormed, ?_, ?_, listed, ?_, fun c member resolver => ?_⟩
  · rw [Digraph.vertices, grown.members]
    exact ConstructSet.members_ofNames _ _
  · rw [grown.edges]
    refine eraseDups_map (fun a b same => ?_) d.calls
    obtain ⟨caller, callee⟩ := Prod.mk.inj same
    exact Prod.ext caller (congrArg Construct.name callee)
  · rw [apps]
    exact ConstructSet.members_ofNames _ _
  · rw [listed] at member
    obtain ⟨name, among, rfl⟩ := List.mem_map.1 member
    have known : name ∈ d.mentions := by
      simpa using (List.mem_filter.1 (List.mem_eraseDups.1 among)).2
    have imported := Callgraph.Imported.ofRaw built.graph.toRaw resolver
    obtain ⟨i, found⟩ :=
      Option.isSome_iff_exists.1 ((reportedIndex?_isSome grown imported name).2 known)
    obtain ⟨c, here, rfl⟩ := Callgraph.reportedIndex?_eq_some found
    have own := (construct_of_mem_identities grown imported (List.mem_of_getElem? here)).2
    refine ⟨i, ?_, here.trans (congrArg some own)⟩
    rw [Callgraph.index?, ← own, found, Option.some_or]

/-! ## Builds that nothing interrupts -/

/-- A document without malformed edges, or one that has a first malformed edge. -/
theorem wellFormed_or_first (edges : List String) : (∀ e ∈ edges, ¬ Edge.Malformed e) ∨
    ∃ before edge after, edges = before ++ edge :: after ∧ (∀ e ∈ before, ¬ Edge.Malformed e) ∧
      Edge.Malformed edge := by
  simp only [Edge.malformed_iff]
  cases found : edges.find? fun e => (Edge.ofText? e).isNone with
  | none => exact .inl (List.find?_eq_none.1 found)
  | some edge =>
      obtain ⟨malformed, before, after, split, early⟩ := List.find?_eq_some_iff_append.1 found
      refine .inr ⟨before, edge, after, split, fun e member bad => ?_, malformed⟩
      simpa [bad] using early e member

/-- Something is wrong with a document exactly if an edge is malformed, or if none is and a strict
build misses an entry point. -/
theorem exists_fault_iff {strict : Bool} : (∃ e, d.Fault strict e) ↔
    (∃ edge ∈ d.edges, Edge.Malformed edge) ∨ (∀ edge ∈ d.edges, ¬ Edge.Malformed edge) ∧
      strict = true ∧ ∃ name ∈ d.entryNames, name ∉ d.mentions := by
  constructor
  · rintro ⟨_, fault⟩
    cases fault with
    | malformed split _ malformed =>
        left
        exact ⟨_, by rw [split]; simp, malformed⟩
    | missing wellFormed isStrict absent some =>
        right
        refine ⟨wellFormed, isStrict, ?_⟩
        obtain ⟨name, member⟩ := List.exists_mem_of_ne_nil _ some
        rw [absent] at member
        exact ⟨name, by simpa using List.mem_filter.1 member⟩
  · rintro (⟨edge, member, malformed⟩ | ⟨wellFormed, isStrict, name, member, unknown⟩)
    · rcases wellFormed_or_first d.edges with wellFormed | ⟨before, first, after, split, early, bad⟩
      · exact absurd malformed (wellFormed edge member)
      · exact ⟨_, .malformed split early bad⟩
    · refine ⟨_, .missing wellFormed isStrict rfl (List.ne_nil_of_mem (a := name) ?_)⟩
      exact List.mem_filter.2 ⟨member, by simpa using unknown⟩

section Live

variable {watch : Watch} (live : watch.quiet = none)
include live

theorem addEdges_of_wellFormed {lang : Lang} {i : Nat} {g : Digraph} {e : String} (es : List String)
    (wellFormed : ¬ Edge.Malformed e) :
    ∃ g', addEdges lang i watch g (e :: es) = addEdges lang (i + 1) watch g' es := by
  rw [Edge.malformed_iff, Option.isNone_iff_eq_none] at wellFormed
  obtain ⟨ends, read⟩ := Option.ne_none_iff_exists'.1 wellFormed
  have quiet : watch.look = (false, watch) := by simp [Watch.look, live]
  refine ⟨g.addEdge (.ofName lang ends.1) (.ofName lang ends.2), ?_⟩
  simp only [addEdges, quiet, ite_self, Bool.false_eq_true, if_false, Edge.read, read]

theorem exists_addEdges {lang : Lang} {es : List String} (wellFormed : ∀ e ∈ es, ¬ Edge.Malformed e)
    (i : Nat) (g : Digraph) : ∃ g', addEdges lang i watch g es = .ok g' := by
  induction es generalizing i g with
  | nil => exact ⟨g, rfl⟩
  | cons e es ih =>
      obtain ⟨added, same⟩ := addEdges_of_wellFormed live es (wellFormed e List.mem_cons_self)
      rw [same]
      exact ih (fun x member => wellFormed x (List.mem_cons_of_mem _ member)) (i + 1) added

theorem addEdges_of_malformed {lang : Lang} {before after : List String} {edge : String}
    (wellFormed : ∀ e ∈ before, ¬ Edge.Malformed e) (malformed : Edge.Malformed edge) (i : Nat)
    (g : Digraph) :
    addEdges lang i watch g (before ++ edge :: after) = .error (.malformedEdge edge) := by
  induction before generalizing i g with
  | nil =>
      have unread := Option.isNone_iff_eq_none.1 (Edge.malformed_iff.1 malformed)
      have quiet : watch.look = (false, watch) := by simp [Watch.look, live]
      simp only [List.nil_append, addEdges, quiet, ite_self, Bool.false_eq_true, if_false,
        Edge.read, unread]
  | cons e before ih =>
      obtain ⟨added, same⟩ :=
        addEdges_of_wellFormed live (before ++ edge :: after) (wellFormed e List.mem_cons_self)
      rw [List.cons_append, same]
      exact ih (fun x member => wellFormed x (List.mem_cons_of_mem _ member)) (i + 1) added

/-- The first malformed edge ends a build. -/
theorem build_of_malformed {before after : List String} {edge : String}
    (split : d.edges = before ++ edge :: after) (wellFormed : ∀ e ∈ before, ¬ Edge.Malformed e)
    (malformed : Edge.Malformed edge) {strict : Bool} :
    d.build strict watch = .error (.malformedEdge edge) := by
  have graph : d.graph watch = .error (.malformedEdge edge) := by
    rw [Document.graph, split]
    exact addEdges_of_malformed live wellFormed malformed _ _
  simp only [build, graph]

/-- Without malformed edges only missing entry points stand in the way. -/
theorem build_of_wellFormed (wellFormed : ∀ e ∈ d.edges, ¬ Edge.Malformed e) (strict : Bool) :
    if strict = true ∧ d.entryNames.filter (· ∉ d.mentions) ≠ [] then
      d.build strict watch = .error (.missingEntryPoints (d.entryNames.filter (· ∉ d.mentions)))
    else ∃ built, d.build strict watch = .ok built := by
  obtain ⟨g, graph⟩ : ∃ g, d.graph watch = .ok g := exists_addEdges live wellFormed _ _
  have missing := missing_eq (grown_graph graph)
  unfold build
  simp only [graph, missing]
  by_cases absent : strict = true ∧ d.entryNames.filter (· ∉ d.mentions) ≠ []
  · rw [if_pos absent, if_pos (by simpa [List.isEmpty_iff] using absent)]
  · rw [if_neg absent, if_neg (by simpa [List.isEmpty_iff] using absent)]
    exact ⟨_, rfl⟩

/-- A build fails with what is wrong with the document. -/
theorem build_eq_error_iff {strict : Bool} {e : DocumentError} :
    d.build strict watch = .error e ↔ d.Fault strict e := by
  constructor
  · intro failed
    rcases wellFormed_or_first d.edges with wellFormed | ⟨before, edge, after, split, early, bad⟩
    · have outcome := build_of_wellFormed live wellFormed strict
      split at outcome
      · rename_i absent
        rw [outcome] at failed
        cases failed
        exact .missing wellFormed absent.1 rfl absent.2
      · obtain ⟨built, success⟩ := outcome
        rw [success] at failed
        cases failed
    · rw [build_of_malformed live split early bad] at failed
      cases failed
      exact .malformed split early bad
  · intro fault
    cases fault with
    | malformed split early bad => exact build_of_malformed live split early bad
    | missing wellFormed isStrict absent some =>
        have outcome := build_of_wellFormed live wellFormed strict
        rw [absent] at some
        rwa [if_pos ⟨isStrict, some⟩, ← absent] at outcome

end Live

end Document

/-- **A build is exact and leaves nothing behind when it fails.**  Whatever the builder holds: a
build that nothing interrupts fails exactly if an edge is malformed, or none is and a strict build
misses an entry point.  It reports what is wrong and the builder stays as it is.  If it succeeds,
the builder holds what its document describes. -/
theorem DocumentBuilder.build_exact (b : DocumentBuilder) (strict : Bool) (watch : Watch)
    (live : watch.quiet = none) :
    ((b.build strict watch).1 ≠ none ↔ (∃ edge ∈ b.document.edges, Edge.Malformed edge) ∨
      (∀ edge ∈ b.document.edges, ¬ Edge.Malformed edge) ∧ strict = true ∧
        ∃ name ∈ b.document.entryNames, name ∉ b.document.mentions) ∧
    (∀ e, (b.build strict watch).1 = some e ↔ b.document.Fault strict e) ∧
    ((b.build strict watch).1 ≠ none → (b.build strict watch).2 = b) ∧
    ((b.build strict watch).1 = none → ∃ built,
      (b.build strict watch).2 = { b with built := some built } ∧ b.document.Describes built) := by
  have reports : ∀ e, (b.build strict watch).1 = some e ↔ b.document.Fault strict e := by
    intro e
    rw [← Document.build_eq_error_iff live, build]
    cases b.document.build strict watch <;> simp
  have fails : (b.build strict watch).1 ≠ none ↔ ∃ e, b.document.Fault strict e := by
    rw [Option.ne_none_iff_exists']
    exact exists_congr reports
  rw [Document.exists_fault_iff] at fails
  refine ⟨fails, reports, ?_, ?_⟩
  · intro failed
    unfold build at failed ⊢
    cases outcome : b.document.build strict watch with
    | ok built => simp [outcome] at failed
    | error e => rfl
  · intro succeeded
    have wellFormed : ∀ e ∈ b.document.edges, ¬ Edge.Malformed e := by
      intro e member malformed
      exact fails.2 (.inl ⟨e, member, malformed⟩) succeeded
    unfold build at succeeded ⊢
    cases outcome : b.document.build strict watch with
    | ok built => exact ⟨built, rfl, Document.describes_of_build wellFormed outcome⟩
    | error e => simp [outcome] at succeeded

/-- A document with a blank vertex, an edge twice, and an entry point that is no vertex. -/
def untidy : Document where
  lang := .java
  nodes := [" C", ""]
  edges := ["A -> B", " A->B ", "B -> C"]
  entryPoints := ["C ", "D", "A", "A"]

/-- The builder of that document after a build that was not strict: it holds the graph, and a strict
build fails and leaves it alone. -/
theorem DocumentBuilder.build_exact_again :
    let held := ((⟨untidy, none⟩ : DocumentBuilder).build false .silent).2
    (∃ built, held.built = some built ∧ built.graph.vertices.map (·.name) = ["C", "A", "B"] ∧
      built.graph.edges.map (fun e => (e.1, e.2.name)) = [("A", "B"), ("B", "C")] ∧
      built.entries.members.map (·.name) = ["C", "A"]) ∧
    held.build true .silent = (some (.missingEntryPoints ["D"]), held) := by
  intro held
  have wellFormed : ∀ edge ∈ untidy.edges, ¬ Edge.Malformed edge := by
    simp only [Edge.malformed_iff]
    decide +kernel
  obtain ⟨fails, -, -, success⟩ := build_exact ⟨untidy, none⟩ false .silent rfl
  have lenient : ((⟨untidy, none⟩ : DocumentBuilder).build false .silent).1 = none := by
    by_contra failed
    rcases fails.1 failed with ⟨edge, member, malformed⟩ | ⟨-, isStrict, -⟩
    · exact wellFormed edge member malformed
    · cases isStrict
  obtain ⟨built, holds, describes⟩ := success lenient
  have same : held = ⟨untidy, some built⟩ := holds
  refine ⟨⟨built, by rw [same], ?_, ?_, ?_⟩, ?_⟩
  · rw [describes.vertices]
    decide +kernel
  · rw [describes.edges]
    decide +kernel
  · rw [describes.entries]
    decide +kernel
  · rw [same]
    obtain ⟨-, reports, unchanged, -⟩ := build_exact ⟨untidy, some built⟩ true .silent rfl
    have fault : untidy.Fault true (.missingEntryPoints ["D"]) :=
      .missing wellFormed rfl (by decide +kernel) (by simp)
    have failed := (reports _).2 fault
    exact Prod.ext failed (unchanged (by rw [failed]; simp))

end Exposure
