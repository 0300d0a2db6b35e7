/-
# Proofs.Records — what is recorded of paths

A path is recorded by the effective identities along it.  There is a record
exactly if the path has nodes and all of them are in the graph
(`pathRecord_ne_none_iff`), and there are records of a list of paths exactly if
there is one of each (`pathRecords_ne_none_iff`).
-/
import Exposure.Analysis.Search

namespace Exposure

set_option autoImplicit false

/-! ## Lists whose members may have no image -/

section Images

variable {α β : Type} {f : α → Option β}

theorem mapM_eq_some_iff {l : List α} {m : List β} : l.mapM f = some m ↔ l.map f = m.map some := by
  induction l generalizing m with
  | nil => cases m <;> simp
  | cons x l ih =>
      simp only [List.mapM_cons, Option.pure_def, Option.bind_eq_bind, Option.bind_eq_some_iff,
        Option.some.injEq, ih]
      cases m with
      | nil => simp
      | cons y m =>
          constructor
          · rintro ⟨_, first, _, rest, same⟩
            cases same
            simp [first, rest]
          · intro same
            simp only [List.map_cons, List.cons.injEq] at same
            exact ⟨y, same.1, m, same.2, rfl⟩

theorem mapM_ne_none_iff {l : List α} : l.mapM f ≠ none ↔ ∀ x ∈ l, f x ≠ none := by
  induction l with
  | nil => simp
  | cons x l ih =>
      simp only [List.mapM_cons, Option.pure_def, Option.bind_eq_bind, List.forall_mem_cons, ← ih]
      cases f x <;> cases l.mapM f <;> simp

end Images

/-! ## One path -/

/-- The effective identity of a node, if it is in the graph. -/
def Callgraph.effective? (g : Callgraph) (n : Nat) : Option Construct :=
  (g.profile? n).map (·.effective)

theorem Callgraph.effective?_ne_none_iff {g : Callgraph} {n : Nat} :
    g.effective? n ≠ none ↔ n < g.size := by
  simp [effective?, profile?, size]

theorem Path.toOption_identities (g : Callgraph) (p : Path) :
    (identities g (p.map Int.ofNat)).toOption = p.mapM g.effective? := by
  have node (n : Nat) : ((g.describe (Int.ofNat n)).map (·.effective)).toOption =
      g.effective? n := by
    cases known : g.nodes[n]? <;>
      simp [Callgraph.describe, Callgraph.node, Callgraph.effective?, Callgraph.profile?,
        known, Except.map, Except.toOption]
  induction p with
  | nil => rfl
  | cons n p ih =>
      rw [List.mapM_cons, ← ih, ← node n, identities, List.map_cons, List.mapM_cons, ← identities]
      cases g.describe (Int.ofNat n) with
      | error => rfl
      | ok => cases identities g (p.map Int.ofNat) <;> rfl

theorem pathRecord_eq (g : Callgraph) (bug : String) (p : Path) :
    pathRecord g bug p = (p.mapM g.effective?).bind (PathRecord.ofChain bug) := by
  rw [pathRecord, ← Path.toOption_identities]
  split <;> rename_i outcome <;> rw [outcome] <;> rfl

/-- A record is one of the identities along the path. -/
theorem pathRecord_eq_some_iff {g : Callgraph} {bug : String} {p : Path} {r : PathRecord} :
    pathRecord g bug p = some r ↔
      ∃ chain, p.map g.effective? = chain.map some ∧ PathRecord.ofChain bug chain = some r := by
  simp only [pathRecord_eq, Option.bind_eq_some_iff, mapM_eq_some_iff]

/-- What a record says: the bug, the chain, and the first and the last construct of the chain. -/
theorem PathRecord.ofChain_eq_some_iff {bug : String} {chain : List Construct} {r : PathRecord} :
    ofChain bug chain = some r ↔ r.bug = bug ∧ r.constructs = chain ∧ chain.head? = some r.source ∧
      chain.getLast? = some r.target := by
  cases chain with
  | nil => simp [ofChain]
  | cons c chain =>
      obtain ⟨bug', source, target, constructs⟩ := r
      simp only [ofChain, Option.some.injEq, List.head?_cons, List.getLast?_cons, mk.injEq,
        List.getLastD_eq_getLast?]
      grind

/-- **There is a record of a path** exactly if it has nodes and all of them are in the graph. -/
theorem pathRecord_ne_none_iff {g : Callgraph} {bug : String} {p : Path} :
    pathRecord g bug p ≠ none ↔ p ≠ [] ∧ ∀ n ∈ p, n < g.size := by
  simp only [← Callgraph.effective?_ne_none_iff, ← mapM_ne_none_iff, pathRecord_eq]
  cases chained : p.mapM g.effective? with
  | none => simp
  | some chain =>
      have length := congrArg List.length (mapM_eq_some_iff.1 chained)
      rw [List.length_map, List.length_map] at length
      cases chain with
      | nil => simp [PathRecord.ofChain, List.eq_nil_of_length_eq_zero length]
      | cons c chain => simp [PathRecord.ofChain, List.ne_nil_of_length_eq_add_one length]

/-- A record has the length of its path. -/
theorem calls_of_pathRecord {g : Callgraph} {bug : String} {p : Path} {r : PathRecord}
    (recorded : pathRecord g bug p = some r) : r.calls = p.calls := by
  obtain ⟨chain, same, ends⟩ := pathRecord_eq_some_iff.1 recorded
  have length := congrArg List.length same
  rw [List.length_map, List.length_map] at length
  rw [PathRecord.calls, (PathRecord.ofChain_eq_some_iff.1 ends).2.1, Path.calls, length]

/-! ## The paths of a bug -/

section Lists

variable {g : Callgraph} {bug : String} {found : List Path} {records : List PathRecord}

/-- **There are records of paths** exactly if every path has nodes, all of which are in the
graph. -/
theorem pathRecords_ne_none_iff :
    pathRecords g bug found ≠ none ↔ ∀ p ∈ found, p ≠ [] ∧ ∀ n ∈ p, n < g.size := by
  simp only [pathRecords, mapM_ne_none_iff, pathRecord_ne_none_iff]

theorem mem_of_pathRecords (recorded : pathRecords g bug found = some records) {r : PathRecord}
    (member : r ∈ records) : ∃ p ∈ found, pathRecord g bug p = some r := by
  have among : some r ∈ found.map (pathRecord g bug) := by
    rw [mapM_eq_some_iff.1 recorded]
    exact List.mem_map_of_mem member
  exact List.mem_map.1 among

theorem calls_of_pathRecords (recorded : pathRecords g bug found = some records) :
    records.map PathRecord.calls = found.map Path.calls := by
  have same := mapM_eq_some_iff.1 recorded
  clear recorded
  induction found generalizing records with
  | nil => cases records <;> simp_all
  | cons p found ih =>
      cases records with
      | nil => simp at same
      | cons r records =>
          rw [List.map_cons, List.map_cons, List.cons.injEq] at same
          rw [List.map_cons, List.map_cons, calls_of_pathRecord same.1, ih same.2]

theorem ne_nil_iff_of_pathRecords (recorded : pathRecords g bug found = some records) :
    records ≠ [] ↔ found ≠ [] := by
  have lengths := congrArg List.length (calls_of_pathRecords recorded)
  rw [List.length_map, List.length_map] at lengths
  rw [← List.length_pos_iff, ← List.length_pos_iff, lengths]

end Lists

end Exposure
