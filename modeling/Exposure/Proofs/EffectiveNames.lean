/-
# Proofs.EffectiveNames — which node an effective name denotes

Downstream of an import a node goes by its effective name: what is left of its
reported name without synthetic parts.  Looking that name up finds a node, and
mostly one that goes by the same name.

The exception comes of the order of the look-up.  A name is first looked for
among the reported ones, and what is left of one name may be another node's
reported name with synthetic parts of its own: of the constructors
`Outer$Inner(Outer)` and `Outer$Inner(Outer,Outer)` of an inner class, the second
goes by the first one's reported name, and the first by `Outer$Inner()`.
`index?_name` says that nothing else stands in the way.
-/
import Exposure.Proofs.Import

namespace Exposure

set_option autoImplicit false

/-- A profile whose normal form has a name goes by that name. -/
theorem Profile.name_of_named {p : Profile} (named : p.normalized.isNameless = false) :
    p.name = p.normalized.name := by
  simp [Profile.name, Profile.effective, named]

namespace Callgraph

variable {g : Callgraph}

theorem exists_of_reportedIndex? {name : String} {i : Nat}
    (found : g.reportedIndex? name = some i) :
    ∃ p, g.profile? i = some p ∧ p.reported.name = name := by
  obtain ⟨c, here, same⟩ := reportedIndex?_eq_some found
  rw [getElem?_identities] at here
  obtain ⟨p, node, rfl⟩ := Option.map_eq_some_iff.1 here
  exact ⟨p, node, same⟩

theorem reportedIndex?_of_profile? (distinct : (g.identities.map (·.name)).Nodup) {i : Nat}
    {p : Profile} (node : g.profile? i = some p) : g.reportedIndex? p.reported.name = some i :=
  reportedIndex?_of_getElem? distinct (by rw [getElem?_identities, node, Option.map_some])

/-- A name that is found among the normal forms is the effective name of the node. -/
theorem exists_of_normalizedIndex? {name : String} {i : Nat}
    (found : g.normalizedIndex? name = some i) : ∃ p, g.profile? i = some p ∧ p.name = name := by
  obtain ⟨inside, holds, -⟩ := Array.findIdx?_eq_some_iff_getElem.1 found
  obtain ⟨named, same⟩ : g.nodes[i].profile.normalized.isNameless = false ∧
      g.nodes[i].profile.normalized.name = name := by simpa using holds
  exact ⟨g.nodes[i].profile, by simp [profile?, inside], (Profile.name_of_named named).trans same⟩

/-- The effective name of a node is found among the normal forms, unless it is its reported name. -/
theorem normalizedIndex?_isSome {i : Nat} {p : Profile} (node : g.profile? i = some p)
    (changed : p.reported.name ≠ p.name) : (g.normalizedIndex? p.name).isSome = true := by
  have named : p.normalized.isNameless = false := by
    by_contra nameless
    refine changed ?_
    simp only [Bool.not_eq_false] at nameless
    simp [Profile.name, Profile.effective, nameless]
  obtain ⟨n, here, rfl⟩ := Option.map_eq_some_iff.1 node
  unfold normalizedIndex?
  rw [Array.findIdx?_isSome, Array.any_eq_true']
  exact ⟨n, Array.mem_of_getElem? here, by simp [named, Profile.name_of_named named]⟩

/-- **The effective name of a node denotes a node that goes by the same name, unless some node is
reported under that name and goes by another.**  The name denotes a node in either case, and if one
is reported under it, then that one. -/
theorem index?_name (raw : RawGraph) (resolver : Resolver) {i : Nat} {p : Profile}
    (node : (ofRaw raw resolver).profile? i = some p) :
    ∃ j q, (ofRaw raw resolver).index? p.name = some j ∧ (ofRaw raw resolver).profile? j = some q ∧
      (q.name = p.name ↔
        ∀ k r, (ofRaw raw resolver).profile? k = some r → r.reported.name = p.name →
          r.name = p.name) ∧
      ∀ k r, (ofRaw raw resolver).profile? k = some r → r.reported.name = p.name → k = j := by
  have distinct := (Imported.ofRaw raw resolver).distinct
  generalize ofRaw raw resolver = g at node distinct
  have reported {k : Nat} {r : Profile} (here : g.profile? k = some r) :=
    reportedIndex?_of_profile? distinct here
  cases found : g.reportedIndex? p.name with
  | some j =>
      obtain ⟨q, there, same⟩ := exists_of_reportedIndex? found
      have unique : ∀ k r, g.profile? k = some r → r.reported.name = p.name → k = j := by
        intro k r here name
        have again := reported here
        rw [name, found] at again
        exact (Option.some.inj again).symm
      refine ⟨j, q, by rw [index?, found, Option.some_or], there, ⟨fun name k r here under => ?_,
        fun all => ?_⟩, unique⟩
      · obtain rfl := unique k r here under
        obtain rfl := Option.some.inj (there.symm.trans here)
        exact name
      · exact all j q there same
  | none =>
      have nobody : ∀ k r, g.profile? k = some r → r.reported.name ≠ p.name := by
        intro k r here name
        have again := reported here
        rw [name, found] at again
        cases again
      obtain ⟨j, first⟩ :=
        Option.isSome_iff_exists.1 (normalizedIndex?_isSome node (nobody i p node))
      obtain ⟨q, there, name⟩ := exists_of_normalizedIndex? first
      refine ⟨j, q, by rw [index?, found, Option.none_or, first], there, ⟨fun _ k r here under =>
        ?_, fun _ => name⟩, fun k r here under => ?_⟩
      · exact absurd under (nobody k r here)
      · exact absurd under (nobody k r here)

/-- The constructors of an inner class without parameters, and with the enclosing class as its
parameter. -/
def innerConstructors : RawGraph where
  vertices := [⟨.java, .constructor, "app.Outer$Inner(app.Outer)"⟩,
    ⟨.java, .constructor, "app.Outer$Inner(app.Outer,app.Outer)"⟩]
  callees _ := []

/-- The names that the two go by. -/
theorem names_innerConstructors :
    ((ofRaw innerConstructors .nothing).profile? 0).map (·.name) = some "app.Outer$Inner()" ∧
      ((ofRaw innerConstructors .nothing).profile? 1).map
        (·.name) = some "app.Outer$Inner(app.Outer)" := by
  decide +kernel

theorem index?_name_inner : ∃ p j q, (ofRaw innerConstructors .nothing).profile? 0 = some p ∧
    p.name = "app.Outer$Inner()" ∧ (ofRaw innerConstructors .nothing).index? p.name = some j ∧
    (ofRaw innerConstructors .nothing).profile? j = some q ∧ q.name = p.name := by
  obtain ⟨p, here, name⟩ := Option.map_eq_some_iff.1 names_innerConstructors.1
  obtain ⟨j, q, denotes, there, same, -⟩ := index?_name innerConstructors .nothing here
  refine ⟨p, j, q, here, name, denotes, there, same.2 fun k r node under => ?_⟩
  have listed := mem_identities.2 ⟨k, r, node, rfl⟩
  have other : ∀ c ∈ (ofRaw innerConstructors .nothing).identities,
      c.name ≠ "app.Outer$Inner()" := by decide +kernel
  exact absurd (under.trans name) (other _ listed)

/-- The second constructor goes by the reported name of the first, which goes by another. -/
theorem inner_name_denotes_other :
    ¬ ∀ (raw : RawGraph) (resolver : Resolver) (i : Nat) (p : Profile),
    (ofRaw raw resolver).profile? i = some p →
      ∃ j q, (ofRaw raw resolver).index? p.name = some j ∧
        (ofRaw raw resolver).profile? j = some q ∧ q.name = p.name := by
  intro all
  obtain ⟨p, here, name⟩ := Option.map_eq_some_iff.1 names_innerConstructors.2
  obtain ⟨j, q, denotes, there, same⟩ := all innerConstructors .nothing 1 p here
  have first : (ofRaw innerConstructors .nothing).index? "app.Outer$Inner(app.Outer)" = some 0 := by
    decide +kernel
  obtain rfl : 0 = j := Option.some.inj (first.symm.trans (name ▸ denotes))
  have goesBy := names_innerConstructors.1
  rw [there, Option.map_some, same, name] at goesBy
  exact absurd goesBy (by decide)

end Callgraph

end Exposure
