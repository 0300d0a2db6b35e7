/-
# Proofs.Resolution — a memory in front of a resolver does not show

While a graph is imported, the resolver is asked through a memory: the archive of
a unit is asked for at most once, and so is the digest of an archive, even if it
fails.  Asked directly, a resolver gives a construct the profile
`Resolver.profile`; this module says that the memory changes no profile, and
which questions the resolver gets with it.

`Remembers r cs p` is the invariant: after the constructs `cs` both tables of `p`
hold the resolver's own answers, for the units of `cs` and for the locators that
these were answered with.  One lemma says what asking through a table does
(`Provenance.locate_eq`, `Provenance.digest_eq`), one what describing a construct
does (`Remembers.describe`), and an import is a sequence of the latter.

`ResolvedBy g r` is what holds of a finished import, `ofRaw_resolvedBy` the main
result.
-/
import Exposure.Proofs.Import

namespace Exposure

set_option autoImplicit false

/-! ## Asking directly -/

namespace Question

/-- The unit whose archive is asked for. -/
def unit? : Question → Option String
  | .locate unit => some unit
  | .digest _ => none

/-- The archive whose digest is asked for. -/
def locator? : Question → Option String
  | .locate _ => none
  | .digest locator => some locator

end Question

namespace Resolver

/-- The digest of an archive; empty when it fails. -/
def digestOf (r : Resolver) (locator : String) : String := (r.digest locator).toOption.getD ""

/-- What is known of the node of a construct. -/
def profile (r : Resolver) (c : Construct) : Profile :=
  match r.locate c.unit with
  | none => ⟨c, Provenance.normalForm c, "", ""⟩
  | some locator => ⟨c, Provenance.normalForm c, locator, r.digestOf locator⟩

/-- The warning about a digest that fails for another reason than an unknown locator. -/
def warning? (r : Resolver) (locator : String) : Option Log.Record :=
  match r.digest locator with
  | .ok _ => none
  | .error e => if e.isUnknown then none else some (Provenance.digestWarning locator e)

/-- The locators that units are answered with, each once, in the order in which they first
appear. -/
def handedOut (r : Resolver) (units : List String) : List String :=
  (units.filterMap r.locate).eraseDups

/-- The questions about one of `units`: for its archive and, if it is the first of the units that
have this archive, for the digest. -/
def questionsAbout (r : Resolver) (units : List String) (unit : String) : List Question :=
  match r.locate unit with
  | none => [.locate unit]
  | some locator =>
    if units.find? (fun u => r.locate u == some locator) = some unit then
      [.locate unit, .digest locator]
    else [.locate unit]

/-- The questions about different units, one unit after the other. -/
def questions (r : Resolver) (units : List String) : List Question :=
  units.flatMap (r.questionsAbout units)

@[simp] theorem profile_reported (r : Resolver) (c : Construct) : (r.profile c).reported = c := by
  unfold profile
  split <;> rfl

theorem profile_locator (r : Resolver) (c : Construct) :
    (r.profile c).locator = (r.locate c.unit).getD "" := by
  unfold profile
  split <;> rename_i answer <;> rw [answer] <;> rfl

theorem profile_digest (r : Resolver) (c : Construct) :
    (r.profile c).digest =
      ((r.locate c.unit).bind fun locator => (r.digest locator).toOption).getD "" := by
  unfold profile
  split <;> rename_i answer <;> rw [answer] <;> rfl

/-! ## One more unit -/

theorem mem_handedOut {r : Resolver} {units : List String} {locator : String} :
    locator ∈ r.handedOut units ↔ ∃ u ∈ units, r.locate u = some locator := by
  simp [handedOut]

/-- Among units there is a first one with the archive of one of them. -/
theorem exists_first {r : Resolver} {units : List String} {u locator : String} (known : u ∈ units)
    (answer : r.locate u = some locator) :
    ∃ first, units.find? (fun v => r.locate v == some locator) = some first := by
  rw [← Option.isSome_iff_exists, List.find?_isSome]
  exact ⟨u, known, by simp [answer]⟩

theorem handedOut_snoc (r : Resolver) (units : List String) (unit : String) :
    r.handedOut (units ++ [unit]) = match r.locate unit with
      | none => r.handedOut units
      | some locator =>
        if locator ∈ r.handedOut units then r.handedOut units else r.handedOut units ++
          [locator] := by
  unfold handedOut
  rw [List.filterMap_append]
  cases answer : r.locate unit with
  | none => simp [answer]
  | some locator =>
      rw [List.filterMap_cons_some answer, List.filterMap_nil, eraseDups_snoc]
      simp only [List.mem_eraseDups]

/-- A unit's questions do not depend on the units after it. -/
theorem questionsAbout_snoc {r : Resolver} {units : List String} (unit : String) {u : String}
    (known : u ∈ units) : r.questionsAbout (units ++ [unit]) u = r.questionsAbout units u := by
  unfold questionsAbout
  cases answer : r.locate u with
  | none => rfl
  | some locator =>
      obtain ⟨first, eq⟩ := exists_first known answer
      simp only [List.find?_append, eq, Option.some_or]

theorem questions_snoc {r : Resolver} {units : List String} {unit : String} (fresh : unit ∉ units) :
    r.questions (units ++ [unit]) = r.questions units ++ match r.locate unit with
      | none => [.locate unit]
      | some locator =>
        if locator ∈ r.handedOut units then [.locate unit]
        else [.locate unit, .digest locator] := by
  have earlier : units.flatMap (r.questionsAbout (units ++ [unit])) = r.questions units :=
    List.flatMap_congr fun u known => questionsAbout_snoc unit known
  rw [questions, List.flatMap_append, earlier, List.flatMap_singleton]
  congr 1
  unfold questionsAbout
  cases answer : r.locate unit with
  | none => rfl
  | some locator =>
      simp only [List.find?_append]
      cases found : units.find? fun v => r.locate v == some locator with
      | some first =>
          have member := List.mem_of_find?_eq_some found
          have given : locator ∈ r.handedOut units :=
            mem_handedOut.2 ⟨first, member, by simpa using List.find?_some found⟩
          have other : first ≠ unit := fun same => fresh (same ▸ member)
          simp [given, other]
      | none =>
          have missing : locator ∉ r.handedOut units := by
            rw [mem_handedOut]
            rintro ⟨u, member, same⟩
            exact List.find?_eq_none.1 found u member (by simp [same])
          simp [missing, answer]

/-! ## What is asked for -/

theorem locate_mem_questionsAbout {r : Resolver} {units : List String} {unit u : String} :
    .locate u ∈ r.questionsAbout units unit ↔ u = unit := by
  unfold questionsAbout
  split
  · simp
  · split <;> simp

/-- Every unit is asked for once, in order. -/
theorem units_questions (r : Resolver) (units : List String) :
    (r.questions units).filterMap Question.unit? = units := by
  have once : ∀ u, (r.questionsAbout units u).filterMap Question.unit? = [u] := by
    intro u
    unfold questionsAbout
    split
    · rfl
    · split <;> rfl
  rw [questions, List.filterMap_flatMap]
  simp only [once, List.flatMap_singleton']

/-- Every archive is asked for once, in the order in which they are handed out. -/
theorem locators_questions (r : Resolver) {units : List String} (distinct : units.Nodup) :
    (r.questions units).filterMap Question.locator? = r.handedOut units := by
  induction units using List.reverseRecOn with
  | nil => rfl
  | append_singleton units unit ih =>
      rw [List.nodup_append] at distinct
      obtain ⟨before, -, apart⟩ := distinct
      have fresh : unit ∉ units := fun member => apart unit member unit (by simp) rfl
      rw [questions_snoc fresh, List.filterMap_append, ih before, handedOut_snoc]
      cases r.locate unit with
      | none => exact List.append_nil _
      | some locator =>
          simp only
          split
          · exact List.append_nil _
          · rfl

/-- An archive is asked for right after the unit that it was first handed out for. -/
theorem questions_of_handedOut {r : Resolver} {units : List String} {locator : String}
    (given : locator ∈ r.handedOut units) :
    ∃ before unit after, r.questions units = before ++ .locate unit :: .digest locator :: after ∧
      r.locate unit = some locator ∧ ∀ u, .locate u ∈ before → r.locate u ≠ some locator := by
  obtain ⟨u, member, answer⟩ := mem_handedOut.1 given
  obtain ⟨unit, first⟩ := exists_first member answer
  obtain ⟨same, earlier, later, split, others⟩ := List.find?_eq_some_iff_append.1 first
  have here : r.locate unit = some locator := by simpa using same
  have both : r.questionsAbout units unit = [.locate unit, .digest locator] := by
    simp [questionsAbout, here, first]
  refine ⟨earlier.flatMap (r.questionsAbout units), unit, later.flatMap (r.questionsAbout units),
    ?_, here, ?_⟩
  · rw [questions]
    conv => lhs; rw [split]
    rw [List.flatMap_append, List.flatMap_cons, ← split, both]
    rfl
  · intro v asked
    obtain ⟨w, among, about⟩ := List.mem_flatMap.1 asked
    obtain rfl := locate_mem_questionsAbout.1 about
    simpa using others v among

/-- A warning is about the archive that it names. -/
theorem eq_of_warning? {r : Resolver} {locator other : String} {record : Log.Record}
    (warned : r.warning? locator = some record) (named : ("locator", .text other) ∈ record.fields) :
    locator = other := by
  unfold warning? at warned
  split at warned
  · cases warned
  · split at warned
    · cases warned
    · obtain rfl := Option.some.inj warned
      simpa [Provenance.digestWarning, Log.warn, eq_comm] using named

/-- Different archives have at most one warning each. -/
theorem length_warnings_le_one (r : Resolver) {locators : List String} (distinct : locators.Nodup)
    (locator : String) :
    ((locators.filterMap r.warning?).filter (·.fields.contains ("locator", .text locator))).length ≤
      1 := by
  rw [List.filter_filterMap, List.length_filterMap_eq_countP]
  calc _ ≤ locators.count locator := List.countP_mono_left fun l _ kept => ?_
    _ ≤ 1 := List.nodup_iff_count_le_one.1 distinct locator
  obtain ⟨record, found⟩ := Option.isSome_iff_exists.1 kept
  obtain ⟨warned, named⟩ := Option.filter_eq_some_iff.1 found
  simpa using eq_of_warning? warned (by simpa using named)

end Resolver

/-! ## Asking through a table -/

/-- Looking up in the table of a function. -/
theorem lookup_tabulated {α : Type} (f : String → α) (key : String) (keys : List String) :
    (keys.map fun k => (k, f k)).lookup key = if key ∈ keys then some (f key) else none := by
  induction keys with
  | nil => rfl
  | cons k keys ih =>
      rw [List.map_cons, List.lookup_cons, ih]
      by_cases here : key = k
      · simp [here]
      · simp only [beq_eq_false_iff_ne.2 here, List.mem_cons, here, false_or]

namespace Provenance

/-- The archive of `unit` asked for and remembered. -/
def located (r : Resolver) (p : Provenance) (unit : String) : Provenance :=
  { p with
    locators := p.locators ++ [(unit, r.locate unit)]
    asked := p.asked ++ [.locate unit] }

/-- The digest of `locator` asked for and remembered. -/
def digested (r : Resolver) (p : Provenance) (locator : String) : Provenance :=
  { p with
    digests := p.digests ++ [(locator, r.digestOf locator)]
    asked := p.asked ++ [.digest locator]
    warnings := p.warnings ++ (r.warning? locator).toList }

/-- The construct `c` noted as unresolved, if it is so by its profile. -/
def noting (p : Provenance) (profile : Profile) (c : Construct) : Provenance :=
  if profile.isResolved then p else { p with unresolved := p.unresolved.add c }

variable {r : Resolver} {p : Provenance}

/-- Asking for an archive gives the resolver's answer, and a question that is new is remembered. -/
theorem locate_eq {units : List String} (table : p.locators = units.map fun u => (u, r.locate u))
    (unit : String) :
    p.locate r unit = (r.locate unit, if unit ∈ units then p else p.located r unit) := by
  unfold locate
  rw [table, lookup_tabulated]
  by_cases known : unit ∈ units
  · simp only [known, if_true]
  · simp only [known, if_false, located, table]

/-- Asking for a digest gives the resolver's answer, and a question that is new is remembered. -/
theorem digest_eq {known : List String} (table : p.digests = known.map fun l => (l, r.digestOf l))
    (locator : String) :
    p.digest r locator =
      (r.digestOf locator, if locator ∈ known then p else p.digested r locator) := by
  unfold digest
  rw [table, lookup_tabulated]
  by_cases old : locator ∈ known
  · simp only [old, if_true]
  · simp only [old, if_false, digested, Resolver.warning?, Resolver.digestOf, table]
    cases r.digest locator with
    | ok d => simp [Except.toOption]
    | error e => by_cases unknown : e.isUnknown = true <;> simp [unknown, Except.toOption]

/-- Without an archive nothing more is asked. -/
theorem describe_unlocated {p' : Provenance} {c : Construct} (answer : r.locate c.unit = none)
    (asked : p.locate r c.unit = (none, p')) :
    p.describe r c = (r.profile c, p'.noting (r.profile c) c) := by
  simp [describe, asked, Resolver.profile, answer, noting, Profile.isResolved]

/-- With an archive its digest is asked for. -/
theorem describe_located {p' p'' : Provenance} {c : Construct} {locator : String}
    (answer : r.locate c.unit = some locator) (asked : p.locate r c.unit = (some locator, p'))
    (digest : p'.digest r locator = (r.digestOf locator, p'')) :
    p.describe r c = (r.profile c, p''.noting (r.profile c) c) := by
  simp [describe, asked, digest, Resolver.profile, answer, noting, Profile.isResolved]

end Provenance

/-- `p` holds what the resolver answers about `units`, and it has been asked for that and nothing
else. -/
structure Answered (r : Resolver) (units : List String) (p : Provenance) : Prop where
  locators : p.locators = units.map fun u => (u, r.locate u)
  digests : p.digests = (r.handedOut units).map fun l => (l, r.digestOf l)
  asked : p.asked = r.questions units
  warnings : p.warnings = (r.handedOut units).filterMap r.warning?

namespace Answered

variable {r : Resolver} {units : List String} {p : Provenance} {c : Construct}

/-- A construct of a known unit is described from the tables alone. -/
theorem describe_known (answered : Answered r units p) (known : c.unit ∈ units) :
    p.describe r c = (r.profile c, p.noting (r.profile c) c) := by
  have asked := Provenance.locate_eq answered.locators c.unit
  rw [if_pos known] at asked
  cases answer : r.locate c.unit with
  | none => exact Provenance.describe_unlocated answer (answer ▸ asked)
  | some locator =>
      have given : locator ∈ r.handedOut units := Resolver.mem_handedOut.2 ⟨c.unit, known, answer⟩
      have digest := Provenance.digest_eq answered.digests locator
      rw [if_pos given] at digest
      exact Provenance.describe_located answer (answer ▸ asked) digest

/-- A question for the archive of a unit settles it, if no new archive comes of it. -/
theorem located (answered : Answered r units p) {unit : String}
    (handed : r.handedOut (units ++ [unit]) = r.handedOut units)
    (questions : r.questions (units ++ [unit]) = r.questions units ++ [.locate unit]) :
    Answered r (units ++ [unit]) (p.located r unit) where
  locators := by simp [Provenance.located, answered.locators]
  digests := by
    rw [handed]
    exact answered.digests
  asked := by
    rw [questions, ← answered.asked]
    rfl
  warnings := by
    rw [handed]
    exact answered.warnings

/-- For a new archive there is a second question, for its digest. -/
theorem digested (answered : Answered r units p) {unit locator : String}
    (handed : r.handedOut (units ++ [unit]) = r.handedOut units ++ [locator])
    (questions : r.questions (units ++ [unit]) = r.questions units ++
      [.locate unit, .digest locator]) :
    Answered r (units ++ [unit]) ((p.located r unit).digested r locator) where
  locators := by simp [Provenance.digested, Provenance.located, answered.locators]
  digests := by
    rw [handed, List.map_append, ← answered.digests]
    rfl
  asked := by
    rw [questions, ← answered.asked]
    simp [Provenance.digested, Provenance.located]
  warnings := by
    rw [handed, List.filterMap_append, ← answered.warnings]
    cases warned : r.warning? locator <;> simp [Provenance.digested, Provenance.located, warned]

/-- A construct of a new unit is described with the one question or with both. -/
theorem describe_new (answered : Answered r units p) (fresh : c.unit ∉ units) :
    ∃ p', p.describe r c = (r.profile c, p'.noting (r.profile c) c) ∧ p'.unresolved = p.unresolved ∧
      Answered r (units ++ [c.unit]) p' := by
  have asked := Provenance.locate_eq answered.locators c.unit
  rw [if_neg fresh] at asked
  have handed := r.handedOut_snoc units c.unit
  have questions := Resolver.questions_snoc (r := r) fresh
  cases answer : r.locate c.unit with
  | none =>
      rw [answer] at asked handed questions
      exact ⟨_, Provenance.describe_unlocated answer asked, rfl, answered.located handed questions⟩
  | some locator =>
      simp only [answer] at asked handed questions
      have digest := Provenance.digest_eq (p := p.located r c.unit) answered.digests locator
      by_cases given : locator ∈ r.handedOut units
      · rw [if_pos given] at handed questions digest
        exact ⟨_, Provenance.describe_located answer asked digest, rfl,
          answered.located handed questions⟩
      · rw [if_neg given] at handed questions digest
        exact ⟨_, Provenance.describe_located answer asked digest, rfl,
          answered.digested handed questions⟩

end Answered

/-! ## Describing one construct after the other -/

/-- The units of constructs, each once, in the order in which they first appear. -/
def unitsOf (cs : List Construct) : List String := (cs.map (·.unit)).eraseDups

theorem unitsOf_snoc (cs : List Construct) (c : Construct) :
    unitsOf (cs ++ [c]) = if c.unit ∈ unitsOf cs then unitsOf cs else unitsOf cs ++ [c.unit] := by
  simp only [unitsOf, List.map_append, List.map_singleton, eraseDups_snoc, List.mem_eraseDups]

/-- `p` is what has been found out once the constructs `cs` are described. -/
structure Remembers (r : Resolver) (cs : List Construct) (p : Provenance) : Prop where
  answered : Answered r (unitsOf cs) p
  unresolved : p.unresolved = .ofList (cs.filter fun c => !(r.profile c).isResolved)

namespace Remembers

variable {r : Resolver} {cs : List Construct} {p : Provenance}

theorem nothing (r : Resolver) : Remembers r [] .empty := ⟨⟨rfl, rfl, rfl, rfl⟩, rfl⟩

theorem noting {c : Construct} (answered : Answered r (unitsOf (cs ++ [c])) p)
    (unresolved : p.unresolved = .ofList (cs.filter fun c => !(r.profile c).isResolved)) :
    Remembers r (cs ++ [c]) (p.noting (r.profile c) c) := by
  unfold Provenance.noting
  split
  · rename_i resolved
    exact ⟨answered, by simp [resolved, unresolved]⟩
  · rename_i missing
    have listed : (cs ++ [c]).filter (fun c => !(r.profile c).isResolved) =
        cs.filter (fun c => !(r.profile c).isResolved) ++ [c] := by simp [missing]
    refine ⟨⟨answered.locators, answered.digests, answered.asked, answered.warnings⟩, ?_⟩
    rw [listed, ConstructSet.ofList_snoc, ← unresolved]

/-- The next construct is described as the resolver itself would, and what is found out is
remembered. -/
theorem describe (mem : Remembers r cs p) (c : Construct) :
    (p.describe r c).1 = r.profile c ∧ Remembers r (cs ++ [c]) (p.describe r c).2 := by
  have units := unitsOf_snoc cs c
  by_cases known : c.unit ∈ unitsOf cs
  · rw [if_pos known] at units
    rw [mem.answered.describe_known known]
    exact ⟨rfl, noting (units ▸ mem.answered) mem.unresolved⟩
  · rw [if_neg known] at units
    obtain ⟨p', described, same, answered⟩ := mem.answered.describe_new known
    rw [described]
    exact ⟨rfl, noting (units ▸ answered) (same.trans mem.unresolved)⟩

end Remembers

/-! ## Importing a graph -/

namespace Callgraph

/-- What holds of the empty graph, and after every construct that is interned and every call that is
recorded, holds of an imported graph. -/
theorem ofRaw_induction {P : Callgraph → Prop} (raw : RawGraph) (r : Resolver) (start : P empty)
    (intern : ∀ g c, P g → P (g.intern r c).2) (connect : ∀ g i j, P g → P (g.connect i j)) :
    P (ofRaw raw r) := by
  refine List.foldlRecOn raw.vertices _ start fun g holds v _ => ?_
  refine List.foldlRecOn (raw.callees v) _ (intern g v holds) fun g holds c _ => ?_
  exact connect _ _ _ (intern g c holds)

theorem provenance_connect (g : Callgraph) (i j : Nat) :
    (g.connect i j).provenance = g.provenance := by
  unfold connect
  split <;> rfl

/-- The nodes of `g` are described as by `r` itself, and its memory is that of their
descriptions. -/
structure Recalls (g : Callgraph) (r : Resolver) : Prop where
  memory : Remembers r g.identities g.provenance
  profiles : ∀ i p, g.profile? i = some p → p = r.profile p.reported

namespace Recalls

variable {g : Callgraph} {r : Resolver}

theorem intern (recalls : g.Recalls r) (c : Construct) : (g.intern r c).2.Recalls r := by
  rw [intern_eq]
  split
  · exact recalls
  · obtain ⟨profile, memory⟩ := recalls.memory.describe c
    constructor
    · rw [identities_withNode, profile, Resolver.profile_reported]
      exact memory
    · intro i p here
      rw [profile?_withNode] at here
      split at here
      · rw [← Option.some.inj here, profile, Resolver.profile_reported]
      · exact recalls.profiles i p here

theorem connect (recalls : g.Recalls r) (i j : Nat) : (g.connect i j).Recalls r := by
  refine ⟨?_, fun k p here => recalls.profiles k p (by rwa [profile?_connect] at here)⟩
  rw [identities_connect, provenance_connect]
  exact recalls.memory

theorem ofRaw (raw : RawGraph) (r : Resolver) : (ofRaw raw r).Recalls r :=
  ofRaw_induction (P := fun g => g.Recalls r) raw r ⟨.nothing r, by simp [profile?, empty]⟩
    (fun _ c recalls => recalls.intern c) fun _ i j recalls => recalls.connect i j

end Recalls

/-- **What an import has found out about archives.**  `r` is the resolver that it asked. -/
structure ResolvedBy (g : Callgraph) (r : Resolver) : Prop where
  /-- A node's archive is that of its unit; it is empty if the unit cannot be located. -/
  locator : ∀ i p, g.profile? i = some p → p.locator = (r.locate p.reported.unit).getD ""
  /-- A node's digest is that of its archive; it is empty if there is none or if it fails. -/
  digest : ∀ i p, g.profile? i = some p →
    p.digest = ((r.locate p.reported.unit).bind fun locator => (r.digest locator).toOption).getD ""
  /-- The unresolved constructs are those of the nodes without a digest. -/
  unresolved : ∀ c, c ∈ g.unresolved.members ↔ ∃ i p, g.profile? i = some p ∧ p.reported = c ∧
    p.isResolved = false
  /-- The units of the nodes were asked for once each, in the order in which they were
  discovered. -/
  units : g.provenance.asked.filterMap Question.unit? = unitsOf g.identities
  /-- The archives handed out were asked for once each, whether they have a digest or not. -/
  locators : g.provenance.asked.filterMap Question.locator? = r.handedOut (unitsOf g.identities)
  /-- The digest of an archive was asked for right after the question that it first was the answer
  to. -/
  directly : ∀ i p locator, g.profile? i = some p → r.locate p.reported.unit = some locator →
    ∃ before unit after, g.provenance.asked = before ++ .locate unit :: .digest locator :: after ∧
      r.locate unit = some locator ∧ ∀ u, .locate u ∈ before → r.locate u ≠ some locator
  /-- The archives handed out were warned about if their digest failed for another reason than an
  unknown locator. -/
  warnings : g.provenance.warnings = (r.handedOut (unitsOf g.identities)).filterMap r.warning?
  /-- There is at most one warning about an archive. -/
  warned_once : ∀ locator,
    (g.provenance.warnings.filter (·.fields.contains ("locator", .text locator))).length ≤ 1

/-- **Archives are found out as if the resolver were asked directly, with each question put
once.** -/
theorem ofRaw_resolvedBy (raw : RawGraph) (resolver : Resolver) :
    (ofRaw raw resolver).ResolvedBy resolver := by
  have recalls := Recalls.ofRaw raw resolver
  have distinct := (Imported.ofRaw raw resolver).distinct
  generalize ofRaw raw resolver = g at recalls distinct
  obtain ⟨⟨answered, unresolved⟩, profiles⟩ := recalls
  have units : (unitsOf g.identities).Nodup := nodup_eraseDups _
  refine {
    locator := fun i p node => ?_
    digest := fun i p node => ?_
    unresolved := fun c => ?_
    units := ?_
    locators := ?_
    directly := fun i p locator node answer => ?_
    warnings := answered.warnings
    warned_once := fun locator => ?_ }
  · conv => lhs; rw [profiles i p node]
    exact resolver.profile_locator p.reported
  · conv => lhs; rw [profiles i p node]
    exact resolver.profile_digest p.reported
  · have kept :
        (g.identities.filter fun c => !(resolver.profile c).isResolved).map (·.name) |>.Nodup :=
      distinct.sublist (List.filter_sublist.map _)
    rw [Callgraph.unresolved, unresolved, ConstructSet.members_ofList_of_nodup kept,
      List.mem_filter, mem_identities]
    constructor
    · rintro ⟨⟨i, p, node, rfl⟩, missing⟩
      rw [← profiles i p node] at missing
      exact ⟨i, p, node, rfl, by simpa using missing⟩
    · rintro ⟨i, p, node, rfl, missing⟩
      refine ⟨⟨i, p, node, rfl⟩, ?_⟩
      rw [← profiles i p node, missing]
      rfl
  · rw [answered.asked, resolver.units_questions]
  · rw [answered.asked, resolver.locators_questions units]
  · rw [answered.asked]
    have member : p.reported.unit ∈ unitsOf g.identities :=
      List.mem_eraseDups.2 (List.mem_map_of_mem (mem_identities.2 ⟨i, p, node, rfl⟩))
    exact Resolver.questions_of_handedOut (Resolver.mem_handedOut.2 ⟨_, member, answer⟩)
  · rw [answered.warnings]
    exact resolver.length_warnings_le_one (nodup_eraseDups _) locator

-- Two units share an archive whose digest fails: it is asked for once, and there is one warning.
example :
    let resolver : Resolver :=
      ⟨fun unit => if unit = "c" then none else some "z.jar", fun _ => .error (.failed "broken")⟩
    let raw : RawGraph :=
      ⟨["a", "b", "c", "a"].map fun name => ⟨.java, .package, name⟩, fun _ => []⟩
    let found := (ofRaw raw resolver).provenance
    found.asked = [.locate "a", .digest "z.jar", .locate "b", .locate "c"] ∧
      found.warnings.length = 1 := by
  decide +kernel

end Callgraph

end Exposure
