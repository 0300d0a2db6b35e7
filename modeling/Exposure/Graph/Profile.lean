/-
# Graph.Profile — what is known of a node, and how it is found out

A node carries the construct as its engine reported it, the construct without
synthetic parts when there were any, and the archive that it came from.
`Profile.effective` is the identity that everything downstream uses.

Provenance is found out with a memory: a resolver is asked for the archive of a
unit once, and for the digest of an archive once, right after the question that
first produced it; a digest that failed is remembered as the empty one.  The
questions put to the resolver are kept in order, with the warnings that failing
digests gave.
-/
import Exposure.Archive.Basic
import Exposure.Construct.Set
import Exposure.Log

namespace Exposure

set_option autoImplicit false

/-- What is known of a node. -/
structure Profile where
  /-- The construct as the engine reported it. -/
  reported : Construct
  /-- The construct without synthetic parts; nameless when there were none. -/
  normalized : Construct
  /-- The archive; empty when the unit could not be located. -/
  locator : String
  /-- The archive's digest; empty when it is not known. -/
  digest : String
  deriving DecidableEq, Repr, Inhabited

namespace Profile

/-- The identity used downstream. -/
def effective (p : Profile) : Construct :=
  if p.normalized.isNameless then p.reported else p.normalized

/-- The name of the identity used downstream. -/
def name (p : Profile) : String := p.effective.name

/-- Whether the node could be attributed to an archive. -/
def isResolved (p : Profile) : Bool := p.digest != ""

/-- Nodes are listed by their effective names. -/
def nameLe (a b : Profile) : Bool := decide (a.name ≤ b.name)

end Profile

/-- A question put to a resolver. -/
inductive Question where
  | locate (unit : String)
  | digest (locator : String)
  deriving DecidableEq, Repr

/-- What has been found out about archives so far. -/
structure Provenance where
  /-- The archive of every unit asked for. -/
  locators : List (String × Option String)
  /-- The digest of every archive asked for; empty when it failed. -/
  digests : List (String × String)
  /-- The constructs without a digest. -/
  unresolved : ConstructSet
  /-- The questions put to the resolver, oldest first. -/
  asked : List Question
  /-- The warnings about failing digests, oldest first. -/
  warnings : List Log.Record

namespace Provenance

def empty : Provenance := ⟨[], [], .empty, [], []⟩

/-- The archive of `unit`, asked for only when it is not yet known. -/
def locate (resolver : Resolver) (p : Provenance) (unit : String) : Option String × Provenance :=
  match p.locators.lookup unit with
  | some known => (known, p)
  | none =>
    let answer := resolver.locate unit
    (answer, { p with
      locators := p.locators ++ [(unit, answer)]
      asked := p.asked ++ [.locate unit] })

/-- The warning about a digest that failed. -/
def digestWarning (locator : String) (e : ArchiveError) : Log.Record :=
  Log.warn "computing archive digest" [("locator", .text locator), ("error", .text e.message)]

/-- The digest of `locator`, asked for only when it is not yet known. -/
def digest (resolver : Resolver) (p : Provenance) (locator : String) : String × Provenance :=
  match p.digests.lookup locator with
  | some known => (known, p)
  | none =>
    let asked := p.asked ++ [.digest locator]
    match resolver.digest locator with
    | .ok d => (d, { p with digests := p.digests ++ [(locator, d)], asked })
    | .error e =>
      ("", { p with
        digests := p.digests ++ [(locator, "")]
        asked
        warnings := if e.isUnknown then p.warnings else p.warnings ++ [digestWarning locator e] })

/-- The construct without synthetic parts, nameless when there were none. -/
def normalForm (c : Construct) : Construct := c.normalize.getD .nameless

/-- What is known of the node of a construct. -/
def describe (resolver : Resolver) (p : Provenance) (c : Construct) : Profile × Provenance :=
  match p.locate resolver c.unit with
  | (none, p) => (⟨c, normalForm c, "", ""⟩, { p with unresolved := p.unresolved.add c })
  | (some locator, p) =>
    match p.digest resolver locator with
    | (d, p) =>
      (⟨c, normalForm c, locator, d⟩,
        if d == "" then { p with unresolved := p.unresolved.add c } else p)

end Provenance

end Exposure
