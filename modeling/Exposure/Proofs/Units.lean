/-
# Proofs.Units — the unit that a name denotes

The import path at the start of a Go name ends at the first dot after the last
slash, or at the second one if a version such as `v3` stands between them
(`Name.PathOf`); this is what is read off every name (`Name.pathOf_packagePath`).
Other languages cut a name at its parameters and at its last dot.

Whatever the language, the unit of a name is the beginning of it and its own
unit, and no cut leaves the name (`Construct.units_are_stable`).  The cuts are
stated once more by positions for this, each of them refused unless it is within
the text (`Name.kindAt?`, `Construct.unitAt?`).
-/
import Exposure.Construct.Name
import Exposure.Proofs.Cuts

namespace Exposure

set_option autoImplicit false

open Text

namespace Name

/-! ## Version elements -/

/-- The letter `v` and a number. -/
def IsVersion (s : List Char) : Prop :=
  ∃ digits, digits ≠ [] ∧ (∀ d ∈ digits, isDigit d = true) ∧ s = 'v' :: digits

theorem IsVersion.not_mem {s : List Char} (version : IsVersion s) : '.' ∉ s := by
  obtain ⟨digits, -, numeric, rfl⟩ := version
  intro member
  rcases List.mem_cons.1 member with letter | digit
  · exact absurd letter (by decide)
  · exact absurd (numeric '.' digit) (by decide)

/-- The digits that a text starts with stand before its first dot. -/
theorem upTo_digits (r : List Char) :
    upTo '.' r = r.takeWhile isDigit ++ upTo '.' (r.dropWhile isDigit) := by
  have skipped : ∀ d ∈ r.takeWhile isDigit, (d != '.') = true := by
    intro d member
    have digit : isDigit d = true := List.mem_takeWhile_imp member
    simpa using fun same : d = '.' => absurd (same ▸ digit) (by decide)
  calc upTo '.' r
    _ = upTo '.' (r.takeWhile isDigit ++ r.dropWhile isDigit) := by
      rw [List.takeWhile_append_dropWhile]
    _ = r.takeWhile isDigit ++ upTo '.' (r.dropWhile isDigit) :=
      List.takeWhile_append_of_pos skipped

theorem isVersion_iff (r : List Char) :
    IsVersion ('v' :: upTo '.' r) ↔
      r.takeWhile isDigit ≠ [] ∧
        (r.dropWhile isDigit = [] ∨ (r.dropWhile isDigit).head? = some '.') := by
  rw [upTo_digits]
  constructor
  · rintro ⟨digits, filled, numeric, same⟩
    obtain ⟨-, rfl⟩ := List.cons.inj same
    cases rest : r.dropWhile isDigit with
    | nil => exact ⟨by simpa [rest, upTo] using filled, .inl rfl⟩
    | cons d rest' =>
        have stop := List.head?_dropWhile_not isDigit r
        rw [rest] at stop
        have dot : d = '.' := by
          by_contra other
          have among : d ∈ r.takeWhile isDigit ++ upTo '.' (r.dropWhile isDigit) := by
            rw [rest, upTo, List.takeWhile_cons, if_pos (by simpa using other)]
            simp
          have digit := numeric d among
          simp [digit] at stop
        subst dot
        exact ⟨by simpa [rest, upTo] using filled, .inr rfl⟩
  · rintro ⟨filled, stops⟩
    rw [upTo_eq_nil stops, List.append_nil]
    exact ⟨_, filled, fun d member => List.mem_takeWhile_imp member, rfl⟩

/-- A version after a dot belongs to the path. -/
theorem versionElement_of_version {t : List Char} (version : IsVersion (upTo '.' t)) :
    versionElement ('.' :: t) = '.' :: upTo '.' t := by
  cases t with
  | nil =>
      obtain ⟨digits, -, -, impossible⟩ := version
      cases impossible
  | cons c r =>
      have letter : c = 'v' := by
        obtain ⟨digits, -, -, same⟩ := version
        by_cases dot : c = '.'
        · subst dot
          cases same
        · rw [upTo, List.takeWhile_cons, if_pos (by simpa using dot)] at same
          exact (List.cons.inj same).1
      subst letter
      have element : upTo '.' ('v' :: r) = 'v' :: upTo '.' r := rfl
      rw [element] at version ⊢
      obtain ⟨filled, stops⟩ := (isVersion_iff r).1 version
      rw [upTo_digits, upTo_eq_nil stops, List.append_nil]
      simp only [versionElement]
      rw [if_neg (by simpa using filled), if_pos (by simpa using stops)]

/-- Anything else does not. -/
theorem versionElement_of_not_version {t : List Char} (other : ¬ IsVersion (upTo '.' t)) :
    versionElement ('.' :: t) = [] := by
  unfold versionElement
  split
  · rename_i r eq
    obtain ⟨-, rfl⟩ := List.cons.inj eq
    have element : upTo '.' ('v' :: r) = 'v' :: upTo '.' r := rfl
    rw [element, isVersion_iff] at other
    simp only
    split
    · rfl
    · rename_i filled
      split
      · rename_i stops
        exact absurd ⟨by simpa using filled, by simpa using stops⟩ other
      · rfl
  · rfl

/-! ## Import paths -/

/-- A text without type arguments and parameters. -/
def IsBare (s : List Char) : Prop := '[' ∉ s ∧ '(' ∉ s

instance (s : List Char) : Decidable (IsBare s) := inferInstanceAs (Decidable (_ ∧ _))

theorem bare_eq_self {s : List Char} (plain : IsBare s) : bare s = s := by
  refine List.takeWhile_eq_self_iff.2 fun c member => ?_
  have bracket : c ≠ '[' := fun same => plain.1 (same ▸ member)
  have parenthesis : c ≠ '(' := fun same => plain.2 (same ▸ member)
  simp [bracket, parenthesis]

theorem isBare_bare (name : List Char) : IsBare (bare name) := by
  constructor <;> intro member <;> exact absurd (List.mem_takeWhile_imp member) (by decide)

theorem IsBare.of_isPrefix {s t : List Char} (plain : IsBare t) (isPrefix : s <+: t) : IsBare s :=
  ⟨fun member => plain.1 (isPrefix.subset member), fun member => plain.2 (isPrefix.subset member)⟩

/-- The import path that a text starts with.  It ends at the first dot of the last element, or at
the second one if a version stands between them. -/
inductive PathOf : List Char → List Char → Prop where
  | whole {dir last : List Char} (ends : EndsAt '/' dir) (slash : '/' ∉ last) (dot : '.' ∉ last) :
      PathOf (dir ++ last) (dir ++ last)
  | symbol {dir last rest : List Char} (ends : EndsAt '/' dir) (slash : '/' ∉ last ++ '.' :: rest)
      (dot : '.' ∉ last)
      (other : ¬ IsVersion (upTo '.' rest)) : PathOf (dir ++ (last ++ '.' :: rest)) (dir ++ last)
  | version {dir last rest : List Char} (ends : EndsAt '/' dir) (slash : '/' ∉ last ++ '.' :: rest)
      (dot : '.' ∉ last)
      (version : IsVersion (upTo '.' rest)) :
      PathOf (dir ++ (last ++ '.' :: rest)) (dir ++ (last ++ '.' :: upTo '.' rest))

namespace PathOf

variable {s path : List Char}

theorem isPrefix (isPath : PathOf s path) : path <+: s := by
  cases isPath with
  | whole => exact List.prefix_refl _
  | symbol => exact List.prefix_append_right_inj _ |>.2 (List.prefix_append _ _)
  | version => exact List.prefix_append_right_inj _ |>.2 (append_cons_upTo_isPrefix '.' '.' _ _)

/-- A path is its own path. -/
theorem again (isPath : PathOf s path) : PathOf path path := by
  cases isPath with
  | whole ends slash dot => exact .whole ends slash dot
  | symbol ends slash dot other =>
      exact .whole ends (fun member => slash (List.mem_append_left _ member)) dot
  | @version dir last rest ends slash dot version =>
      have short : upTo '.' (upTo '.' rest) = upTo '.' rest := upTo_of_not_mem version.not_mem
      have inside := append_cons_upTo_isPrefix '.' '.' last rest
      have isPath : PathOf _ (dir ++ (last ++ '.' :: upTo '.' (upTo '.' rest))) :=
        .version ends (fun member => slash (inside.subset member)) dot (short.symm ▸ version)
      rwa [short] at isPath

theorem packagePath_eq (plain : IsBare s) (isPath : PathOf s path) : packagePath s = path := by
  rw [packagePath, bare_eq_self plain]
  cases isPath with
  | whole ends slash dot =>
      obtain ⟨before, after⟩ := cut_last ends slash
      have none := List.dropWhile_eq_nil_iff.2 (bne_of_not_mem dot)
      simp only [before, after, upTo_of_not_mem dot]
      rw [none]
      exact List.append_nil _
  | symbol ends slash dot other =>
      obtain ⟨before, after⟩ := cut_last ends slash
      simp only [before, after, upTo_append_cons, upTo_of_not_mem dot, dropWhile_append_cons dot,
        versionElement_of_not_version other, List.append_nil]
  | version ends slash dot version =>
      obtain ⟨before, after⟩ := cut_last ends slash
      simp only [before, after, upTo_append_cons, upTo_of_not_mem dot, dropWhile_append_cons dot,
        versionElement_of_version version, List.append_assoc]

end PathOf

theorem exists_pathOf (s : List Char) : ∃ path, PathOf s path := by
  have ends := endsAt_throughLast '/' s
  have slash := not_mem_afterLast '/' s
  rw [← throughLast_append_afterLast '/' s]
  generalize throughLast '/' s = dir at ends ⊢
  generalize afterLast '/' s = last at slash ⊢
  by_cases dot : '.' ∈ last
  · obtain ⟨first, rest, rfl, none⟩ := List.eq_append_cons_of_mem dot
    by_cases version : IsVersion (upTo '.' rest)
    · exact ⟨_, .version ends slash none version⟩
    · exact ⟨_, .symbol ends slash none version⟩
  · exact ⟨_, .whole ends slash dot⟩

theorem packagePath_bare (name : List Char) : packagePath (bare name) = packagePath name := by
  rw [packagePath, packagePath, bare_eq_self (isBare_bare name)]

/-- What is read off a name is the path of its bare part. -/
theorem pathOf_packagePath (name : List Char) : PathOf (bare name) (packagePath name) := by
  obtain ⟨path, isPath⟩ := exists_pathOf (bare name)
  rwa [← packagePath_bare, isPath.packagePath_eq (isBare_bare name)]

theorem packagePath_isPrefix (name : List Char) : packagePath name <+: name :=
  (pathOf_packagePath name).isPrefix.trans (List.takeWhile_prefix _)

theorem packagePath_packagePath (name : List Char) :
    packagePath (packagePath name) = packagePath name := by
  have isPath := pathOf_packagePath name
  exact isPath.again.packagePath_eq ((isBare_bare name).of_isPrefix isPath.isPrefix)

end Name

/-! ## Names cut by position -/

namespace Name

/-- The import path at the start of a name, cut by positions. -/
def packagePathAt? (name : List Char) : Option (List Char) := do
  let stem ← slice? name 0 (name.findIdx fun c => c == '[' || c == '(')
  let start := afterPosition '/' stem
  let last ← slice? stem start stem.length
  let dot := start + last.findIdx (· == '.')
  let rest ← slice? stem dot stem.length
  slice? stem 0 (dot + (versionElement rest).length)

/-- The kind that a name denotes, cut by positions. -/
def kindAt? (lang : Lang) (name : List Char) : Option Kind :=
  if lang = .go then do
    let path ← packagePathAt? name
    if path = name then return .package
    let symbol ← slice? name (path.length + 1) name.length
    return if symbol.contains '.' then .method else .function
  else do
    let stem ← slice? name 0 (name.findIdx (· == '('))
    let simple ← slice? stem (afterPosition '.' stem) stem.length
    return if name.contains '(' then (if capitalized simple then .constructor else .method)
      else if capitalized simple then .class
      else .package

theorem packagePathAt?_eq (name : List Char) : packagePathAt? name = some (packagePath name) := by
  have stem : slice? name 0 (name.findIdx fun c => c == '[' || c == '(') = some (bare name) :=
    slice?_takeWhile (fun c => by simp [bne]) name
  have divided := throughLast_append_afterLast '/' (bare name)
  have element := List.takeWhile_append_dropWhile (p := (· != '.')) (l := afterLast '/' (bare name))
  have rest : slice? (bare name)
      (afterPosition '/' (bare name) + (afterLast '/' (bare name)).findIdx (· == '.'))
      (bare name).length = some ((afterLast '/' (bare name)).dropWhile (· != '.')) := by
    have cut := slice?_end (throughLast '/' (bare name) ++ upTo '.' (afterLast '/' (bare name)))
      ((afterLast '/' (bare name)).dropWhile (· != '.'))
    rw [List.append_assoc, upTo, element, divided] at cut
    rwa [afterPosition_eq, ← length_upTo, ← List.length_append]
  have isPrefix : packagePath name <+: bare name := (pathOf_packagePath name).isPrefix
  have path := slice?_start isPrefix
  rw [packagePath, List.length_append, List.length_append, length_upTo, ← afterPosition_eq] at path
  simp only [packagePathAt?, stem, slice?_afterPosition, rest, path, Option.bind_eq_bind,
    Option.bind_some]
  rfl

theorem kindAt?_eq (lang : Lang) (name : String) :
    kindAt? lang name.toList = some (kindOf lang name) := by
  rw [kindAt?, kindOf]
  split
  · rw [packagePathAt?_eq, goKind]
    by_cases whole : packagePath name.toList = name.toList
    · simp [whole]
    · -- one character at least is left after the path
      obtain ⟨rest, eq⟩ := packagePath_isPrefix name.toList
      cases rest with
      | nil => exact absurd (by simpa using eq) whole
      | cons c symbol =>
          have cut := slice?_end (packagePath name.toList ++ [c]) symbol
          rw [List.append_assoc, List.singleton_append, eq, List.length_append,
            List.length_singleton] at cut
          have dropped : (packagePath name.toList ++ c :: symbol).drop
              ((packagePath name.toList).length + 1) = symbol := by
            simp
          rw [eq] at dropped
          simp [whole, cut, dropped]
  · simp only [slice?_upTo, slice?_afterPosition, Option.bind_eq_bind, Option.bind_some]
    rfl

end Name

/-! ## Units -/

namespace Construct

/-- The unit of a construct, cut by positions. -/
def unitAt? (c : Construct) : Option (List Char) :=
  if c.lang = .go then Name.packagePathAt? c.name.toList
  else if c.kind = .package ∨ c.kind = .class then some c.name.toList
  else do
    let stem ← slice? c.name.toList 0 (c.name.toList.findIdx (· == '('))
    if c.kind = .constructor then return stem
    if stem.contains '.' then slice? stem 0 (afterPosition '.' stem - 1) else return stem

theorem unitAt?_eq (c : Construct) : c.unitAt? = some c.unit.toList := by
  unfold unitAt? unit
  split
  · rw [Name.packagePathAt?_eq, String.toList_ofList]
  split
  · rfl
  simp only [slice?_upTo, Option.bind_eq_bind, Option.bind_some]
  split
  · rw [String.toList_ofList]
    rfl
  · rw [String.toList_ofList, beforeLast?, Name.withoutParameters]
    split
    · have cut := slice?_start
        ((List.dropLast_prefix _).trans (throughLast_isPrefix '.' (upTo '(' c.name.toList)))
      rwa [List.length_dropLast, ← afterPosition_eq] at cut
    · rfl

theorem unit_of_go {c : Construct} (go : c.lang = .go) :
    c.unit = String.ofList (Name.packagePath c.name.toList) :=
  if_pos go

/-- Outside of Go a name without parameters is that of a unit. -/
theorem kind_ofName_iff {lang : Lang} (other : lang ≠ .go) (name : String) :
    ((ofName lang name).kind = .package ∨ (ofName lang name).kind = .class) ↔
      '(' ∉ name.toList := by
  simp only [ofName, Name.kindOf, if_neg other, Name.memberKind]
  by_cases call : '(' ∈ name.toList
  · rw [if_pos (by simpa using call)]
    refine ⟨fun whole => ?_, fun none => absurd call none⟩
    split at whole <;> exact absurd whole (by decide)
  · rw [if_neg (by simpa using call)]
    refine ⟨fun _ => call, fun _ => ?_⟩
    split
    · exact .inr rfl
    · exact .inl rfl

theorem unit_eq_name {c : Construct} (other : c.lang ≠ .go)
    (whole : c.kind = .package ∨ c.kind = .class) : c.unit = c.name := by
  rw [unit, if_neg other, if_pos whole]

/-- Outside of Go the unit of a member stands before its parameters. -/
theorem unit_isPrefix_stem {c : Construct} (other : c.lang ≠ .go)
    (member : ¬ (c.kind = .package ∨ c.kind = .class)) :
    c.unit.toList <+: Name.withoutParameters c.name.toList := by
  rw [unit, if_neg other, if_neg member]
  simp only
  split
  · simp only [String.toList_ofList, List.prefix_refl]
  · rw [String.toList_ofList]
    exact beforeLast?_isPrefix _ _

theorem unit_isPrefix (c : Construct) : c.unit.toList <+: c.name.toList := by
  by_cases go : c.lang = .go
  · rw [unit_of_go go, String.toList_ofList]
    exact Name.packagePath_isPrefix _
  by_cases whole : c.kind = .package ∨ c.kind = .class
  · simp only [unit_eq_name go whole, List.prefix_refl]
  · exact (unit_isPrefix_stem go whole).trans (List.takeWhile_prefix _)

/-- The unit of a unit is that unit. -/
theorem unit_unit (lang : Lang) (name : String) :
    (ofName lang (ofName lang name).unit).unit = (ofName lang name).unit := by
  by_cases go : lang = .go
  · rw [unit_of_go (c := ofName lang (ofName lang name).unit) go,
      unit_of_go (c := ofName lang name) go]
    show String.ofList (Name.packagePath (String.ofList (Name.packagePath name.toList)).toList) = _
    rw [String.toList_ofList, Name.packagePath_packagePath]
    rfl
  · refine unit_eq_name go ((kind_ofName_iff go _).2 ?_)
    by_cases call : '(' ∈ name.toList
    · have member := mt (kind_ofName_iff go name).1 (not_not_intro call)
      exact fun inside => not_mem_upTo '(' _ ((unit_isPrefix_stem go member).subset inside)
    · rwa [unit_eq_name go ((kind_ofName_iff go name).2 call)]

/-- **Units are stable beginnings of names.**  In any language the cuts of a name are all within it,
where its kind is inferred and where its unit is taken.  The unit is the beginning of the name and
its own unit.  A Go name is that of a package exactly if it is its own import path. -/
theorem units_are_stable (lang : Lang) (name : String) :
    Name.kindAt? lang name.toList = some (ofName lang name).kind ∧
    (ofName lang name).unitAt? = some (ofName lang name).unit.toList ∧
    (∃ rest, name = (ofName lang name).unit ++ rest) ∧
    (ofName lang (ofName lang name).unit).unit = (ofName lang name).unit ∧
    ((ofName .go name).kind = .package ↔ String.ofList (Name.packagePath name.toList) = name) := by
  refine ⟨Name.kindAt?_eq lang name, unitAt?_eq _, ?_, unit_unit lang name, ?_⟩
  · obtain ⟨rest, eq⟩ := unit_isPrefix (ofName lang name)
    refine ⟨String.ofList rest, String.toList_inj.1 ?_⟩
    rw [String.toList_append, String.toList_ofList]
    exact eq.symm
  · rw [← String.toList_inj, String.toList_ofList]
    simp only [ofName, Name.kindOf, if_true, Name.goKind, beq_iff_eq]
    split
    · rename_i whole
      exact ⟨fun _ => whole, fun _ => rfl⟩
    · rename_i longer
      refine ⟨fun package => ?_, fun whole => absurd whole longer⟩
      split at package <;> exact absurd package (by decide)

end Construct

end Exposure
