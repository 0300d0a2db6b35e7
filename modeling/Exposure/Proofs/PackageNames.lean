/-
# Proofs.PackageNames — from the name of a function back to its package

The name of a function is the import path of its package, a dot, and what the
package calls it.  Only dots stand between these, so the path has to be told from
the rest by its last element: it must have no dot and no version after it, or end
with a version after its only dot (`Name.EndsClearly`).  Exactly then the unit of
the function is its package, and the module of that package is found under it
(`Program.FunctionKey.package_of_name`).
-/
import Exposure.Archive.Modules
import Exposure.Program.Functions
import Exposure.Proofs.Dicts
import Exposure.Proofs.Units

namespace Exposure

set_option autoImplicit false

open Text

/-! ## Import paths before symbols -/

namespace Name

/-- A text that separates nothing in a name. -/
def IsSymbol (s : List Char) : Prop := ∀ c ∈ s, c ≠ '.' ∧ c ≠ '/' ∧ c ≠ '[' ∧ c ≠ '('

instance (s : List Char) : Decidable (IsSymbol s) := List.decidableBAll _ s

theorem IsSymbol.append {s t : List Char} (first : IsSymbol s) (last : IsSymbol t) :
    IsSymbol (s ++ t) :=
  List.forall_mem_append.2 ⟨first, last⟩

theorem IsSymbol.dot {s : List Char} (symbol : IsSymbol s) : '.' ∉ s :=
  fun member => (symbol _ member).1 rfl

/-- An import path that can be told from a dot and a symbol that starts with `first`. -/
inductive EndsClearly : List Char → List Char → Prop where
  | plain {dir last first : List Char} (ends : EndsAt '/' dir) (slash : '/' ∉ last)
      (dot : '.' ∉ last)
      (other : ¬ IsVersion first) : EndsClearly (dir ++ last) first
  | versioned {dir stem version first : List Char} (ends : EndsAt '/' dir)
      (slash : '/' ∉ stem ++ '.' :: version)
      (dot : '.' ∉ stem) (isVersion : IsVersion version) : EndsClearly
        (dir ++ (stem ++ '.' :: version)) first

/-- The path before a dot and a symbol is read off exactly if it ends clearly. -/
theorem packagePath_append_iff {path rest : List Char} (bare : IsBare (path ++ '.' :: rest))
    (slash : '/' ∉ rest) :
    packagePath (path ++ '.' :: rest) = path ↔ EndsClearly path (upTo '.' rest) := by
  constructor
  · intro read
    have isPath := pathOf_packagePath (path ++ '.' :: rest)
    rw [bare_eq_self bare, read] at isPath
    generalize whole : path ++ '.' :: rest = name at isPath
    cases isPath with
    | whole =>
        have lengths := congrArg List.length whole
        simp at lengths
    | @symbol dir last rest' ends slash dot other =>
        obtain rfl : rest = rest' := by simpa using whole
        exact .plain ends (fun member => slash (List.mem_append_left _ member)) dot other
    | @version dir last rest' ends slash dot version =>
        have inside := append_cons_upTo_isPrefix '.' '.' last rest'
        exact .versioned ends (fun member => slash (inside.subset member)) dot version
  · intro clear
    refine PathOf.packagePath_eq bare ?_
    generalize first : upTo '.' rest = symbol at clear
    cases clear with
    | @plain dir last _ ends plain dot other =>
        rw [List.append_assoc]
        exact .symbol ends (by simp [plain, slash]) dot (first ▸ other)
    | @versioned dir stem version _ ends plain dot isVersion =>
        -- the version is read up to the dot of the symbol, so whatever follows cannot spoil it
        have short : upTo '.' (version ++ '.' :: rest) = version := by
          rw [upTo_append_cons, upTo_of_not_mem isVersion.not_mem]
        have isPath : PathOf _ (dir ++ (stem ++ '.' :: upTo '.' (version ++ '.' :: rest))) :=
          .version ends (by simpa [slash] using plain) dot (short.symm ▸ isVersion)
        rw [short] at isPath
        simpa using isPath

end Name

/-! ## Modules of packages -/

namespace Modules

theorem byPackage_ofPackages (packages : List (String × Option Module))
    (directories : List (Option Directory)) :
    (ofPackages packages directories).byPackage =
      Dict.ofList (packages.filterMap fun (p, m) => m.map (p, ·)) := by
  induction packages using List.reverseRecOn with
  | nil => rfl
  | append_singleton packages last ih =>
      obtain ⟨package, _ | m⟩ := last
      · have same : ofPackages (packages ++ [(package, none)]) directories =
            ofPackages packages directories :=
          List.foldl_append
        rw [same, ih, List.filterMap_append, List.filterMap_cons_none rfl, List.filterMap_nil,
          List.append_nil]
      · have added : ofPackages (packages ++ [(package, some m)]) directories =
            (ofPackages packages directories).add package m := List.foldl_append
        rw [added, add, ih, List.filterMap_append]
        exact (Dict.ofList_concat _ package m).symm

/-- The only module that provides a package is found, unless it is that of the program. -/
theorem locate_ofPackages {packages : List (String × Option Module)} {package : String} {m : Module}
    (provided : (package, some m) ∈ packages) (only : ∀ n, (package, some n) ∈ packages → n = m)
    (directories : List (Option Directory)) :
    (ofPackages packages directories).locate package = if m.isMain then none
      else some m.locator := by
  have found : (ofPackages packages directories).byPackage.get? package = some m := by
    rw [byPackage_ofPackages, Dict.get?_ofList]
    cases answer : Dict.lookup package (packages.filterMap fun (p, m) => m.map (p, ·)).reverse with
    | none =>
        rw [← Dict.get?_ofList, Dict.get?_ofList_eq_none] at answer
        exact absurd rfl (answer (package, m) (List.mem_filterMap.2 ⟨_, provided, rfl⟩))
    | some n =>
        obtain ⟨⟨p, module⟩, member, same⟩ :=
          List.mem_filterMap.1 (List.mem_reverse.1 (Dict.mem_of_lookup answer))
        obtain ⟨n', rfl, pair⟩ := Option.map_eq_some_iff.1 same
        cases pair
        rw [only n member]
  simp only [locate, found]

end Modules

/-! ## Names of functions -/

namespace Program.FunctionKey

open Name

/-- The numbers of closures as they stand in a name. -/
def closureSuffix (k : FunctionKey) : List Char :=
  k.closures.flatMap fun n => '$' :: Nat.toDigits 10 n

/-- What stands between the path of the package and the next dot of a name, if there is one. -/
def firstPart (k : FunctionKey) : List Char :=
  match k.type with
  | none => k.name.toList ++ k.closureSuffix
  | some t => t.toList

theorem isSymbol_closureSuffix (k : FunctionKey) : IsSymbol k.closureSuffix := by
  intro c member
  obtain ⟨n, -, written⟩ := List.mem_flatMap.1 member
  rcases List.mem_cons.1 written with rfl | digit
  · decide
  · have digit := Nat.isDigit_of_mem_toDigits (b := 10) (by decide) (by decide) digit
    refine ⟨?_, ?_, ?_, ?_⟩ <;> rintro rfl <;> exact absurd digit (by decide)

/-- A name is the path of the package, a dot, and a rest that starts with its first part. -/
theorem exists_rest {k : FunctionKey} (type : ∀ t, k.type = some t → IsSymbol t.toList)
    (name : IsSymbol k.name.toList) :
    ∃ rest, k.qualifiedName.toList = k.package.toList ++ '.' :: rest ∧ upTo '.' rest = k.firstPart ∧
      ∀ c ∈ rest, c ≠ '/' ∧ c ≠ '[' ∧ c ≠ '(' := by
  have suffix : (String.join (k.closures.map fun n => "$" ++ Nat.repr n)).toList =
      k.closureSuffix := by
    simp [closureSuffix, String.toList_join, List.flatMap_map, Nat.toList_repr]
  have own := name.append k.isSymbol_closureSuffix
  cases receiver : k.type with
  | none =>
      refine ⟨k.name.toList ++ k.closureSuffix, ?_, ?_, fun c member => (own c member).2⟩
      · simp [qualifiedName, receiver, suffix]
      · rw [upTo_of_not_mem own.dot, firstPart, receiver]
  | some t =>
      refine ⟨t.toList ++ '.' :: (k.name.toList ++ k.closureSuffix), ?_, ?_, ?_⟩
      · simp [qualifiedName, receiver, suffix]
      · rw [upTo_append_cons, upTo_of_not_mem (type t receiver).dot, firstPart, receiver]
      · refine List.forall_mem_append.2 ⟨fun c member => (type t receiver c member).2, ?_⟩
        exact List.forall_mem_cons.2 ⟨by decide, fun c member => (own c member).2⟩

theorem unit_eq_package_iff {k : FunctionKey} (path : IsBare k.package.toList)
    (type : ∀ t, k.type = some t → IsSymbol t.toList) (name : IsSymbol k.name.toList) :
    k.construct.unit = k.package ↔ EndsClearly k.package.toList k.firstPart := by
  obtain ⟨rest, written, first, plain⟩ := exists_rest type name
  have bare : IsBare (k.package.toList ++ '.' :: rest) := by
    constructor
    · simpa [path.1] using fun member => (plain _ member).2.1 rfl
    · simpa [path.2] using fun member => (plain _ member).2.2 rfl
  rw [Construct.unit_of_go (c := k.construct) rfl, ← String.toList_inj,
    String.toList_ofList, ← first]
  show packagePath k.qualifiedName.toList = _ ↔ _
  rw [written]
  exact packagePath_append_iff bare fun member => (plain _ member).1 rfl

/-- **A function gives back its package.**  The unit of a function is the import path of its package
exactly if that ends clearly, whatever its receiver, its name and its closures are.  The module of
the package is then found under the unit. -/
theorem package_of_name (k : FunctionKey) (path : IsBare k.package.toList)
    (type : ∀ t, k.type = some t → IsSymbol t.toList) (name : IsSymbol k.name.toList) :
    (k.construct.unit = k.package ↔ EndsClearly k.package.toList k.firstPart) ∧
    (EndsClearly k.package.toList k.firstPart →
      ∀ (packages : List (String × Option Module)) (directories : List (Option Directory))
        (m : Module),
        (k.package, some m) ∈ packages → (∀ n, (k.package, some n) ∈ packages → n = m) →
        (Modules.ofPackages packages directories).locate k.construct.unit =
          if m.isMain then none else some m.locator) := by
  have gives := unit_eq_package_iff path type name
  refine ⟨gives, fun clear packages directories m provided only => ?_⟩
  rw [gives.2 clear]
  exact Modules.locate_ofPackages provided only directories

/-- A closure in a method of a package with a version in its path. -/
theorem package_of_name_versioned :
    (construct ⟨"gopkg.in/yaml.v3", some "Decoder", "Decode", [1], false, 0⟩).unit =
      "gopkg.in/yaml.v3" ∧
    (Modules.ofPackages
      [("gopkg.in/yaml.v3", some ⟨"gopkg.in/yaml.v3", "v3.0.1", false, none, none⟩)] []).locate
      (construct ⟨"gopkg.in/yaml.v3", some "Decoder", "Decode", [1], false, 0⟩).unit =
        some "gopkg.in/yaml.v3@v3.0.1" := by
  have clear : EndsClearly ("gopkg.in/".toList ++ ("yaml".toList ++ '.' :: 'v' :: ['3']))
      "Decoder".toList :=
    .versioned (.inr ⟨"gopkg.in".toList, rfl⟩) (by decide) (by decide)
      ⟨['3'], by decide, List.forall_mem_singleton.2 rfl, rfl⟩
  obtain ⟨gives, finds⟩ :=
    package_of_name ⟨"gopkg.in/yaml.v3", some "Decoder", "Decode", [1], false, 0⟩ (by decide)
      (by rintro t ⟨⟩; decide) (by decide)
  refine ⟨gives.2 clear, ?_⟩
  rw [finds clear _ [] ⟨"gopkg.in/yaml.v3", "v3.0.1", false, none, none⟩
    (List.mem_singleton.2 rfl) (by simp)]
  decide

/-- A dot in the last element of a path that no version follows cuts the path there, and the module
of the package is not found.  A receiver that is named like a version becomes part of the path. -/
theorem dotted_path_is_cut :
    (construct ⟨"example.com/lib.go", none, "Parse", [], false, 0⟩).unit = "example.com/lib" ∧
    (Modules.ofPackages
      [("example.com/lib.go", some ⟨"example.com/lib.go", "v1.0.0", false, none, none⟩)] []).locate
      (construct ⟨"example.com/lib.go", none, "Parse", [], false, 0⟩).unit = none ∧
    (construct ⟨"example.com/lib", some "v1", "Do", [], false, 0⟩).unit = "example.com/lib.v1" :=
  ⟨by rfl, by rfl, by rfl⟩

end Program.FunctionKey

end Exposure
