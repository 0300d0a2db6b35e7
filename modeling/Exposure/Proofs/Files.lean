/-
# Proofs.Files — where paths lead

A path is resolved one element after the other, and every element but the last
has to be a directory.  Where it leads does not depend on the tree: if the walk
comes through at all, it comes to the location that its elements spell out
(`walk_eq_follow`).  So a name below a directory leads to the location of that
directory with the name at its end, whatever the directory was called
(`locate_join`).

Writing and making directories never takes a directory away (`Grows`), and
writing changes the content of one location only (`content?_put`).
-/
import Exposure.FileTree
import Mathlib.Data.List.Basic

namespace Exposure

set_option autoImplicit false

/-! ## Pieces of text -/

namespace Text

theorem fields_ne_nil (sep : Char) (s : List Char) : fields sep s ≠ [] := by
  cases s with
  | nil => simp [fields]
  | cons c r =>
      rw [fields]
      split
      · simp
      · split <;> simp

/-- A separator divides the pieces before it from those after it. -/
theorem fields_append (sep : Char) (first more : List Char) :
    fields sep (first ++ sep :: more) = fields sep first ++ fields sep more := by
  induction first with
  | nil => simp [fields]
  | cons c first ih =>
      rw [List.cons_append, fields, fields, ih]
      split
      · rfl
      · obtain ⟨f, fs, eq⟩ := List.exists_cons_of_ne_nil (fields_ne_nil sep first)
        simp [eq]

theorem fields_of_not_mem {sep : Char} {s : List Char} (absent : sep ∉ s) : fields sep s = [s] := by
  induction s with
  | nil => rfl
  | cons c s ih =>
      rw [List.mem_cons, not_or] at absent
      rw [fields, ih absent.2, if_neg (by simpa using Ne.symm absent.1)]

theorem not_mem_of_mem_fields {sep : Char} {s f : List Char} (member : f ∈ fields sep s) :
    sep ∉ f := by
  induction s generalizing f with
  | nil =>
      obtain rfl : f = [] := by simpa [fields] using member
      simp
  | cons c s ih =>
      rw [fields] at member
      split at member
      case isTrue =>
          rcases List.mem_cons.1 member with rfl | later
          · simp
          · exact ih later
      case isFalse other =>
          obtain ⟨first, rest, eq⟩ := List.exists_cons_of_ne_nil (fields_ne_nil sep s)
          rw [eq] at member ih
          rcases List.mem_cons.1 member with rfl | later
          · rw [List.mem_cons, not_or]
            exact ⟨fun same => other (by simp [same]), ih List.mem_cons_self⟩
          · exact ih (List.mem_cons_of_mem _ later)

end Text

/-! ## Paths -/

namespace FilePath

theorem elements_append (first more : String) :
    elements (first ++ "/" ++ more) = elements first ++ elements more := by
  have chars : (first ++ "/" ++ more).toList = first.toList ++ '/' :: more.toList := by simp
  rw [elements, chars, Text.fields_append, List.map_append]
  rfl

theorem elements_of_not_mem {e : String} (plain : '/' ∉ e.toList) : elements e = [e] := by
  simp [elements, Text.fields_of_not_mem plain]

theorem not_mem_of_mem_elements {path e : String} (member : e ∈ elements path) :
    '/' ∉ e.toList := by
  obtain ⟨f, among, rfl⟩ := List.mem_map.1 member
  simpa using Text.not_mem_of_mem_fields among

/-- Elements are read back from a path that is made of them. -/
theorem elements_joined : ∀ {es : List String}, es ≠ [] → (∀ e ∈ es, '/' ∉ e.toList) →
    elements (Text.joined "/" es) = es
  | [], filled, _ => absurd rfl filled
  | [e], _, plain => elements_of_not_mem (plain e List.mem_cons_self)
  | e :: f :: es, _, plain => by
      have rest := elements_joined (List.cons_ne_nil f es) fun x member =>
        plain x (List.mem_cons_of_mem e member)
      rw [Text.joined, elements_append, elements_of_not_mem (plain e List.mem_cons_self), rest]
      · rfl
      · simp

theorem isAbsolute_append (first more : String) (filled : first ≠ "") :
    isAbsolute (first ++ more) = isAbsolute first := by
  obtain ⟨c, cs, eq⟩ : ∃ c cs, first.toList = c :: cs :=
    List.exists_cons_of_ne_nil (by simpa using filled)
  simp [isAbsolute, Text.startsWith, eq, List.isPrefixOf]

/-- A path that starts with a slash has an empty first element. -/
theorem elements_of_absolute {path : String} (absolute : isAbsolute path = true) :
    ∃ rest, elements path = "" :: rest := by
  obtain ⟨rest, eq⟩ : ∃ rest, path.toList = '/' :: rest := by
    obtain ⟨rest, eq⟩ := List.isPrefixOf_iff_prefix.1 absolute
    exact ⟨rest, eq.symm⟩
  exact ⟨(Text.fields '/' rest).map String.ofList, by simp [elements, eq, Text.fields]⟩

/-- The name of a file: an element that is no way to another. -/
structure IsName (e : String) : Prop where
  plain : '/' ∉ e.toList
  filled : e ≠ ""
  notHere : e ≠ "."
  notUp : e ≠ ".."

/-- The elements of a path that are left once it is cleaned. -/
def cleanElements (path : String) : List String :=
  ((elements path).foldl (cleanStep (isAbsolute path)) []).reverse

theorem cleanStep_name {rooted : Bool} {done : List String} {e : String} (name : IsName e) :
    cleanStep rooted done e = e :: done := by
  simp [cleanStep, name.filled, name.notHere, name.notUp]

/-- Cleaning leaves no empty element and adds no slash. -/
theorem mem_foldl_cleanStep {rooted : Bool} {es done : List String}
    (before : ∀ e ∈ done, e ≠ "" ∧ '/' ∉ e.toList) (plain : ∀ e ∈ es, '/' ∉ e.toList) :
    ∀ e ∈ es.foldl (cleanStep rooted) done, e ≠ "" ∧ '/' ∉ e.toList := by
  induction es generalizing done with
  | nil => exact before
  | cons x es ih =>
      refine ih (fun e member => ?_) fun e member => plain e (List.mem_cons_of_mem x member)
      have up : ".." ≠ "" ∧ '/' ∉ "..".toList := by decide
      unfold cleanStep at member
      split at member
      · exact before e member
      · rename_i kept
        split at member
        · split at member
          · split at member
            · cases member
            · exact List.mem_singleton.1 member ▸ up
          · split at member
            · rcases List.mem_cons.1 member with rfl | old
              · exact up
              · exact before e old
            · exact before e (List.mem_cons_of_mem _ member)
        · rcases List.mem_cons.1 member with rfl | old
          · exact ⟨by simpa using fun empty => kept (by simp [empty]), plain e List.mem_cons_self⟩
          · exact before e old

theorem mem_cleanElements {path e : String} (member : e ∈ cleanElements path) :
    e ≠ "" ∧ '/' ∉ e.toList :=
  mem_foldl_cleanStep (by simp) (fun _ => not_mem_of_mem_elements) e (List.mem_reverse.1 member)

/-- The path of elements, from the root or from where one is. -/
theorem clean_eq {path : String} (filled : path ≠ "") (some : cleanElements path ≠ []) :
    clean path = (if isAbsolute path then "/" else "") ++ Text.joined "/" (cleanElements path) := by
  have read : elements (Text.joined "/" (cleanElements path)) = cleanElements path :=
    elements_joined some fun e member => (mem_cleanElements member).2
  have body : Text.joined "/" (cleanElements path) ≠ "" := by
    intro empty
    have among : "" ∈ cleanElements path := by
      rw [← read, empty]
      decide
    exact (mem_cleanElements among).1 rfl
  rw [clean, if_neg (by simpa using filled)]
  cases absolute : isAbsolute path with
  | true => simp [cleanElements, absolute]
  | false =>
      rw [cleanElements, absolute] at body ⊢
      simp [body]

/-- A cleaned path has the elements that are left, after an empty one if it starts at the root. -/
theorem elements_clean {path : String} (filled : path ≠ "") (some : cleanElements path ≠ []) :
    elements (clean path) = (if isAbsolute path then [""] else []) ++ cleanElements path ∧
      isAbsolute (clean path) = isAbsolute path := by
  have read : elements (Text.joined "/" (cleanElements path)) = cleanElements path :=
    elements_joined some fun e member => (mem_cleanElements member).2
  rw [clean_eq filled some]
  cases absolute : isAbsolute path with
  | true =>
      refine ⟨?_, ?_⟩
      · have apart := elements_append "" (Text.joined "/" (cleanElements path))
        rw [read] at apart
        exact apart
      · rw [if_pos rfl, isAbsolute_append _ _ (by decide)]
        decide
  | false =>
      rw [if_neg (by decide), String.empty_append, if_neg (by decide), List.nil_append]
      refine ⟨read, Bool.eq_false_iff.2 fun rooted => ?_⟩
      obtain ⟨rest, eq⟩ := elements_of_absolute rooted
      rw [read] at eq
      have among : "" ∈ cleanElements path := by simp [eq]
      exact (mem_cleanElements among).1 rfl

theorem clean_ne_empty (path : String) : clean path ≠ "" := by
  unfold clean
  split
  · decide
  · simp only
    split
    · simp
    · split
      · decide
      · simp_all

theorem join_ne_empty {root e : String} (filled : e ≠ "") : join [root, e] ≠ "" := by
  have some : ([root, e].filter (· != "")).isEmpty = false := by
    by_cases empty : root = "" <;> simp [empty, filled]
  simp only [join, some, Bool.false_eq_true, if_false]
  exact clean_ne_empty _

/-- **A name below a directory stands at the end of the directory's elements.** -/
theorem elements_join {dir e : String} (filled : dir ≠ "") (name : IsName e) :
    elements (join [dir, e]) = (if isAbsolute dir then [""] else []) ++ cleanElements dir ++ [e] ∧
      isAbsolute (join [dir, e]) = isAbsolute dir := by
  have joined : join [dir, e] = clean (dir ++ "/" ++ e) := by
    simp [join, filled, name.filled, Text.joined]
  have absolute : isAbsolute (dir ++ "/" ++ e) = isAbsolute dir := by
    rw [String.append_assoc, isAbsolute_append _ _ filled]
  have left : cleanElements (dir ++ "/" ++ e) = cleanElements dir ++ [e] := by
    rw [cleanElements, absolute, elements_append, elements_of_not_mem name.plain, List.foldl_append,
      List.foldl_cons, List.foldl_nil, cleanStep_name name, List.reverse_cons, cleanElements]
  have long : dir ++ "/" ++ e ≠ "" := by simp
  obtain ⟨read, rooted⟩ := elements_clean long (by simp [left])
  rw [joined, read, rooted, absolute, left, List.append_assoc]
  exact ⟨rfl, rfl⟩

end FilePath

/-! ## Locations -/

namespace FileTree

variable {t t' : FileTree} {l : Location}

/-- Where an element leads. -/
def turn (l : Location) (e : String) : Location :=
  if e == "" || e == "." then l else if e == ".." then l.dropLast else l ++ [e]

/-- Where elements lead, if one can go there. -/
def follow (l : Location) (es : List String) : Location := es.foldl turn l

/-- A walk comes through from a directory, past names that are not too long. -/
theorem walk_cons {e : String} {es : List String} {there : Location} :
    t.walk l (e :: es) = .ok there ↔
      t.isDirectory l = true ∧ e.utf8ByteSize ≤ FilePath.longestName ∧
        t.walk (turn l e) es = .ok there := by
  rw [walk]
  cases inside : t.isDirectory l with
  | false => simp
  | true =>
      simp only [Bool.not_true, Bool.false_eq_true, if_false, true_and, turn]
      by_cases here : (e == "" || e == ".") = true
      · have short : e.utf8ByteSize ≤ FilePath.longestName := by
          rcases (by simpa using here : e = "" ∨ e = ".") with rfl | rfl <;> decide
        simp only [here, if_true, short, true_and]
      · by_cases up : (e == "..") = true
        · have short : e.utf8ByteSize ≤ FilePath.longestName := by
            obtain rfl : e = ".." := by simpa using up
            decide
          simp only [here, up, if_true, Bool.false_eq_true, if_false, short, true_and]
        · by_cases long : FilePath.longestName < e.utf8ByteSize
          · simp [here, up, long, Nat.not_le.2 long]
          · simp [here, up, long, Nat.le_of_not_lt long]

/-- A walk that comes through comes to where its elements lead. -/
theorem walk_eq_follow {es : List String} {there : Location} (arrives : t.walk l es = .ok there) :
    there = follow l es := by
  induction es generalizing l with
  | nil => exact (Except.ok.inj arrives).symm
  | cons e es ih => exact ih (walk_cons.1 arrives).2.2

theorem locate_eq_ok {path : String} :
    t.locate path = .ok l ↔
      path ≠ "" ∧ '\x00' ∉ path.toList ∧
        t.walk (t.start path) (FilePath.elements path) = .ok l := by
  rw [locate]
  by_cases empty : path = ""
  · simp [empty]
  · by_cases zero : '\x00' ∈ path.toList <;> simp [empty, zero]

theorem locate_eq_follow {path : String} (found : t.locate path = .ok l) :
    l = follow (t.start path) (FilePath.elements path) :=
  walk_eq_follow (locate_eq_ok.1 found).2.2

/-- Where a cleaned path leads. -/
def folder (t : FileTree) (dir : String) : Location :=
  follow (t.start dir)
    ((if FilePath.isAbsolute dir then [""] else []) ++ FilePath.cleanElements dir)

/-- **A name below a directory leads to the location of the directory with the name at its end.** -/
theorem locate_join {dir e : String} (filled : dir ≠ "") (name : FilePath.IsName e)
    (found : t.locate (FilePath.join [dir, e]) = .ok l) : l = t.folder dir ++ [e] := by
  obtain ⟨elements, absolute⟩ := FilePath.elements_join filled name
  have last (l : Location) : turn l e = l ++ [e] := by
    simp [turn, name.filled, name.notHere, name.notUp]
  rw [locate_eq_follow found, elements, follow, List.foldl_append, List.foldl_cons,
    List.foldl_nil, last, start, absolute]
  rfl

/-! ## Trees that grow -/

/-- The directories of a tree are still there in another. -/
structure Grows (t t' : FileTree) : Prop where
  work : t'.work = t.work
  directories : ∀ l, t.isDirectory l = true → t'.isDirectory l = true

theorem Grows.refl (t : FileTree) : Grows t t := ⟨rfl, fun _ => id⟩

theorem Grows.trans {t'' : FileTree} (first : Grows t t') (second : Grows t' t'') : Grows t t'' :=
  ⟨second.work.trans first.work, fun l here => second.directories l (first.directories l here)⟩

theorem Grows.start (grows : Grows t t') (path : String) : t'.start path = t.start path := by
  rw [FileTree.start, FileTree.start, grows.work]

theorem Grows.folder (grows : Grows t t') (dir : String) : t'.folder dir = t.folder dir := by
  rw [FileTree.folder, FileTree.folder, grows.start]

/-- A walk that comes through does so as long as no directory is taken away. -/
theorem Grows.walk (grows : Grows t t') {es : List String} {there : Location}
    (arrives : t.walk l es = .ok there) : t'.walk l es = .ok there := by
  induction es generalizing l with
  | nil => exact arrives
  | cons e es ih =>
      obtain ⟨inside, short, rest⟩ := walk_cons.1 arrives
      exact walk_cons.2 ⟨grows.directories l inside, short, ih rest⟩

theorem Grows.locate (grows : Grows t t') {path : String} (found : t.locate path = .ok l) :
    t'.locate path = .ok l := by
  obtain ⟨filled, clear, arrives⟩ := locate_eq_ok.1 found
  exact locate_eq_ok.2 ⟨filled, clear, grows.start path ▸ grows.walk arrives⟩

/-- Writing a file takes no directory away. -/
theorem grows_put (t : FileTree) (l : Location) (content : String) : Grows t (t.put l content) := by
  refine ⟨rfl, fun l' here => ?_⟩
  simp only [isDirectory, Bool.or_eq_true, List.any_eq_true] at here ⊢
  rcases here with above | ⟨f, member, below⟩
  · exact .inl above
  · by_cases same : f.1 = l
    · exact .inr ⟨(l, content), by simp [put], same ▸ below⟩
    · exact .inr ⟨f, by simp [put, member, same], below⟩

/-- The tree with one more directory, if it is not one already. -/
def withDirectory (t : FileTree) (l : Location) : FileTree :=
  if t.isDirectory l then t else { t with directories := t.directories ++ [l] }

theorem grows_withDirectory (t : FileTree) (l : Location) : Grows t (t.withDirectory l) := by
  unfold withDirectory
  split
  · exact .refl t
  · refine ⟨rfl, fun l' here => ?_⟩
    simp only [isDirectory, Bool.or_eq_true, List.any_eq_true] at here ⊢
    rcases here with (above | ⟨d, member, below⟩) | within
    · exact .inl (.inl above)
    · exact .inl (.inr ⟨d, List.mem_append_left _ member, below⟩)
    · exact .inr within

theorem files_withDirectory (t : FileTree) (l : Location) :
    (t.withDirectory l).files = t.files := by
  unfold withDirectory
  split <;> rfl

/-- Directories are made one after the other, on a way past names that are good. -/
theorem makeFrom_cons {shown e : String} {es : List String}
    (made : t.makeFrom shown l (e :: es) = .ok t') :
    (t.withDirectory (turn l e)).makeFrom (shown ++ e ++ "/") (turn l e) es = .ok t' := by
  have step : t.makeFrom shown l (e :: es) =
      if t.isFile (turn l e) then .error ⟨"mkdir", shown ++ e, .notDirectory⟩
      else if FilePath.longestName < e.utf8ByteSize then .error ⟨"mkdir", shown ++ e, .nameTooLong⟩
      else if e.toList.contains '\x00' then .error ⟨"mkdir", shown ++ e, .badName⟩
      else (t.withDirectory (turn l e)).makeFrom (shown ++ e ++ "/") (turn l e) es := rfl
  rw [step] at made
  split at made
  · cases made
  split at made
  · cases made
  split at made
  · cases made
  exact made

/-- Making directories takes none away and leaves the files alone. -/
theorem makeFrom_spec {shown : String} {es : List String} (made : t.makeFrom shown l es = .ok t') :
    Grows t t' ∧ t'.files = t.files := by
  induction es generalizing t l shown with
  | nil =>
      obtain rfl : t = t' := Except.ok.inj made
      exact ⟨.refl t, rfl⟩
  | cons e es ih =>
      obtain ⟨grows, files⟩ := ih (makeFrom_cons made)
      exact ⟨(t.grows_withDirectory _).trans grows, files.trans (t.files_withDirectory _)⟩

/-! ## Contents -/

theorem lookup_filter {files : List (Location × String)} (l l' : Location) :
    (files.filter (·.1 != l)).lookup l' = if l' = l then none else files.lookup l' := by
  induction files with
  | nil => simp
  | cons f files ih =>
      obtain ⟨k, s⟩ := f
      have first (rest : List (Location × String)) :
          List.lookup l' ((k, s) :: rest) = if l' = k then some s else rest.lookup l' := by
        by_cases here : l' = k
        · simp [here]
        · rw [if_neg here, List.lookup_cons, beq_false_of_ne here]
      rw [List.filter_cons, first]
      by_cases removed : k = l
      · subst removed
        rw [if_neg (by simp), ih]
        split <;> rfl
      · rw [if_pos (by simpa using removed), first, ih]
        by_cases here : l' = k
        · rw [if_pos here, if_pos here, if_neg (here ▸ removed)]
        · rw [if_neg here, if_neg here]

/-- Writing a file changes the content of one location only. -/
theorem content?_put (t : FileTree) (l l' : Location) (content : String) :
    (t.put l content).content? l' = if l' = l then some content else t.content? l' := by
  rw [content?, put, List.lookup_append, lookup_filter]
  by_cases here : l' = l
  · simp [here]
  · rw [if_neg here, if_neg here, List.lookup_cons, beq_false_of_ne here, List.lookup_nil,
      Option.or_none, content?]

/-- What it takes to write a file. -/
theorem write_eq_ok {path content : String} (written : t.write path content = .ok t') :
    ∃ l, t.locate path = .ok l ∧ t' = t.put l content := by
  rw [write] at written
  split at written
  · cases written
  case h_2 l found =>
      split at written
      · cases written
      split at written
      · cases written
      exact ⟨l, found, (Except.ok.inj written).symm⟩

theorem read_eq_ok {path content : String} (found : t.locate path = .ok l)
    (stored : t.content? l = some content) : t.read path = .ok content := by
  simp [read, found, stored]

end FileTree

end Exposure
