import DataLayer.Proofs.Files.Entries
import DataLayer.Proofs.Files.Steps
import DataLayer.Proofs.Traversal
import Mathlib.Data.List.Induction

/-!
# Where paths lead

A path that can be followed leads where its steps do, and folders stand at all places on the way.
So it leads to the same place in every file system that keeps the folders.
-/

namespace DataLayer
namespace FileTree

/-- The place that a step leads to. -/
def enter (place : Location) (step : String) : Location :=
  if step = ".." then place.dropLast else place ++ [step]

/-- The place that a path stands for. -/
def placeOf (tree : FileTree) (path : String) : Location :=
  (Path.steps path).foldl enter (tree.start path)

variable {tree after : FileTree} {place last folder : Location} {path segment name : String}
  {segments : List String}

theorem step_eq_ok_iff (tree : FileTree) (place last : Location) (segment : String) :
    tree.step place segment = .ok last ↔
      tree.get? place = some .folder ∧ segment.utf8ByteSize ≤ 255 ∧
        last = (Path.active [segment]).foldl enter place := by
  rw [step]
  cases tree.get? place with
  | none => simp
  | some entry =>
      cases entry with
      | text content => simp
      | bytes => simp
      | folder =>
          by_cases idle : segment = "" ∨ segment = "."
          · have idle_eq : Path.isIdle segment = true := by simpa [Path.isIdle] using idle
            have short : segment.utf8ByteSize ≤ 255 := by
              rcases idle with rfl | rfl <;> decide
            rw [Path.active_cons_of_idle idle_eq]
            simp [idle, short, Path.active, eq_comm]
          · have busy : Path.isIdle segment = false := by simpa [Path.isIdle] using idle
            rw [Path.active_cons_of_busy busy]
            by_cases back : segment = ".."
            · have short : segment.utf8ByteSize ≤ 255 := by
                rw [back]
                decide
              simp only [if_neg idle, if_pos back, short, Path.active, List.filter_nil,
                List.foldl_cons, List.foldl_nil, enter, Except.ok.injEq, true_and]
              exact eq_comm
            · rw [← Nat.not_lt]
              by_cases long : 255 < segment.utf8ByteSize
              · simp [idle, back, long]
              · simp [idle, back, long, Path.active, enter, eq_comm]

theorem walk_cons_iff (tree : FileTree) (place last : Location) (segment : String)
    (rest : List String) :
    (segment :: rest).foldlM tree.step place = .ok last ↔
      ∃ next, tree.step place segment = .ok next ∧ rest.foldlM tree.step next = .ok last := by
  rw [List.foldlM_cons]
  exact Traversal.bind_eq_ok_iff _ _ last

theorem walk_append_iff (tree : FileTree) (place last : Location) (front back : List String) :
    (front ++ back).foldlM tree.step place = .ok last ↔
      ∃ next, front.foldlM tree.step place = .ok next ∧ back.foldlM tree.step next = .ok last := by
  rw [List.foldlM_append]
  exact Traversal.bind_eq_ok_iff _ _ last

theorem place_of_walk (walked : segments.foldlM tree.step place = .ok last) :
    last = (Path.active segments).foldl enter place := by
  induction segments generalizing place with
  | nil => exact (Except.ok.inj walked).symm
  | cons segment rest ih =>
      obtain ⟨next, stepped, walked⟩ := (walk_cons_iff _ _ _ _ _).mp walked
      obtain ⟨-, -, rfl⟩ := (step_eq_ok_iff _ _ _ _).mp stepped
      rw [ih walked, ← List.foldl_append, ← Path.active_append]
      rfl

/-- A path goes through folders only. -/
theorem folder_of_walk (walked : segments.foldlM tree.step place = .ok last)
    (ends : tree.get? last = some .folder) {front : List String}
    (passed : front <+: Path.active segments) :
    tree.get? (front.foldl enter place) = some .folder := by
  induction segments generalizing place front with
  | nil =>
      obtain rfl : place = last := Except.ok.inj walked
      rw [List.prefix_nil.mp passed]
      exact ends
  | cons segment rest ih =>
      obtain ⟨next, stepped, walked⟩ := (walk_cons_iff _ _ _ _ _).mp walked
      obtain ⟨there, -, rfl⟩ := (step_eq_ok_iff _ _ _ _).mp stepped
      by_cases idle : Path.isIdle segment = true
      · rw [Path.active_cons_of_idle idle] at passed
        rw [Path.active_cons_of_idle idle] at walked
        exact ih walked passed
      · have busy : Path.isIdle segment = false := by simpa using idle
        rw [Path.active_cons_of_busy busy] at passed walked
        cases front with
        | nil => exact there
        | cons first others =>
            obtain ⟨rfl, others_passed⟩ := List.cons_prefix_cons.mp passed
            exact ih walked others_passed

/-- Slashes at the end of a path to a folder lead nowhere. -/
theorem walk_blanks (there : tree.get? place = some .folder)
    (blank : ∀ segment ∈ segments, segment = "") :
    segments.foldlM tree.step place = .ok place := by
  induction segments with
  | nil => rfl
  | cons segment rest ih =>
      rw [List.forall_mem_cons] at blank
      obtain ⟨rfl, rest_blank⟩ := blank
      have stays : tree.step place "" = .ok place :=
        (step_eq_ok_iff _ _ _ _).mpr ⟨there, by decide, rfl⟩
      exact (walk_cons_iff _ _ _ _ _).mpr ⟨place, stays, ih rest_blank⟩

theorem locate_eq_ok_iff (tree : FileTree) (path : String) (place : Location) :
    tree.locate path = .ok place ↔
      pathFault? path = none ∧
        (Path.segments path).foldlM tree.step (tree.start path) = .ok place := by
  rw [locate]
  cases pathFault? path with
  | none => simp
  | some fault => simp

theorem placeOf_of_locate (located : tree.locate path = .ok place) : tree.placeOf path = place := by
  obtain ⟨-, walked⟩ := (locate_eq_ok_iff tree path place).mp located
  exact (place_of_walk walked).symm

theorem follow_eq_ok_iff (tree : FileTree) (path : String) (place : Location) (entry : FileEntry) :
    tree.follow path = .ok (place, entry) ↔
      tree.locate path = .ok place ∧ tree.get? place = some entry := by
  rw [follow, Traversal.bind_eq_ok_iff]
  constructor
  · rintro ⟨found, located, there⟩
    cases entry_eq : tree.get? found with
    | none => simp [entry_eq] at there
    | some other =>
        obtain ⟨rfl, rfl⟩ : found = place ∧ other = entry := by simpa [entry_eq] using there
        exact ⟨located, entry_eq⟩
  · rintro ⟨located, there⟩
    refine ⟨place, located, ?_⟩
    rw [there]
    rfl

theorem isFolder_iff (tree : FileTree) (path : String) :
    tree.isFolder path = true ↔
      ∃ place, tree.locate path = .ok place ∧ tree.get? place = some .folder := by
  simp only [← follow_eq_ok_iff]
  rw [isFolder]
  cases tree.follow path with
  | error error => simp
  | ok found =>
      obtain ⟨place, entry⟩ := found
      cases entry <;> simp

theorem readText_eq_ok_iff (tree : FileTree) (path text : String) :
    tree.readText path = .ok text ↔
      ∃ place, tree.locate path = .ok place ∧ tree.get? place = some (.text text) := by
  simp only [← follow_eq_ok_iff]
  rw [readText, Traversal.bind_eq_ok_iff]
  constructor
  · rintro ⟨⟨place, entry⟩, followed, read⟩
    cases entry with
    | folder => simp at read
    | bytes => simp at read
    | text content =>
        obtain rfl : content = text := by simpa using read
        exact ⟨place, followed⟩
  · rintro ⟨place, followed⟩
    exact ⟨(place, .text text), followed, rfl⟩

/-! ## The last segment -/

/-- Behind the last segment that is not empty there are only empty ones. -/
theorem blank_or_split (segments : List String) :
    (∀ segment ∈ segments, segment = "") ∨
      ∃ front name blanks, name ≠ "" ∧ segments = front ++ name :: blanks ∧
        ∀ blank ∈ blanks, blank = "" := by
  induction segments using List.reverseRecOn with
  | nil => exact .inl (by simp)
  | append_singleton front last ih =>
      by_cases empty : last = ""
      · have blank_last : ∀ segment ∈ [last], segment = "" := List.forall_mem_singleton.mpr empty
        rcases ih with blank | ⟨front, name, blanks, nonempty, rfl, blank⟩
        · exact .inl (List.forall_mem_append.mpr ⟨blank, blank_last⟩)
        · exact .inr ⟨front, name, blanks ++ [last], nonempty, by simp,
            List.forall_mem_append.mpr ⟨blank, blank_last⟩⟩
      · exact .inr ⟨front, last, [], empty, rfl, by simp⟩

theorem dropWhile_of_blank (blank : ∀ segment ∈ segments, segment = "") :
    segments.reverse.dropWhile (· = "") = [] := by
  have dropped : (segments.reverse ++ []).dropWhile (· = "") = [] :=
    List.dropWhile_append_of_pos (by simpa using blank)
  rwa [List.append_nil] at dropped

theorem dropWhile_of_split {front blanks : List String} (nonempty : name ≠ "")
    (segments_eq : segments = front ++ name :: blanks) (blank : ∀ blank ∈ blanks, blank = "") :
    segments.reverse.dropWhile (· = "") = name :: front.reverse := by
  rw [segments_eq, List.reverse_append, List.reverse_cons, List.append_assoc,
    List.dropWhile_append_of_pos (by simpa using blank)]
  simp [nonempty]

/-- The last segment that is not empty is looked for in the folder in front of it. -/
theorem locateLast_eq_ok_iff (tree : FileTree) (path : String) (folder : Location) {name : String}
    (nonempty : name ≠ "") :
    tree.locateLast path = .ok (folder, name) ↔
      pathFault? path = none ∧ tree.get? folder = some .folder ∧
        ∃ front blanks, Path.segments path = front ++ name :: blanks ∧
          (∀ blank ∈ blanks, blank = "") ∧
          front.foldlM tree.step (tree.start path) = .ok folder := by
  rw [locateLast]
  cases pathFault? path with
  | some fault => simp
  | none =>
      rw [Traversal.bind_eq_ok_iff]
      constructor
      · rintro ⟨found, walked, there⟩
        cases entry_eq : tree.get? found with
        | none => simp [entry_eq] at there
        | some entry =>
            cases entry with
            | text content => simp [entry_eq] at there
            | bytes => simp [entry_eq] at there
            | folder =>
                rw [entry_eq, Traversal.pure_eq_ok_iff, Prod.mk.injEq] at there
                obtain ⟨rfl, name_eq⟩ := there
                rcases blank_or_split (Path.segments path) with blank | split
                · rw [dropWhile_of_blank blank] at name_eq
                  exact absurd name_eq.symm nonempty
                · obtain ⟨front, last, blanks, named, segments_eq, blank⟩ := split
                  rw [dropWhile_of_split named segments_eq blank] at walked name_eq
                  obtain rfl : last = name := name_eq
                  rw [List.drop_one, List.tail_cons, List.reverse_reverse] at walked
                  exact ⟨rfl, entry_eq, front, blanks, segments_eq, blank, walked⟩
      · rintro ⟨_, there, front, blanks, segments_eq, blank, walked⟩
        rw [dropWhile_of_split nonempty segments_eq blank, List.drop_one, List.tail_cons,
          List.reverse_reverse]
        refine ⟨folder, walked, ?_⟩
        rw [there]
        rfl

theorem locateLast_of_blank (faultless : pathFault? path = none)
    (blank : ∀ segment ∈ Path.segments path, segment = "")
    (there : tree.get? (tree.start path) = some .folder) :
    tree.locateLast path = .ok (tree.start path, "") := by
  simp [locateLast, faultless, dropWhile_of_blank blank, there, pure, bind, Except.pure,
    Except.bind]

theorem ne_empty_of_name (named : isMarker name = false) : name ≠ "" := by
  rintro rfl
  contradiction

theorem active_name (named : isMarker name = false) : Path.active [name] = [name] := by
  have busy : Path.isIdle name = false := by
    rw [isMarker, Bool.or_eq_false_iff] at named
    exact named.1
  exact Path.active_cons_of_busy busy []

theorem enter_name (named : isMarker name = false) (place : Location) :
    (Path.active [name]).foldl enter place = place ++ [name] := by
  have forward : name ≠ ".." := by
    rintro rfl
    contradiction
  rw [active_name named, List.foldl_cons, List.foldl_nil, enter, if_neg forward]

theorem active_blanks (blank : ∀ segment ∈ segments, segment = "") :
    Path.active segments = [] := by
  rw [Path.active, List.filter_eq_nil_iff]
  intro segment member
  rw [blank segment member]
  decide

section Named

variable (located : tree.locateLast path = .ok (folder, name)) (named : isMarker name = false)

include located named

theorem exists_steps_of_locateLast : ∃ front,
    Path.steps path = Path.active front ++ Path.active [name] ∧
      front.foldlM tree.step (tree.start path) = .ok folder := by
  obtain ⟨-, -, front, blanks, segments_eq, blank, walked⟩ :=
    (locateLast_eq_ok_iff tree path folder (ne_empty_of_name named)).mp located
  refine ⟨front, ?_, walked⟩
  rw [Path.steps, segments_eq, Path.active_append, ← List.singleton_append, Path.active_append,
    active_blanks blank, List.append_nil]

theorem placeOf_of_locateLast : tree.placeOf path = folder ++ [name] := by
  obtain ⟨front, steps_eq, walked⟩ := exists_steps_of_locateLast located named
  rw [placeOf, steps_eq, List.foldl_append, ← place_of_walk walked, enter_name named]

theorem folder_of_locateLast {front : List String}
    (passed : front <+: (Path.steps path).dropLast) :
    tree.get? (front.foldl enter (tree.start path)) = some .folder := by
  obtain ⟨-, there, -⟩ :=
    (locateLast_eq_ok_iff tree path folder (ne_empty_of_name named)).mp located
  obtain ⟨segments, steps_eq, walked⟩ := exists_steps_of_locateLast located named
  rw [steps_eq, active_name named, List.dropLast_concat] at passed
  exact folder_of_walk walked there passed

end Named

/-- Folders stay folders and texts stay texts, if perhaps other ones. -/
structure Keeps (tree after : FileTree) : Prop where
  home : after.home = tree.home
  folder : ∀ place, tree.get? place = some .folder → after.get? place = some .folder
  text : ∀ place content, tree.get? place = some (.text content) →
    ∃ newer, after.get? place = some (.text newer)

namespace Keeps

theorem refl (tree : FileTree) : Keeps tree tree where
  home := rfl
  folder _ there := there
  text _ content there := ⟨content, there⟩

theorem trans {later : FileTree} (first : Keeps tree after) (second : Keeps after later) :
    Keeps tree later where
  home := second.home.trans first.home
  folder place there := second.folder place (first.folder place there)
  text place content there := by
    obtain ⟨newer, there⟩ := first.text place content there
    exact second.text place newer there

variable (keeps : Keeps tree after)

include keeps

theorem start (path : String) : after.start path = tree.start path := by
  rw [FileTree.start, FileTree.start, keeps.home]

theorem placeOf (path : String) : after.placeOf path = tree.placeOf path := by
  rw [FileTree.placeOf, FileTree.placeOf, keeps.start]

theorem walk (walked : segments.foldlM tree.step place = .ok last) :
    segments.foldlM after.step place = .ok last := by
  induction segments generalizing place with
  | nil => exact walked
  | cons segment rest ih =>
      obtain ⟨next, stepped, walked⟩ := (walk_cons_iff _ _ _ _ _).mp walked
      obtain ⟨there, step_eq⟩ := (step_eq_ok_iff _ _ _ _).mp stepped
      have stepped_after := (step_eq_ok_iff _ _ _ _).mpr ⟨keeps.folder place there, step_eq⟩
      exact (walk_cons_iff _ _ _ _ _).mpr ⟨next, stepped_after, ih walked⟩

theorem locate (located : tree.locate path = .ok place) : after.locate path = .ok place := by
  obtain ⟨faultless, walked⟩ := (locate_eq_ok_iff _ _ _).mp located
  rw [← keeps.start] at walked
  exact (locate_eq_ok_iff _ _ _).mpr ⟨faultless, keeps.walk walked⟩

theorem isFolder (there : tree.isFolder path = true) : after.isFolder path = true := by
  obtain ⟨place, located, found⟩ := (isFolder_iff tree path).mp there
  exact (isFolder_iff after path).mpr ⟨place, keeps.locate located, keeps.folder place found⟩

theorem locateLast (nonempty : name ≠ "") (located : tree.locateLast path = .ok (folder, name)) :
    after.locateLast path = .ok (folder, name) := by
  obtain ⟨faultless, there, front, blanks, segments_eq, blank, walked⟩ :=
    (locateLast_eq_ok_iff tree path folder nonempty).mp located
  rw [← keeps.start] at walked
  exact (locateLast_eq_ok_iff after path folder nonempty).mpr
    ⟨faultless, keeps.folder folder there, front, blanks, segments_eq, blank, keeps.walk walked⟩

theorem readText {text : String} (read : tree.readText path = .ok text)
    (same : after.get? (tree.placeOf path) = tree.get? (tree.placeOf path)) :
    after.readText path = .ok text := by
  obtain ⟨place, located, there⟩ := (readText_eq_ok_iff tree path text).mp read
  rw [placeOf_of_locate located, there] at same
  exact (readText_eq_ok_iff after path text).mpr ⟨place, keeps.locate located, same⟩

end Keeps

end FileTree
end DataLayer
