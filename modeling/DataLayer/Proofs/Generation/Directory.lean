import DataLayer.Proofs.Files.Making
import DataLayer.Proofs.Generation.HandOver

/-!
# Generated files in a folder

The sink that writes below an output folder puts each file that it takes at its place.  When it is
given the same files again it replaces each text by what it was given, and nothing else.
-/

namespace DataLayer

/-- The path below an output folder at which a generated file goes, with its text. -/
def OutputFile.below (root : String) (layout : OutputLayout) (file : OutputFile) :
    String × String :=
  (Path.join root (layout.relativePath file), file.content)

theorem RunReport.written_ofAnswers (layout : OutputLayout) (tables : Nat)
    (files : List OutputFile) :
    (ofAnswers layout tables (files.map (·, .written))).written =
      files.map layout.relativePath := by
  simp [ofAnswers, List.filter_map, Function.comp_def]

namespace FileTree

variable {root : String} {layout : OutputLayout} {tree after : FileTree}
  {answered : List (OutputFile × WriteResult)}

/-- All files that the sink takes are written, each at its place and in order.  No other place
changes, and all the files can be written again. -/
theorem written_of_accepts (accepts : (directorySink root layout).Accepts tree answered after) :
    Keeps tree after ∧
      after.get? = (answered.map (·.1.below root layout)).foldl tree.putText tree.get? ∧
      ∀ pair ∈ answered, pair.2 = .written ∧ after.HoldsText (pair.1.below root layout).1 := by
  induction accepts with
  | done tree => exact ⟨.refl tree, rfl, by simp⟩
  | @next tree middle after file answer rest taken _ ih =>
      obtain ⟨rfl, forced⟩ := (outcome_write_eq_ok_iff _ tree middle answer rfl).mp taken
      have puts : PutsText tree (file.below root layout) middle := putsText_of_force forced
      obtain ⟨keeps, places, written⟩ := ih
      refine ⟨puts.keeps.trans keeps, ?_, ?_⟩
      · rw [List.map_cons, List.foldl_cons, places, puts.places, puts.keeps.putText]
      · rw [List.forall_mem_cons]
        exact ⟨⟨rfl, keeps.holdsText puts.holds⟩, written⟩

theorem exists_files_of_accepts
    (accepts : (directorySink root layout).Accepts tree answered after) :
    ∃ files : List OutputFile, answered = files.map (·, .written) := by
  have written := (written_of_accepts accepts).2.2
  refine ⟨answered.map Prod.fst, ?_⟩
  rw [List.map_map]
  refine (List.map_id answered).symm.trans (List.map_congr_left fun pair member => ?_)
  exact Prod.ext rfl (written pair member).1

/-- Files whose texts are all there are taken again, and only texts are replaced. -/
theorem accepts_of_holdsText {files : List OutputFile}
    (holds : ∀ file ∈ files, tree.HoldsText (file.below root layout).1) :
    (directorySink root layout).Accepts tree (files.map (·, .written))
      (tree.setAll (tree.textsAt (files.map (·.below root layout)))) := by
  induction files generalizing tree with
  | nil => exact .done tree
  | cons file rest ih =>
      rw [List.forall_mem_cons] at holds
      have keeps := holds.1.keeps_set (file.below root layout).2
      have taken : Stateful.outcome (directorySink root layout file) tree =
          (.ok .written, tree.set (tree.placeOf (file.below root layout).1)
            (.text (file.below root layout).2)) :=
        (outcome_write_eq_ok_iff _ tree _ .written rfl).mpr
          ⟨rfl, HoldsText.outcome_force holds.1⟩
      have others := ih fun other member => keeps.holdsText (holds.2 other member)
      have texts_eq (files : List (String × String)) :
          (tree.set (tree.placeOf (file.below root layout).1)
            (.text (file.below root layout).2)).textsAt files = tree.textsAt files := by
        simp only [textsAt, keeps.placeOf]
      rw [texts_eq] at others
      simpa only [List.map_cons, textsAt_cons, setAll_cons] using
        OutputSink.Accepts.next taken others

/-- Files that there is room for are all taken. -/
theorem exists_accepts_of_vacant {base : String} {paths : List String} {files : List OutputFile}
    (below : List.Forall₂ (fun path (file : OutputFile) =>
      (file.below root layout).1 = Path.join base path) paths files)
    (apart : paths.Pairwise Path.Apart) (vacant : Vacant base paths tree) :
    ∃ after, (directorySink root layout).Accepts tree (files.map (·, .written)) after := by
  induction below generalizing tree with
  | nil => exact ⟨tree, .done tree⟩
  | @cons path file paths files path_eq _ ih =>
      rw [List.pairwise_cons] at apart
      let planned : PlannedFile := ⟨(file.below root layout).1, file.content, .always⟩
      have planned_eq : planned.path = Path.join base path := path_eq
      obtain ⟨middle, forced⟩ := vacant.exists_outcome_force planned_eq
      have taken := (outcome_write_eq_ok_iff _ tree middle .written rfl).mpr ⟨rfl, forced⟩
      have puts : PutsText tree (file.below root layout) middle := putsText_of_force forced
      have puts_below : PutsText tree (Path.join base path, file.content) middle := path_eq ▸ puts
      obtain ⟨after, others⟩ := ih apart.2 (vacant.of_puts apart.1 puts_below)
      exact ⟨after, .next taken others⟩

end FileTree
end DataLayer
