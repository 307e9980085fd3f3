import DataLayer.Proofs.Files.Path
import DataLayer.Proofs.Files.Segments

/-!
# Steps of paths

Idle segments lead nowhere, so a path leads where its other segments do.  The path that the last
segment stands in starts where the path does and has all its steps but the last one.
-/

namespace DataLayer
namespace Path

/-- The segments without those that stand for nothing. -/
def active (segments : List String) : List String :=
  segments.filter (!isIdle ·)

/-- The segments of a path that lead somewhere. -/
def steps (path : String) : List String :=
  active (segments path)

theorem active_append (front back : List String) :
    active (front ++ back) = active front ++ active back :=
  List.filter_append front back

theorem active_reverse (segments : List String) :
    active segments.reverse = (active segments).reverse :=
  List.filter_reverse

theorem active_cons_of_idle {segment : String} (idle : isIdle segment = true)
    (rest : List String) : active (segment :: rest) = active rest :=
  List.filter_cons_of_neg (by simp [idle])

theorem active_cons_of_busy {segment : String} (busy : isIdle segment = false)
    (rest : List String) : active (segment :: rest) = segment :: active rest :=
  List.filter_cons_of_pos (by simp [busy])

theorem active_of_idle {segments : List String}
    (idle : ∀ segment ∈ segments, isIdle segment = true) : active segments = [] := by
  rw [active, List.filter_eq_nil_iff]
  intro segment member
  simp [idle segment member]

/-- What ends in a segment that is not idle has nothing idle at its end. -/
theorem eq_nil_of_idle_behind {front segments idle : List String} {last : String}
    (append_eq : front ++ [last] = segments ++ idle) (busy : isIdle last = false)
    (all_idle : ∀ segment ∈ idle, isIdle segment = true) : idle = [] := by
  rcases List.eq_nil_or_concat' idle with rfl | ⟨dropped, blank, rfl⟩
  · rfl
  · rw [← List.append_assoc] at append_eq
    obtain rfl : last = blank := (List.append_singleton_inj.mp append_eq).2
    simp [all_idle last (by simp)] at busy

theorem active_dropIdle (reversed : List String) :
    active (dropIdle reversed) = active reversed := by
  fun_induction dropIdle reversed with
  | case1 => rfl
  | case2 front => rfl
  | case3 last before _ idle ih => rw [ih, active_cons_of_idle idle]
  | case4 last before _ _ => rfl

theorem dropIdle_ne_nil {reversed : List String} (nonempty : reversed ≠ []) :
    dropIdle reversed ≠ [] := by
  fun_induction dropIdle reversed with
  | case1 => exact nonempty
  | case2 front => exact nonempty
  | case3 last before more _ ih => exact ih (by simpa using more)
  | case4 last before _ _ => exact List.cons_ne_nil last before

theorem exists_idle_append_dropIdle (reversed : List String) :
    ∃ idle, idle ++ dropIdle reversed = reversed ∧ ∀ segment ∈ idle, isIdle segment = true := by
  fun_induction dropIdle reversed with
  | case1 => exact ⟨[], rfl, by simp⟩
  | case2 front => exact ⟨[], rfl, by simp⟩
  | case3 last before _ last_idle ih =>
      obtain ⟨idle, before_eq, all_idle⟩ := ih
      exact ⟨last :: idle, congrArg _ before_eq, List.forall_mem_cons.mpr ⟨last_idle, all_idle⟩⟩
  | case4 last before _ _ => exact ⟨[], rfl, by simp⟩

theorem dropIdle_suffix (reversed : List String) : dropIdle reversed <:+ reversed :=
  have ⟨idle, reversed_eq, _⟩ := exists_idle_append_dropIdle reversed
  ⟨idle, reversed_eq⟩

theorem getLast?_dropIdle (reversed : List String) :
    (dropIdle reversed).getLast? = reversed.getLast? := by
  by_cases nonempty : reversed = []
  · rw [nonempty]
    rfl
  · have kept := dropIdle_ne_nil nonempty
    rw [List.getLast?_eq_some_getLast kept, List.getLast?_eq_some_getLast nonempty,
      (dropIdle_suffix reversed).getLast kept]

theorem not_isIdle_of_dropIdle {reversed before : List String} {last : String}
    (dropped : dropIdle reversed = last :: before) (more : before ≠ []) : isIdle last = false := by
  fun_induction dropIdle reversed with
  | case1 => simp at dropped
  | case2 front =>
      obtain ⟨-, rfl⟩ := List.cons.inj dropped
      exact absurd rfl more
  | case3 _ _ _ _ ih => exact ih dropped
  | case4 other _ _ busy =>
      obtain ⟨rfl, -⟩ := List.cons.inj dropped
      simpa using busy

theorem steps_eq_backwards (path : String) : steps path = (active (backwards path)).reverse := by
  rw [backwards, active_dropIdle, active_reverse, List.reverse_reverse, steps]

theorem startsWith_slash_iff_head? {path : String} (nonempty : path ≠ "") :
    path.startsWith "/" = true ↔ (segments path).head? = some "" := by
  obtain ⟨c, rest, path_eq⟩ :=
    List.exists_cons_of_ne_nil (mt String.toList_eq_nil_iff.mp nonempty)
  obtain ⟨part, parts, parts_eq⟩ :=
    List.exists_cons_of_ne_nil (Text.splitChars_ne_nil '/' rest)
  rw [startsWith_slash_iff, segments, Text.splitAtChar, path_eq, Text.splitChars, parts_eq]
  by_cases slash : c = '/'
  · simp [slash]
  · simp [slash]

theorem startsWith_slash_iff_backwards {path : String} (nonempty : path ≠ "") :
    path.startsWith "/" = true ↔ (backwards path).getLast? = some "" := by
  rw [startsWith_slash_iff_head? nonempty, backwards, getLast?_dropIdle, List.getLast?_reverse]

/-! ## The path around -/

section Around

variable {reversed : List String} (nonempty : reversed ≠ [])
  (noSlash : ∀ segment ∈ reversed, '/' ∉ segment.toList)

include nonempty noSlash

theorem segments_ofBackwards (unrooted : reversed ≠ [""]) :
    segments (ofBackwards reversed) = reversed.reverse := by
  rw [ofBackwards]
  · exact segments_intercalate (by simpa using nonempty) (by simpa using noSlash)
  · exact unrooted

theorem steps_ofBackwards : steps (ofBackwards reversed) = (active reversed).reverse := by
  by_cases root : reversed = [""]
  · rw [root]
    rfl
  · rw [steps, segments_ofBackwards nonempty noSlash root, active_reverse]

theorem ofBackwards_ne_empty : ofBackwards reversed ≠ "" := by
  by_cases root : reversed = [""]
  · rw [root]
    decide
  · intro empty
    have segments_eq := segments_ofBackwards nonempty noSlash root
    have segments_empty : segments "" = [""] := rfl
    rw [empty, segments_empty] at segments_eq
    exact root (List.reverse_eq_iff.mp segments_eq.symm)

theorem startsWith_slash_ofBackwards :
    (ofBackwards reversed).startsWith "/" = true ↔ reversed.getLast? = some "" := by
  rw [startsWith_slash_iff_head? (ofBackwards_ne_empty nonempty noSlash)]
  by_cases root : reversed = [""]
  · rw [root]
    decide
  · rw [segments_ofBackwards nonempty noSlash root, List.head?_reverse]

end Around

theorem noSlash_of_mem_backwards {path segment : String} (member : segment ∈ backwards path) :
    '/' ∉ segment.toList := by
  have among := (dropIdle_suffix _).subset member
  rw [List.mem_reverse] at among
  exact noSlash_of_mem_segments among

variable {path parent : String}

/-- The path around is empty around a single segment.  Else it is made of the segments before the
last one. -/
theorem parent?_eq_some (found : parent? path = some parent) :
    (parent = "" ∧ ∃ front, front ≠ "" ∧ backwards path = [front]) ∨
      ∃ last before, backwards path = last :: before ∧ before ≠ [] ∧
        (∀ segment ∈ dropIdle before, '/' ∉ segment.toList) ∧
        parent = ofBackwards (dropIdle before) := by
  unfold parent? at found
  split at found
  · contradiction
  · rename_i front backwards_eq
    split at found
    · contradiction
    · rename_i named
      exact .inl ⟨(Option.some.inj found).symm, front, named, backwards_eq⟩
  · rename_i last before more backwards_eq
    refine .inr ⟨last, before, backwards_eq, more, ?_, (Option.some.inj found).symm⟩
    intro segment member
    have among : segment ∈ backwards path := by
      rw [backwards_eq]
      exact List.mem_cons_of_mem last ((dropIdle_suffix before).subset member)
    exact noSlash_of_mem_backwards among

/-- The path around has all steps but the last one. -/
theorem steps_parent? (found : parent? path = some parent) :
    steps parent = (steps path).dropLast := by
  rw [steps_eq_backwards path]
  rcases parent?_eq_some found with single | several
  · obtain ⟨rfl, front, -, backwards_eq⟩ := single
    rw [backwards_eq]
    by_cases idle : isIdle front = true
    · rw [active_cons_of_idle idle]
      rfl
    · rw [active_cons_of_busy (by simpa using idle)]
      rfl
  · obtain ⟨last, before, backwards_eq, more, noSlash, rfl⟩ := several
    have busy := not_isIdle_of_dropIdle backwards_eq more
    rw [steps_ofBackwards (dropIdle_ne_nil more) noSlash, active_dropIdle, backwards_eq,
      active_cons_of_busy busy, List.reverse_cons, List.dropLast_concat]

theorem startsWith_slash_parent? (found : parent? path = some parent) :
    parent.startsWith "/" = path.startsWith "/" := by
  have nonempty : path ≠ "" := by
    rintro rfl
    contradiction
  rw [Bool.eq_iff_iff, startsWith_slash_iff_backwards nonempty]
  rcases parent?_eq_some found with single | several
  · obtain ⟨rfl, front, named, backwards_eq⟩ := single
    simp [backwards_eq, named]
  · obtain ⟨last, before, backwards_eq, more, noSlash, rfl⟩ := several
    rw [startsWith_slash_ofBackwards (dropIdle_ne_nil more) noSlash, getLast?_dropIdle,
      backwards_eq, List.getLast?_cons_of_ne_nil more]

theorem backwards_of_segments {last : String} {before : List String}
    (segments_eq : segments path = before ++ [last]) (named : IsName last) :
    backwards path = last :: before.reverse := by
  rw [backwards, segments_eq, List.reverse_append, List.reverse_singleton, List.singleton_append]
  cases before.reverse with
  | nil => rfl
  | cons other others =>
      rw [dropIdle, if_neg (by simp [named.busy])]
      exact List.cons_ne_nil _ _

/-- A path that ends in a name stands in nothing, in the root, or in the path of its other segments
without idle ones at the end. -/
theorem exists_parent?_of_segments {last : String} {before : List String}
    (segments_eq : segments path = before ++ [last]) (named : IsName last) :
    ∃ parent, parent? path = some parent ∧
      (before = [] ∧ parent = "" ∨
        parent = "/" ∧ path.startsWith "/" = true ∧ (∀ segment ∈ before, isIdle segment = true) ∨
        ∃ idle lead, before = segments parent ++ idle ∧ (∀ segment ∈ idle, isIdle segment = true) ∧
          parent ≠ "" ∧ path = parent ++ "/" ++ lead ++ last) := by
  have backwards_eq := backwards_of_segments segments_eq named
  by_cases nothing : before = []
  · refine ⟨"", ?_, .inl ⟨nothing, rfl⟩⟩
    rw [parent?, backwards_eq, nothing]
    exact if_neg named.nonempty
  · have more : before.reverse ≠ [] := by simpa using nothing
    have parent_eq : parent? path = some (ofBackwards (dropIdle before.reverse)) := by
      obtain ⟨other, others, before_eq⟩ := List.exists_cons_of_ne_nil more
      rw [parent?, backwards_eq, before_eq]
    obtain ⟨idle, before_eq, all_idle⟩ := exists_idle_append_dropIdle before.reverse
    refine ⟨_, parent_eq, .inr ?_⟩
    by_cases root : dropIdle before.reverse = [""]
    · rw [root] at before_eq ⊢
      have before_cons : before = "" :: idle.reverse := by
        rw [← List.reverse_reverse before, ← before_eq, List.reverse_append,
          List.reverse_singleton, List.singleton_append]
      have nonempty : path ≠ "" := by
        rintro rfl
        have blank : [""] = before ++ [last] := segments_eq
        simp [before_cons] at blank
      refine .inl ⟨rfl, (startsWith_slash_iff_head? nonempty).mpr ?_, ?_⟩
      · rw [segments_eq, before_cons]
        rfl
      · rw [before_cons, List.forall_mem_cons]
        exact ⟨rfl, by simpa using all_idle⟩
    · have before_noSlash : ∀ segment ∈ idle ++ dropIdle before.reverse, '/' ∉ segment.toList := by
        intro segment member
        rw [before_eq, List.mem_reverse] at member
        exact noSlash_of_mem_segments (segments_eq ▸ List.mem_append_left [last] member)
      rw [List.forall_mem_append] at before_noSlash
      have kept := dropIdle_ne_nil more
      have parent_segments := segments_ofBackwards kept before_noSlash.2 root
      have split : before = segments (ofBackwards (dropIdle before.reverse)) ++ idle.reverse := by
        rw [parent_segments, ← List.reverse_append, before_eq, List.reverse_reverse]
      have idle_noSlash : ∀ segment ∈ idle.reverse, '/' ∉ segment.toList := by
        simpa using before_noSlash.1
      obtain ⟨lead, path_eq⟩ :=
        exists_lead_of_segments named.noSlash idle_noSlash (split ▸ segments_eq)
      exact .inr ⟨idle.reverse, lead, split, by simpa using all_idle,
        ofBackwards_ne_empty kept before_noSlash.2, path_eq⟩

/-! ## Joined paths -/

/-- The path leads straight down: all its segments are names. -/
def IsPlain (path : String) : Prop :=
  ∀ segment ∈ segments path, IsName segment

/-- Neither path leads through what the other one leads to. -/
def Apart (path other : String) : Prop :=
  ¬ segments path <+: segments other ∧ ¬ segments other <+: segments path

instance (path other : String) : Decidable (Apart path other) :=
  inferInstanceAs (Decidable (_ ∧ _))

/-- The path leads straight down from the folder, and is not too long for a file system. -/
structure Fits (base path : String) : Prop where
  plain : IsPlain path
  noNull : '\x00' ∉ path.toList
  names : ∀ name ∈ segments path, name.utf8ByteSize ≤ 255
  whole : (join base path).utf8ByteSize ≤ 4095

instance (path : String) : Decidable (IsPlain path) :=
  inferInstanceAs (Decidable (∀ segment ∈ segments path, IsName segment))

theorem active_of_isName {segments : List String}
    (named : ∀ segment ∈ segments, IsName segment) : active segments = segments := by
  rw [active, List.filter_eq_self]
  intro segment member
  simp [(named segment member).busy]

namespace IsPlain

variable (plain : IsPlain path)

include plain

theorem ne_empty : path ≠ "" := by
  rintro rfl
  exact (plain "" List.mem_cons_self).nonempty rfl

theorem relative : path.startsWith "/" = false := by
  rw [← Bool.not_eq_true, startsWith_slash_iff_head? plain.ne_empty]
  intro first
  exact (plain "" (List.mem_of_head? first)).nonempty rfl

theorem steps_eq : steps path = segments path :=
  active_of_isName plain

end IsPlain

/-- Behind a slash at the end of a path stands an empty segment. -/
theorem exists_segments_of_endsWith (slashed : path.endsWith "/" = true) :
    ∃ front, path = front ++ "/" ∧ segments path = segments front ++ [""] := by
  obtain ⟨front, path_chars⟩ := (endsWith_slash_iff path).mp slashed
  obtain rfl : path = String.ofList front ++ "/" := String.toList_injective (by simp [path_chars])
  refine ⟨String.ofList front, rfl, ?_⟩
  have segments_eq := segments_append_slash (String.ofList front) ""
  rwa [String.append_empty] at segments_eq

theorem exists_join_eq_append (base : String) (relative : path.startsWith "/" = false) :
    ∃ link, (link = "" ∨ link = "/") ∧ join base path = base ++ link ++ path := by
  rw [join, if_neg (by simp [relative])]
  split_ifs
  · exact ⟨"", .inl rfl, by rw [String.append_empty]⟩
  · exact ⟨"/", .inr rfl, rfl⟩

/-- A joined path has the segments of the lower path behind those of the folder, or behind those of
them that lead where the folder is. -/
theorem segments_join (base : String) (relative : path.startsWith "/" = false) :
    ∃ front, segments (join base path) = front ++ segments path ∧ front <+: segments base ∧
      active front = steps base := by
  rw [join, if_neg (by simp [relative])]
  by_cases empty : base = ""
  · subst empty
    exact ⟨[], by simp, List.nil_prefix, rfl⟩
  · by_cases slashed : base.endsWith "/" = true
    · obtain ⟨front, base_eq, base_segments⟩ := exists_segments_of_endsWith slashed
      refine ⟨segments front, ?_, base_segments ▸ List.prefix_append _ _, ?_⟩
      · rw [if_pos (.inr slashed), base_eq, segments_append_slash]
      · rw [steps, base_segments, active_append]
        exact (List.append_nil _).symm
    · rw [if_neg (by simp [empty, slashed])]
      exact ⟨segments base, segments_append_slash base path, List.prefix_rfl, rfl⟩

theorem utf8ByteSize_join_le (base : String) (relative : path.startsWith "/" = false) :
    (join base path).utf8ByteSize ≤ base.utf8ByteSize + 1 + path.utf8ByteSize := by
  obtain ⟨link, link_cases, join_eq⟩ := exists_join_eq_append base relative
  have link_size : link.utf8ByteSize ≤ 1 := by rcases link_cases with rfl | rfl <;> decide
  rw [join_eq, String.utf8ByteSize_append, String.utf8ByteSize_append]
  omega

theorem utf8ByteSize_pos (nonempty : path ≠ "") : 0 < path.utf8ByteSize := by
  rwa [Nat.pos_iff_ne_zero, ne_eq, String.utf8ByteSize_eq_zero_iff]

/-- The path around a file in a folder is not longer than that of the folder. -/
theorem utf8ByteSize_le_of_parent?_join {base name : String} (nonempty : base ≠ "")
    (named : IsName name) (found : parent? (join base name) = some parent) :
    parent.utf8ByteSize ≤ base.utf8ByteSize := by
  have relative := startsWith_slash_of_notMem named.noSlash
  obtain ⟨front, segments_eq, -⟩ := segments_join base relative
  rw [segments_of_noSlash named.noSlash] at segments_eq
  obtain ⟨other, other_eq, other_cases⟩ := exists_parent?_of_segments segments_eq named
  obtain rfl : other = parent := Option.some.inj (other_eq.symm.trans found)
  rcases other_cases with ⟨-, rfl⟩ | ⟨rfl, -⟩ | ⟨-, lead, -, -, -, path_eq⟩
  · exact Nat.zero_le _
  · exact utf8ByteSize_pos nonempty
  · have bound := utf8ByteSize_join_le base relative
    rw [path_eq] at bound
    have slash_size : "/".utf8ByteSize = 1 := by decide
    simp only [String.utf8ByteSize_append, slash_size] at bound
    omega

theorem Fits.of_size {base : String} (plain : IsPlain path) (noNull : '\x00' ∉ path.toList)
    (names : ∀ name ∈ segments path, name.utf8ByteSize ≤ 255)
    (room : base.utf8ByteSize + 1 + path.utf8ByteSize ≤ 4095) : Fits base path :=
  ⟨plain, noNull, names, Nat.le_trans (utf8ByteSize_join_le base plain.relative) room⟩

theorem IsPlain.steps_join (plain : IsPlain path) (base : String) :
    steps (join base path) = steps base ++ segments path := by
  obtain ⟨front, segments_eq, -, front_eq⟩ := segments_join base plain.relative
  have active_eq : active (segments path) = segments path := plain.steps_eq
  rw [steps, segments_eq, active_append, front_eq, active_eq]

/-- A plain path ends in a name, and so does a path that it is joined to. -/
theorem IsPlain.exists_segments_join (plain : IsPlain path) (base : String) :
    ∃ front name, segments (join base path) = front ++ [name] ∧ IsName name := by
  obtain ⟨front, segments_eq, -⟩ := segments_join base plain.relative
  have nonempty := segments_ne_nil path
  refine ⟨front ++ (segments path).dropLast, (segments path).getLast nonempty, ?_,
    plain _ (List.getLast_mem nonempty)⟩
  rw [segments_eq, List.append_assoc, List.dropLast_concat_getLast]

theorem startsWith_slash_join (base : String) (relative : path.startsWith "/" = false) :
    (join base path).startsWith "/" = base.startsWith "/" := by
  rw [join, if_neg (by simp [relative])]
  by_cases empty : base = ""
  · subst empty
    rw [if_pos (.inl rfl), String.empty_append, relative]
    exact (startsWith_slash_of_notMem (by simp)).symm
  · split_ifs
    · exact startsWith_slash_append empty path
    · rw [String.append_assoc, startsWith_slash_append empty]

theorem endsWith_slash_of_segments {name : String} {front : List String}
    (segments_eq : segments path = front ++ [name]) (named : IsName name) :
    path.endsWith "/" = false := by
  rw [← Bool.not_eq_true]
  intro slashed
  obtain ⟨before, -, blank⟩ := exists_segments_of_endsWith slashed
  exact named.nonempty (List.append_singleton_inj.mp (segments_eq.symm.trans blank)).2

/-- A folder's path that ends in a name is joined with a slash. -/
theorem join_of_segments {name : String} {front : List String}
    (segments_eq : segments parent = front ++ [name]) (named : IsName name)
    (relative : path.startsWith "/" = false) : join parent path = parent ++ "/" ++ path := by
  have open_end := endsWith_slash_of_segments segments_eq named
  have nonempty : parent ≠ "" := by
    rintro rfl
    have blank : [] ++ [""] = front ++ [name] := segments_eq
    exact named.nonempty (List.append_singleton_inj.mp blank).2.symm
  simp [join, relative, nonempty, open_end]

/-- Joining paths one after another is joining them at once. -/
theorem IsName.join_join {name : String} (named : IsName name) (base : String)
    (relative : path.startsWith "/" = false) :
    join (join base name) path = join base (name ++ "/" ++ path) := by
  obtain ⟨front, segments_eq, -⟩ := segments_join base (startsWith_slash_of_notMem named.noSlash)
  rw [segments_of_noSlash named.noSlash] at segments_eq
  rw [join_of_segments segments_eq named relative, String.append_assoc, String.append_assoc,
    join_append base named.nonempty]

theorem relativeTo_append (base rest : String) :
    relativeTo base (base ++ rest) = "/".intercalate ((segments rest).dropWhile isIdle) := by
  have dropped : (base ++ rest).toList.drop base.length = rest.toList := by
    rw [String.toList_append, ← String.length_toList, List.drop_left]
  have passed : base.toList.isPrefixOf (base ++ rest).toList = true := by
    rw [List.isPrefixOf_iff_prefix, String.toList_append]
    exact List.prefix_append _ _
  rw [relativeTo, if_pos passed, dropped]
  rfl

theorem IsPlain.relativeTo_join (plain : IsPlain path) (base : String) :
    relativeTo base (join base path) = path := by
  have kept : "/".intercalate ((segments path).dropWhile isIdle) = path := by
    obtain ⟨first, others, segments_eq⟩ :=
      List.exists_cons_of_ne_nil (segments_ne_nil path)
    have busy := (plain first (segments_eq ▸ List.mem_cons_self)).busy
    have first_kept : (segments path).dropWhile isIdle = segments path := by
      rw [segments_eq, List.dropWhile_cons_of_neg (by simp [busy])]
    rw [first_kept]
    exact Text.intercalate_splitAtChar '/' path
  rw [join, if_neg (by simp [plain.relative])]
  split_ifs with open_end
  · rw [relativeTo_append, kept]
  · have slashed : segments ("/" ++ path) = "" :: segments path := segments_append_slash "" path
    rw [String.append_assoc, relativeTo_append, slashed, List.dropWhile_cons_of_pos (by decide),
      kept]

end Path
end DataLayer
