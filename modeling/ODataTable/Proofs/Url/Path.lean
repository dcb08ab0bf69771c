import ODataTable.Proofs.Text.Split
import ODataTable.Proofs.Url.Percent
import ODataTable.Url.Path

/-! Paths of the web are read back as they are written.

What is read is a list of segments in which nothing is left to do: no segment holds a separator
or a character that has to be encoded, and none is made of dots.
-/

set_option autoImplicit false

namespace ODataTable.UrlPath

structure Settled (segment : List Char) : Prop where
  whole : ∀ c ∈ segment, SchemeKind.web.separates c = false
  plain : ∀ c ∈ segment, Percent.pathSet c = false
  notSingleDot : isSingleDot segment = false
  notDoubleDot : isDoubleDot segment = false

theorem settled_nil : Settled [] where
  whole _ member := absurd member List.not_mem_nil
  plain _ member := absurd member List.not_mem_nil
  notSingleDot := rfl
  notDoubleDot := rfl

theorem settle_web (path : List (List Char)) (segment : List Char) :
    settle .web path segment = segment := by
  unfold settle
  split <;> simp

theorem mem_of_mem_dropLast {path : List (List Char)} {segment : List Char}
    (member : segment ∈ dropLast path) : segment ∈ path := by
  unfold dropLast at member
  split at member
  · split at member
    · exact member
    · exact (List.dropLast_sublist path).subset member
  · exact absurd member List.not_mem_nil

theorem eq_nil_of_mem_tail {rest : List (List Char)} {segment : List Char}
    (member : segment ∈ (if rest.isEmpty then [[]] else ([] : List (List Char)))) : segment = [] := by
  split at member
  · exact List.mem_singleton.mp member
  · exact absurd member List.not_mem_nil

/-- Walking adds nothing but settled segments, if what is walked over is split and encoded. -/
theorem walk_settled {path rest : List (List Char)} (before : ∀ segment ∈ path, Settled segment)
    (whole : ∀ segment ∈ rest, ∀ c ∈ segment, SchemeKind.web.separates c = false)
    (plain : ∀ segment ∈ rest, ∀ c ∈ segment, Percent.pathSet c = false) :
    ∀ segment ∈ walk .web path rest, Settled segment := by
  induction rest generalizing path with
  | nil => exact before
  | cons next rest ih =>
    have whole' := fun other member => whole other (List.mem_cons_of_mem next member)
    have plain' := fun other member => plain other (List.mem_cons_of_mem next member)
    rw [walk]
    split
    next =>
      -- Going up leaves segments from before, and at the end an empty one.
      refine ih (fun segment member => ?_) whole' plain'
      rcases List.mem_append.mp member with earlier | tail
      · exact before segment (mem_of_mem_dropLast earlier)
      · exact eq_nil_of_mem_tail tail ▸ settled_nil
    next notDoubleDot =>
      split
      next =>
        refine ih (fun segment member => ?_) whole' plain'
        rcases List.mem_append.mp member with earlier | tail
        · exact before segment earlier
        · exact eq_nil_of_mem_tail tail ▸ settled_nil
      next notSingleDot =>
        refine ih (fun segment member => ?_) whole' plain'
        rcases List.mem_append.mp member with earlier | added
        · exact before segment earlier
        · rw [settle_web, List.mem_singleton] at added
          subst added
          exact
            { whole := whole segment List.mem_cons_self
              plain := plain segment List.mem_cons_self
              notSingleDot := Bool.eq_false_iff.mpr notSingleDot
              notDoubleDot := Bool.eq_false_iff.mpr notDoubleDot }

/-- Whatever dots take away, at least an empty segment is left at the end. -/
theorem walk_ne_nil {path rest : List (List Char)} (some : path ≠ [] ∨ rest ≠ []) :
    walk .web path rest ≠ [] := by
  induction rest generalizing path with
  | nil => exact some.resolve_right fun same => same rfl
  | cons next rest ih =>
    -- Dots take a segment away, but the last one of a path leaves an empty one in its place.
    have left : ∀ path : List (List Char),
        path ++ (if rest.isEmpty then [[]] else []) ≠ [] ∨ rest ≠ [] := by
      intro path
      cases rest with
      | nil => exact .inl (List.append_ne_nil_of_right_ne_nil path (List.cons_ne_nil _ _))
      | cons => exact .inr (List.cons_ne_nil _ _)
    rw [walk]
    split
    · exact ih (left _)
    · split
      · exact ih (left _)
      · exact ih (.inl (List.append_ne_nil_of_right_ne_nil path (List.cons_ne_nil _ _)))

theorem walk_of_settled {path rest : List (List Char)}
    (settled : ∀ segment ∈ rest, Settled segment) : walk .web path rest = path ++ rest := by
  induction rest generalizing path with
  | nil => rw [walk, List.append_nil]
  | cons next rest ih =>
    have here := settled next List.mem_cons_self
    rw [walk, if_neg (by simp [here.notDoubleDot]), if_neg (by simp [here.notSingleDot]),
      settle_web, ih fun other member => settled other (List.mem_cons_of_mem next member),
      List.append_assoc, List.singleton_append]

theorem parse_web (text : List Char) : parse .web text = resolve .web (dropSlash .web text) := by
  simp [parse, trimFront, SchemeKind.isSpecial]

theorem encode_pathSet_plain (text : List Char) :
    ∀ c ∈ Percent.encode Percent.pathSet text, Percent.pathSet c = false := by
  intro c member
  rcases Percent.mem_encode (fun _ => Percent.pathSet_of_isAlphanum) member with rfl | kept
  · rfl
  · exact kept

theorem separates_of_isAlphanum {c : Char} (letter : c.isAlphanum = true) :
    SchemeKind.web.separates c = false := by
  have slash : c ≠ '/' := Percent.ne_of_isAlphanum letter (by decide)
  have backslash : c ≠ '\\' := Percent.ne_of_isAlphanum letter (by decide)
  simp [SchemeKind.separates, slash, backslash]

theorem encode_whole {part : List Char} (whole : ∀ c ∈ part, SchemeKind.web.separates c = false) :
    ∀ c ∈ Percent.encode Percent.pathSet part, SchemeKind.web.separates c = false := by
  intro c member
  rcases Percent.mem_encode_cases member with rfl | letter | ⟨own, _⟩
  · rfl
  · exact separates_of_isAlphanum letter
  · exact whole c own

theorem parse_settled (text : List Char) : ∀ segment ∈ parse .web text, Settled segment := by
  rw [parse_web, resolve]
  refine walk_settled (fun segment member => absurd member List.not_mem_nil) ?_ ?_
  all_goals
    intro segment member c inside
    obtain ⟨part, split, rfl⟩ := List.mem_map.mp member
  · exact encode_whole (free_of_mem_splitWhere split) c inside
  · exact encode_pathSet_plain part c inside

theorem parse_ne_nil (text : List Char) : parse .web text ≠ [] := by
  rw [parse_web, resolve]
  refine walk_ne_nil (.inr fun same => ?_)
  exact splitWhere_ne_nil _ (List.map_eq_nil_iff.mp same)

theorem write_segments {list : List (List Char)} (some : list ≠ []) :
    write (.segments list) = '/' :: List.intercalate ['/'] list := by
  induction list with
  | nil => exact absurd rfl some
  | cons segment rest ih =>
    cases rest with
    | nil => simp [write]
    | cons next rest =>
      have after := ih (List.cons_ne_nil next rest)
      rw [write] at after ⊢
      rw [List.flatMap_cons, after, List.intercalate_cons_cons]
      simp

/-- Settled segments are read back as they are written. -/
theorem parse_write {list : List (List Char)} (some : list ≠ [])
    (settled : ∀ segment ∈ list, Settled segment) : parse .web (write (.segments list)) = list := by
  have slash : dropSlash .web ('/' :: List.intercalate ['/'] list) = List.intercalate ['/'] list := rfl
  have encoded : list.map (Percent.encode Percent.pathSet) = list := by
    rw [List.map_congr_left fun segment member => Percent.encode_of_none (settled segment member).plain,
      List.map_id']
  rw [parse_web, write_segments some, slash, resolve,
    splitWhere_intercalate rfl some fun segment member => (settled segment member).whole, encoded,
    walk_of_settled settled, List.nil_append]

end ODataTable.UrlPath
