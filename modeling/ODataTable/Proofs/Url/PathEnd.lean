import Mathlib.Data.List.Flatten
import ODataTable.Proofs.Url.Refused
import ODataTable.Proofs.Url.Verbatim

/-! The end of a path.

Slashes at the end of a path add nothing but empty segments. Blanks before them make its last
segment longer, because their escapes are no dots.
-/

set_option autoImplicit false

namespace ODataTable

theorem splitWhere_append_separator {α : Type} {separates : α → Bool} {separator : α}
    (separating : separates separator = true) (text rest : List α) :
    splitWhere separates (text ++ separator :: rest) =
      splitWhere separates text ++ splitWhere separates rest := by
  induction text with
  | nil => simp [splitWhere, separating]
  | cons c text ih =>
    simp only [List.cons_append, splitWhere, ih]
    split
    · rfl
    · cases parts : splitWhere separates text with
      | nil => exact absurd parts (splitWhere_ne_nil text)
      | cons => rfl

theorem splitWhere_append_separators {α : Type} {separates : α → Bool} (text : List α)
    {separators : List α} (separating : ∀ c ∈ separators, separates c = true) :
    splitWhere separates (text ++ separators) =
      splitWhere separates text ++ List.replicate separators.length [] := by
  induction separators generalizing text with
  | nil => simp
  | cons c rest ih =>
    have after := ih [] fun d member => separating d (List.mem_cons_of_mem _ member)
    rw [List.nil_append] at after
    rw [splitWhere_append_separator (separating c List.mem_cons_self), after]
    rfl

namespace UrlPath

def dots : List (List Char) := [".".toList, "%2e".toList, "%2E".toList]

theorem plainDots_eq_cons {text more : List Char} (plain : plainDots text = '.' :: more) :
    ∃ dot ∈ dots, ∃ rest, text = dot ++ rest ∧ plainDots rest = more := by
  unfold plainDots at plain
  split at plain
  next c rest =>
    split at plain
    next dot =>
      cases plain
      simp only [Bool.or_eq_true, decide_eq_true_eq] at dot
      rcases dot with rfl | rfl
      · exact ⟨"%2e".toList, by simp [dots], rest, rfl, rfl⟩
      · exact ⟨"%2E".toList, by simp [dots], rest, rfl, rfl⟩
    · cases plain
  next c rest _ =>
    cases plain
    exact ⟨_, List.mem_cons_self, rest, rfl, rfl⟩
  · cases plain

theorem plainDots_eq_nil {text : List Char} (plain : plainDots text = []) : text = [] := by
  unfold plainDots at plain
  split at plain
  · split at plain <;> cases plain
  · cases plain
  · rfl

/-- A segment that leads elsewhere ends in no other escape than that of a dot. -/
theorem eq_of_isDots {front : List Char} {high low : Char}
    (lead : isDots (front ++ ['%', high, low]) = true) : high = '2' ∧ (low = 'e' ∨ low = 'E') := by
  have spelled : ∃ dot ∈ dots, ∃ rest, front ++ ['%', high, low] = dot ++ rest ∧
      (rest = [] ∨ rest ∈ dots) := by
    simp only [isDots, isDoubleDot, isSingleDot, Bool.or_eq_true, decide_eq_true_eq] at lead
    rcases lead with double | single
    · obtain ⟨dot, own, rest, whole, plain⟩ := plainDots_eq_cons double
      obtain ⟨other, second, rest, rfl, none⟩ := plainDots_eq_cons plain
      rw [plainDots_eq_nil none, List.append_nil] at whole
      exact ⟨dot, own, other, whole, .inr second⟩
    · obtain ⟨dot, own, rest, whole, none⟩ := plainDots_eq_cons single
      exact ⟨dot, own, rest, whole, .inl (plainDots_eq_nil none)⟩
  obtain ⟨dot, own, rest, whole, ends⟩ := spelled
  -- Read from behind, each of the twelve spellings shows its last escape first.
  have reversed := congrArg List.reverse whole
  simp only [dots, List.mem_cons, List.not_mem_nil, or_false] at own ends
  rcases own with rfl | rfl | rfl
  all_goals
    rcases ends with rfl | rfl | rfl | rfl
    all_goals
      simp at reversed
  all_goals simp [reversed]

theorem isDots_append_blank {c : Char} (blank : c.toNat ≤ 0x20) (front : List Char) :
    isDots (front ++ Percent.encode Percent.pathSet [c]) = false := by
  have table : ∀ n < 0x21, Percent.hexDigit (n / 16) ≠ '2' ∨
      Percent.hexDigit (n % 16) ≠ 'e' ∧ Percent.hexDigit (n % 16) ≠ 'E' := by decide
  have set : Percent.pathSet c = true := by
    refine Classical.byContradiction fun other => ?_
    have kept := Percent.fragmentSet_of_pathSet (Bool.eq_false_iff.mpr other)
    have visible := Percent.lt_toNat_of_fragmentSet kept
    omega
  have escape : Percent.encode Percent.pathSet [c] =
      ['%', Percent.hexDigit (c.toNat / 16), Percent.hexDigit (c.toNat % 16)] := by
    have octet : (c.toNat.toUInt8).toNat = c.toNat := Utf8.toNat_toUInt8 _ (by omega)
    rw [Percent.encode_cons, if_pos set, Percent.encodeChar, encodeChar_of_blank blank]
    simp [Percent.encodeOctet, Percent.encode, octet]
  rw [escape, Bool.eq_false_iff]
  intro lead
  obtain ⟨high, low⟩ := eq_of_isDots lead
  rcases table c.toNat (by omega) with other | ⟨small, capital⟩
  · exact other high
  · exact low.elim small capital

def step (path : List (List Char)) (segment : List Char) : List (List Char) :=
  if isDoubleDot segment then dropLast path
  else if isSingleDot segment then path
  else path ++ [segment]

theorem walk_append (path front : List (List Char)) {rest : List (List Char)} (some : rest ≠ []) :
    walk .web path (front ++ rest) = walk .web (front.foldl step path) rest := by
  induction front generalizing path with
  | nil => rfl
  | cons segment front ih =>
    have more : (front ++ rest).isEmpty = false := by simp [some]
    rw [List.cons_append, walk, more, List.foldl_cons]
    simp only [Bool.false_eq_true, if_false, List.append_nil, ih, step, settle_web]
    split
    · rfl
    · split <;> rfl

theorem filled_append (first second : List (List Char)) :
    filled (first ++ second) = filled first ++ filled second := List.filter_append _ _

theorem filled_empties (n : Nat) : filled (List.replicate n []) = [] := by
  simp [filled]

theorem walk_empties (path : List (List Char)) (n : Nat) :
    walk .web path (List.replicate n []) = path ++ List.replicate n [] := by
  refine walk_of_settled fun segment member => ?_
  rw [List.eq_of_mem_replicate member]
  exact settled_nil

/-- Empty segments at the end of a path add no others. -/
theorem filled_walk_empties (path : List (List Char)) (segment : List Char) (n : Nat) :
    filled (walk .web path (segment :: List.replicate n [])) =
      filled (walk .web path [segment]) := by
  have tail : filled (if (List.replicate n ([] : List Char)).isEmpty then [[]] else []) = [] := by
    split <;> rfl
  have alone : filled (if ([] : List (List Char)).isEmpty then [[]] else []) = [] := rfl
  simp only [walk, settle_web]
  split
  · rw [walk_empties, filled_append, filled_append, filled_append, filled_empties, tail, alone,
      List.append_nil]
  · split
    · rw [walk_empties, filled_append, filled_append, filled_append, filled_empties, tail, alone,
        List.append_nil]
    · rw [walk_empties, filled_append, filled_empties, List.append_nil]

theorem length_write_sublist {first second : List (List Char)} (inside : first.Sublist second) :
    (write (.segments first)).length ≤ (write (.segments second)).length :=
  (inside.flatMap fun segment => '/' :: segment).length_le

theorem dropLast_sublist (path : List (List Char)) : (dropLast path).Sublist path := by
  unfold dropLast
  split
  · split
    · exact List.Sublist.refl path
    · exact List.dropLast_sublist path
  · exact List.nil_sublist path

/-- A last segment leaves no more than the segments before it and itself. -/
theorem filled_walk_sublist (path : List (List Char)) (segment : List Char) :
    (filled (walk .web path [segment])).Sublist (filled path ++ filled [segment]) := by
  have alone : filled (if ([] : List (List Char)).isEmpty then [[]] else []) = [] := rfl
  simp only [walk, settle_web]
  split
  · rw [filled_append, alone, List.append_nil]
    exact ((dropLast_sublist path).filter _).trans (List.sublist_append_left _ _)
  · split
    · rw [filled_append, alone, List.append_nil]
      exact List.sublist_append_left _ _
    · rw [filled_append]

variable {blanks slashes : List Char} (blank : ∀ c ∈ blanks, c.toNat ≤ 0x20)
  (same : ∀ c ∈ slashes, c = '/')
include blank same

/-- With blanks and slashes behind it and without, a path is walked alike up to its last segment. -/
theorem parse_eq_walk {c : Char} (separates : SchemeKind.web.separates c = true) (text : List Char) :
    ∃ path last,
      parse .web (c :: text) = walk .web path [Percent.encode Percent.pathSet last] ∧
      parse .web (c :: text ++ (blanks ++ slashes)) =
        walk .web path (Percent.encode Percent.pathSet (last ++ blanks) ::
          List.replicate slashes.length []) := by
  have inside : ∀ d ∈ blanks, SchemeKind.web.separates d = false :=
    fun d member => separates_of_blank (blank d member)
  have outside : ∀ d ∈ slashes, SchemeKind.web.separates d = true := by
    intro d member
    rw [same d member]
    rfl
  obtain ⟨front, last, before, after⟩ := splitWhere_append text inside
  refine ⟨(front.map (Percent.encode Percent.pathSet)).foldl step [], last, ?_, ?_⟩
  · rw [parse_web, dropSlash, if_pos separates, resolve, before, List.map_append,
      walk_append _ _ (by simp)]
    rfl
  · rw [parse_web, List.cons_append, dropSlash, if_pos separates, resolve, ← List.append_assoc,
      splitWhere_append_separators _ outside, after, List.append_assoc, List.map_append,
      walk_append _ _ (by simp), List.map_append, List.map_replicate]
    rfl

omit blank in
theorem filled_parse_slashes {front : List Char}
    (begins : ∀ c ∈ front.head?, SchemeKind.web.separates c = true) :
    filled (parse .web (front ++ slashes)) = filled (parse .web front) := by
  have noBlanks : ∀ c ∈ ([] : List Char), c.toNat ≤ 0x20 := nofun
  cases front with
  | nil =>
    cases slashes with
    | nil => rfl
    | cons c rest =>
      have slash : SchemeKind.web.separates c = true := by
        rw [same c List.mem_cons_self]
        rfl
      obtain ⟨path, last, before, after⟩ := parse_eq_walk noBlanks
        (fun d member => same d (List.mem_cons_of_mem c member)) slash []
      rw [List.append_nil] at after
      have alone : filled (parse .web [c]) = [] := by
        rw [same c List.mem_cons_self]
        rfl
      change filled (parse .web ([c] ++ ([] ++ rest))) = []
      rw [after, filled_walk_empties, ← before, alone]
  | cons c text =>
    obtain ⟨path, last, before, after⟩ := parse_eq_walk noBlanks same (begins c rfl) text
    rw [List.append_nil, List.nil_append] at after
    rw [before, after, filled_walk_empties]

omit same in
/-- A segment that ends in blanks is no dots, so it stays as it is. -/
theorem walk_blanks (path : List (List Char)) (last : List Char) (ends : blanks ≠ []) :
    walk .web path [Percent.encode Percent.pathSet (last ++ blanks)] =
      path ++ [Percent.encode Percent.pathSet (last ++ blanks)] := by
  have dots : isDots (Percent.encode Percent.pathSet (last ++ blanks)) = false := by
    obtain ⟨others, final, rfl⟩ := (List.eq_nil_or_concat' blanks).resolve_left ends
    rw [← List.append_assoc, Percent.encode_append]
    exact isDots_append_blank (blank final (List.mem_append_right _ List.mem_cons_self)) _
  rw [isDots, Bool.or_eq_false_iff] at dots
  simp [walk, dots.1, dots.2, settle_web]

omit blank same in
/-- A segment grows by what is added to it, also if it was left out before. -/
theorem length_write_append_lt (last : List Char) {added : List Char} (more : added ≠ []) :
    (write (.segments (filled [Percent.encode Percent.pathSet last]))).length <
      (write (.segments (filled [Percent.encode Percent.pathSet (last ++ added)]))).length := by
  have grown : 0 < (Percent.encode Percent.pathSet added).length :=
    List.length_pos_of_ne_nil (Percent.encode_ne_nil more)
  rw [Percent.encode_append]
  generalize Percent.encode Percent.pathSet last = own at *
  generalize Percent.encode Percent.pathSet added = written at *
  cases own with
  | nil =>
    cases written with
    | nil => exact absurd grown (Nat.lt_irrefl 0)
    | cons => simp [filled, write]
  | cons =>
    simp [filled, write]
    omega

theorem length_parse_blanks {front : List Char}
    (begins : ∀ c ∈ front.head?, SchemeKind.web.separates c = true) (some : front ≠ [])
    (ends : blanks ≠ []) :
    (write (.segments (filled (parse .web front)))).length <
      (write (.segments (filled (parse .web (front ++ (blanks ++ slashes)))))).length := by
  cases front with
  | nil => exact absurd rfl some
  | cons c text =>
    obtain ⟨path, last, before, after⟩ := parse_eq_walk blank same (begins c rfl) text
    -- Without the blanks the last segment may lead up the path, and is never longer than itself.
    have shorter := length_write_sublist
      (filled_walk_sublist path (Percent.encode Percent.pathSet last))
    have grown := length_write_append_lt last ends
    rw [before, after, filled_walk_empties, walk_blanks blank path last ends, filled_append,
      write_append, List.length_append]
    rw [write_append, List.length_append] at shorter
    omega

end UrlPath

end ODataTable
