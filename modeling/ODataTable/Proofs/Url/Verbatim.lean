import Mathlib.Data.List.Basic
import ODataTable.Proofs.Url.Written

/-! Texts that stand in a path as they are.

Whatever reading a path does to a text makes it shorter: breaks are dropped, and dots take
themselves and more away. So the length of what is read tells whether anything was lost.
-/

set_option autoImplicit false

namespace ODataTable

theorem intercalate_splitWhere {α : Type} [DecidableEq α] (separator : α) (text : List α) :
    List.intercalate [separator] (splitWhere (· = separator) text) = text := by
  induction text with
  | nil => rfl
  | cons c rest ih =>
    rw [splitWhere]
    cases parts : splitWhere (· = separator) rest with
    | nil => exact absurd parts (splitWhere_ne_nil rest)
    | cons part others =>
      rw [parts] at ih
      split
      next same =>
        rw [List.intercalate_cons_cons, ih]
        simp [of_decide_eq_true same]
      next =>
        -- The character goes to the front of the first part, so to the front of what is joined.
        cases others with
        | nil => simpa using ih
        | cons => simpa [List.intercalate_cons_cons] using ih

theorem splitWhere_congr {α : Type} {first second : α → Bool} {text : List α}
    (same : ∀ c ∈ text, first c = second c) : splitWhere first text = splitWhere second text := by
  induction text with
  | nil => rfl
  | cons c rest ih =>
    rw [splitWhere, splitWhere, same c List.mem_cons_self,
      ih fun d member => same d (List.mem_cons_of_mem _ member)]

theorem Percent.encode_cons (set : Char → Bool) (c : Char) (rest : List Char) :
    Percent.encode set (c :: rest) =
      (if set c then Percent.encodeChar c else [c]) ++ Percent.encode set rest := rfl

theorem Percent.encode_append (set : Char → Bool) (first second : List Char) :
    Percent.encode set (first ++ second) =
      Percent.encode set first ++ Percent.encode set second := List.flatMap_append

theorem Percent.encode_intercalate {set : Char → Bool} {separator : Char}
    (kept : set separator = false) (parts : List (List Char)) :
    Percent.encode set (List.intercalate [separator] parts) =
      List.intercalate [separator] (parts.map (Percent.encode set)) := by
  have alone : Percent.encode set [separator] = [separator] :=
    Percent.encode_of_none (by simpa using kept)
  have written := flatMap_intercalate (fun c => if set c then Percent.encodeChar c else [c])
    [separator] parts
  exact written.trans (congrArg (List.intercalate · (parts.map (Percent.encode set))) alone)

theorem Percent.encodeChar_ne_nil (c : Char) : Percent.encodeChar c ≠ [] := by
  obtain ⟨lead, tail, octets, _⟩ := Utf8.readPiece_encodeChar c []
  rw [Percent.encodeChar, octets]
  exact List.cons_ne_nil _ _

theorem Percent.encode_ne_nil {set : Char → Bool} {text : List Char} (some : text ≠ []) :
    Percent.encode set text ≠ [] := by
  cases text with
  | nil => exact absurd rfl some
  | cons c rest =>
    rw [Percent.encode_cons]
    split
    · exact List.append_ne_nil_of_left_ne_nil (Percent.encodeChar_ne_nil c) _
    · exact List.cons_ne_nil _ _

namespace UrlPath

def filled (path : List (List Char)) : List (List Char) :=
  path.filter (!·.isEmpty)

/-- Whether a segment is a dot or two dots, which lead elsewhere. -/
def isDots (segment : List Char) : Bool :=
  isDoubleDot segment || isSingleDot segment

theorem length_pos_of_isDots {segment : List Char} (dots : isDots segment = true) :
    0 < segment.length := by
  cases segment with
  | nil => cases dots
  | cons => exact Nat.succ_pos _

theorem write_cons (segment : List Char) (rest : List (List Char)) :
    write (.segments (segment :: rest)) = '/' :: segment ++ write (.segments rest) := rfl

theorem write_append (first second : List (List Char)) :
    write (.segments (first ++ second)) =
      write (.segments first) ++ write (.segments second) := List.flatMap_append

theorem length_write_dropLast (path : List (List Char)) :
    (write (.segments (dropLast path))).length ≤ (write (.segments path)).length := by
  unfold dropLast
  split
  next segment last =>
    split
    · exact Nat.le_refl _
    · obtain ⟨front, rfl⟩ := List.getLast?_eq_some_iff.mp last
      rw [List.dropLast_concat, write_append, List.length_append]
      exact Nat.le_add_right _ _
  · exact Nat.zero_le _

/-- Each dot or double dot that is walked over makes a path shorter. -/
theorem length_walk (path rest : List (List Char)) :
    (write (.segments (walk .web path rest))).length + rest.countP isDots ≤
      (write (.segments path)).length + (write (.segments rest)).length := by
  induction rest generalizing path with
  | nil => simp [walk, write]
  | cons next rest ih =>
    -- After dots at the end a slash remains, and a slash is shorter than what it replaces.
    have tail : (write (.segments (if rest.isEmpty then [[]] else []))).length ≤ 1 := by
      split <;> simp [write]
    have split : (write (.segments (next :: rest))).length =
        next.length + 1 + (write (.segments rest)).length := by
      rw [write_cons, List.length_append, List.length_cons]
    rw [walk, List.countP_cons, split]
    split
    next double =>
      have dots : isDots next = true := by simp [isDots, double]
      have own := length_pos_of_isDots dots
      have up := length_write_dropLast path
      have after := ih (dropLast path ++ if rest.isEmpty then [[]] else [])
      rw [write_append, List.length_append] at after
      rw [if_pos dots]
      omega
    next notDouble =>
      split
      next single =>
        have dots : isDots next = true := by simp [isDots, single]
        have own := length_pos_of_isDots dots
        have after := ih (path ++ if rest.isEmpty then [[]] else [])
        rw [write_append, List.length_append] at after
        rw [if_pos dots]
        omega
      next notSingle =>
        have plain : isDots next = false := by simp [isDots, notDouble, notSingle]
        have after := ih (path ++ [settle .web path next])
        rw [settle_web, write_append, List.length_append, write_cons, List.length_append] at after
        rw [settle_web, if_neg (by simp [plain])]
        simp only [List.length_cons, write, List.flatMap_nil, List.length_nil] at after ⊢
        omega

theorem pathSet_of_separates {c : Char} (separates : SchemeKind.web.separates c = true) :
    Percent.pathSet c = false := by
  simp only [SchemeKind.separates, SchemeKind.isSpecial, Bool.and_true, Bool.or_eq_true,
    decide_eq_true_eq] at separates
  rcases separates with rfl | rfl <;> decide

theorem length_write_split (text : List Char) :
    (write (.segments ((splitWhere SchemeKind.web.separates text).map
      (Percent.encode Percent.pathSet)))).length =
      (Percent.encode Percent.pathSet text).length + 1 := by
  induction text with
  | nil => rfl
  | cons c rest ih =>
    rw [splitWhere]
    split
    next separates =>
      rw [List.map_cons, write_cons, List.length_append, ih, Percent.encode_cons,
        pathSet_of_separates separates]
      simp [Percent.encode]
      omega
    next =>
      cases parts : splitWhere SchemeKind.web.separates rest with
      | nil => exact absurd parts (splitWhere_ne_nil rest)
      | cons part others =>
        rw [parts] at ih
        simp only [List.map_cons, write_cons, List.length_append, List.length_cons,
          Percent.encode_cons] at ih ⊢
        omega

end UrlPath

namespace Url

def isBreak (c : Char) : Bool := c = '\t' || c = '\n' || c = '\r'

theorem dropBreaks_cons (c : Char) (rest : List Char) :
    dropBreaks (c :: rest) = if isBreak c then dropBreaks rest else c :: dropBreaks rest := by
  simp only [dropBreaks, isBreak, List.filter_cons]
  by_cases tab : c = '\t' <;> by_cases line : c = '\n' <;> by_cases feed : c = '\r' <;>
    simp [tab, line, feed]

theorem pathSet_of_isBreak {c : Char} (breaks : isBreak c = true) : Percent.pathSet c = true := by
  simp only [isBreak, Bool.or_eq_true, decide_eq_true_eq] at breaks
  rcases breaks with (rfl | rfl) | rfl <;> decide

/-- A break that is dropped would have had an escape, so dropping it makes the encoded text
shorter by more than the text. -/
theorem length_encode_dropBreaks (text : List Char) :
    (Percent.encode Percent.pathSet (dropBreaks text)).length + text.length ≤
      (Percent.encode Percent.pathSet text).length + (dropBreaks text).length := by
  induction text with
  | nil => exact Nat.le_refl _
  | cons c rest ih =>
    have own := List.length_pos_of_ne_nil (Percent.encodeChar_ne_nil c)
    rw [dropBreaks_cons, Percent.encode_cons]
    split
    next breaks =>
      rw [if_pos (pathSet_of_isBreak breaks)]
      simp only [List.length_append, List.length_cons]
      omega
    next =>
      rw [Percent.encode_cons]
      simp only [List.length_append, List.length_cons]
      omega

theorem unbroken_of_length_le {text : List Char} (kept : text.length ≤ (dropBreaks text).length) :
    ∀ c ∈ text, isBreak c = false := by
  induction text with
  | nil => exact nofun
  | cons c rest ih =>
    have fewer : (dropBreaks rest).length ≤ rest.length := List.length_filter_le _ _
    rw [dropBreaks_cons] at kept
    split at kept
    · simp only [List.length_cons] at kept
      omega
    next noBreak =>
      simp only [List.length_cons, Nat.add_le_add_iff_right] at kept
      exact List.forall_mem_cons.mpr ⟨Bool.eq_false_iff.mpr noBreak, ih kept⟩

theorem dropBreaks_of_unbroken {text : List Char} (unbroken : ∀ c ∈ text, isBreak c = false) :
    dropBreaks text = text := by
  induction text with
  | nil => rfl
  | cons c rest ih =>
    rw [dropBreaks_cons, unbroken c List.mem_cons_self,
      ih fun d member => unbroken d (List.mem_cons_of_mem _ member)]
    rfl

end Url

namespace UrlPath

/-- A text in which nothing counts for nothing, nothing but slashes ends a segment, and no segment
leads elsewhere. -/
structure Verbatim (text : List Char) : Prop where
  unbroken : ∀ c ∈ text, Url.isBreak c = false
  noBackslash : '\\' ∉ text
  noDots : ∀ part ∈ splitWhere (· = '/') text,
    isDots (Percent.encode Percent.pathSet part) = false

theorem parse_behind_slash (text : List Char) :
    parse .web (Url.dropBreaks ('/' :: text)) =
      walk .web [] ((splitWhere SchemeKind.web.separates (Url.dropBreaks text)).map
        (Percent.encode Percent.pathSet)) := by
  rw [Url.dropBreaks_cons, if_neg (by decide), parse_web]
  rfl

theorem splitWhere_of_noBackslash {text : List Char} (noBackslash : '\\' ∉ text) :
    splitWhere SchemeKind.web.separates text = splitWhere (· = '/') text := by
  refine splitWhere_congr fun c member => ?_
  have other : c ≠ '\\' := fun same => noBackslash (same ▸ member)
  simp [SchemeKind.separates, other]

theorem backslash_not_mem_write (text : List Char) :
    '\\' ∉ write (.segments (parse .web text)) := by
  intro member
  rw [write, List.mem_flatMap] at member
  obtain ⟨segment, own, member⟩ := member
  rcases List.mem_cons.mp member with same | inside
  · exact absurd same (by decide)
  · have whole := (parse_settled text segment own).whole '\\' inside
    exact absurd whole (by decide)

/-- A path is written as its text, but for escapes, exactly if the text is verbatim. -/
theorem write_parse_iff (text : List Char) :
    write (.segments (parse .web (Url.dropBreaks ('/' :: text)))) =
      '/' :: Percent.encode Percent.pathSet text ↔ Verbatim text := by
  constructor
  · intro same
    -- Every step from the text to the path can only lose something, and nothing is lost in total.
    have walked := length_walk [] ((splitWhere SchemeKind.web.separates (Url.dropBreaks text)).map
      (Percent.encode Percent.pathSet))
    have encoded := Url.length_encode_dropBreaks text
    have fewer : (Url.dropBreaks text).length ≤ text.length := List.length_filter_le _ _
    have total := congrArg List.length same
    rw [parse_behind_slash] at total
    rw [length_write_split, total] at walked
    simp only [write, List.flatMap_nil, List.length_nil, List.length_cons] at walked
    have unbroken := Url.unbroken_of_length_le (by omega : text.length ≤ (Url.dropBreaks text).length)
    have noBackslash : '\\' ∉ text := by
      intro member
      have kept : '\\' ∈ Percent.encode Percent.pathSet text :=
        List.mem_flatMap.mpr ⟨'\\', member, by decide⟩
      exact backslash_not_mem_write _ (same ▸ List.mem_cons_of_mem _ kept)
    refine ⟨unbroken, noBackslash, fun part member => ?_⟩
    have none : List.countP isDots ((splitWhere SchemeKind.web.separates (Url.dropBreaks text)).map
        (Percent.encode Percent.pathSet)) = 0 := by omega
    rw [Url.dropBreaks_of_unbroken unbroken, splitWhere_of_noBackslash noBackslash,
      List.countP_eq_zero] at none
    exact Bool.eq_false_iff.mpr (none _ (List.mem_map_of_mem member))
  · intro verbatim
    have settled : ∀ segment ∈ (splitWhere (· = '/') text).map (Percent.encode Percent.pathSet),
        Settled segment := by
      intro segment member
      obtain ⟨part, own, rfl⟩ := List.mem_map.mp member
      have dots := verbatim.noDots part own
      rw [isDots, Bool.or_eq_false_iff] at dots
      refine
        { whole := fun c inside => ?_
          plain := encode_pathSet_plain part
          notSingleDot := dots.2
          notDoubleDot := dots.1 }
      rw [← splitWhere_of_noBackslash verbatim.noBackslash] at own
      exact encode_whole (free_of_mem_splitWhere own) c inside
    have some : (splitWhere (· = '/') text).map (Percent.encode Percent.pathSet) ≠ [] := by
      simpa using splitWhere_ne_nil text
    rw [parse_behind_slash, Url.dropBreaks_of_unbroken verbatim.unbroken,
      splitWhere_of_noBackslash verbatim.noBackslash, walk_of_settled settled, List.nil_append,
      write_segments some, ← Percent.encode_intercalate (by decide), intercalate_splitWhere]

end UrlPath

end ODataTable
