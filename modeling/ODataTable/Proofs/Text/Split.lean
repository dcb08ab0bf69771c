import Mathlib.Data.List.TakeWhile
import ODataTable.Text.Split

/-! Parts that are joined by a separator. Splitting undoes joining, if no part holds one. -/

set_option autoImplicit false

namespace ODataTable

variable {α : Type} {separates : α → Bool}

section Reached

variable {p : α → Bool} {text : List α} (reached : text.dropWhile p ≠ [])
include reached

theorem takeWhile_append_of_reached (added : List α) :
    (text ++ added).takeWhile p = text.takeWhile p := by
  have cut := congrArg List.length (List.takeWhile_append_dropWhile (p := p) (l := text))
  have some := List.length_pos_iff.mpr reached
  rw [List.length_append] at cut
  rw [List.takeWhile_append, if_neg (by omega)]

theorem dropWhile_append_of_reached (added : List α) :
    (text ++ added).dropWhile p = text.dropWhile p ++ added := by
  rw [List.dropWhile_append, if_neg (by simpa using reached)]

end Reached

theorem splitWhere_of_none {text : List α} (free : ∀ c ∈ text, separates c = false) :
    splitWhere separates text = [text] := by
  induction text with
  | nil => rfl
  | cons c rest ih =>
    have here := free c List.mem_cons_self
    have after := ih fun d member => free d (List.mem_cons_of_mem _ member)
    simp only [splitWhere, here, after, Bool.false_eq_true, if_false]

theorem splitWhere_ne_nil (text : List α) : splitWhere separates text ≠ [] := by
  cases text with
  | nil => exact List.cons_ne_nil _ _
  | cons c rest =>
    unfold splitWhere
    split
    · exact List.cons_ne_nil _ _
    · split <;> exact List.cons_ne_nil _ _

theorem free_of_mem_splitWhere {text part : List α} (member : part ∈ splitWhere separates text) :
    ∀ c ∈ part, separates c = false := by
  induction text generalizing part with
  | nil =>
    rw [splitWhere, List.mem_singleton] at member
    subst member
    exact fun c inside => absurd inside List.not_mem_nil
  | cons d rest ih =>
    unfold splitWhere at member
    split at member
    next =>
      rcases List.mem_cons.mp member with rfl | later
      · exact fun c inside => absurd inside List.not_mem_nil
      · exact ih later
    next kept =>
      -- The character goes to the front of the first part of the rest.
      cases parts : splitWhere separates rest with
      | nil => exact absurd parts (splitWhere_ne_nil rest)
      | cons first others =>
        rw [parts] at member ih
        rcases List.mem_cons.mp member with rfl | later
        · intro c inside
          rcases List.mem_cons.mp inside with rfl | inside
          · exact Bool.eq_false_iff.mpr kept
          · exact ih List.mem_cons_self c inside
        · exact ih (List.mem_cons_of_mem _ later)

theorem splitWhere_append_cons {part : List α} {separator : α}
    (free : ∀ c ∈ part, separates c = false) (separating : separates separator = true)
    (rest : List α) :
    splitWhere separates (part ++ separator :: rest) = part :: splitWhere separates rest := by
  induction part with
  | nil => simp only [List.nil_append, splitWhere, separating, if_true]
  | cons c part ih =>
    have here := free c List.mem_cons_self
    have after := ih fun d member => free d (List.mem_cons_of_mem _ member)
    simp only [List.cons_append, splitWhere, here, after, Bool.false_eq_true, if_false]

theorem splitWhere_intercalate {separator : α} (separating : separates separator = true)
    {parts : List (List α)} (some : parts ≠ [])
    (free : ∀ part ∈ parts, ∀ c ∈ part, separates c = false) :
    splitWhere separates (List.intercalate [separator] parts) = parts := by
  induction parts with
  | nil => exact absurd rfl some
  | cons part rest ih =>
    have here := free part List.mem_cons_self
    cases rest with
    | nil => rw [List.intercalate_singleton, splitWhere_of_none here]
    | cons next rest =>
      have after := ih (List.cons_ne_nil next rest) fun other member =>
        free other (List.mem_cons_of_mem _ member)
      rw [List.intercalate_cons_cons, List.append_assoc, List.singleton_append,
        splitWhere_append_cons here separating, after]

/-- Splitting goes on in the last part, if nothing that is added separates. -/
theorem splitWhere_append (text : List α) {added : List α}
    (free : ∀ c ∈ added, separates c = false) :
    ∃ front last, splitWhere separates text = front ++ [last] ∧
      splitWhere separates (text ++ added) = front ++ [last ++ added] := by
  induction text with
  | nil => exact ⟨[], [], rfl, splitWhere_of_none free⟩
  | cons c rest ih =>
    obtain ⟨front, last, before, after⟩ := ih
    simp only [List.cons_append, splitWhere, before, after]
    split
    · exact ⟨[] :: front, last, rfl, rfl⟩
    · cases front with
      | nil => exact ⟨[], c :: last, rfl, rfl⟩
      | cons first front => exact ⟨(c :: first) :: front, last, rfl, rfl⟩

theorem intercalate_append {separator : List α} {first second : List (List α)}
    (some : first ≠ []) (more : second ≠ []) :
    List.intercalate separator (first ++ second) =
      List.intercalate separator first ++ separator ++ List.intercalate separator second := by
  induction first with
  | nil => exact absurd rfl some
  | cons part rest ih =>
    cases rest with
    | nil =>
      rw [List.singleton_append, List.intercalate_cons_of_ne_nil more, List.intercalate_singleton]
    | cons next rest =>
      have after := ih (List.cons_ne_nil next rest)
      have others : (next :: rest) ++ second ≠ [] := List.cons_ne_nil next (rest ++ second)
      rw [List.cons_append, List.intercalate_cons_of_ne_nil others, after,
        List.intercalate_cons_cons]
      simp only [List.append_assoc]

/-- Parts that are not empty are joined to nothing only if there are none. -/
theorem intercalate_eq_nil_iff {separator : List α} {parts : List (List α)}
    (filled : ∀ part ∈ parts, part ≠ []) : List.intercalate separator parts = [] ↔ parts = [] := by
  cases parts with
  | nil => exact iff_of_true rfl rfl
  | cons part rest =>
    have first := filled part List.mem_cons_self
    cases rest with
    | nil => simp [first]
    | cons next rest => simp [List.intercalate_cons_cons, first]

/-- To write each item of a joined row is to join the parts that are written. -/
theorem flatMap_intercalate {β : Type} (write : α → List β) (separator : List α)
    (parts : List (List α)) :
    (List.intercalate separator parts).flatMap write =
      List.intercalate (separator.flatMap write) (parts.map (List.flatMap write)) := by
  induction parts with
  | nil => rfl
  | cons part rest ih =>
    cases rest with
    | nil => simp only [List.intercalate_singleton, List.map_singleton]
    | cons next rest =>
      rw [List.intercalate_cons_cons, List.flatMap_append, List.flatMap_append, ih]
      simp only [List.map_cons, List.intercalate_cons_cons]

theorem append_of_not_mem {front more before after : List α} {c : α} (free : c ∉ front)
    (same : front ++ more = before ++ c :: after) :
    ∃ behind, before = front ++ behind ∧ more = behind ++ c :: after := by
  induction front generalizing before with
  | nil => exact ⟨before, rfl, same⟩
  | cons d front ih =>
    cases before with
    | nil => exact absurd (List.head_eq_of_cons_eq same ▸ List.mem_cons_self) free
    | cons e before =>
      rw [List.cons_append, List.cons_append, List.cons.injEq] at same
      obtain ⟨behind, rfl, found⟩ := ih (List.not_mem_of_not_mem_cons free) same.2
      exact ⟨behind, by rw [same.1]; rfl, found⟩

theorem mem_of_mem_intercalate {separator c : α} {parts : List (List α)}
    (member : c ∈ List.intercalate [separator] parts) : c = separator ∨ ∃ part ∈ parts, c ∈ part := by
  induction parts with
  | nil => cases member
  | cons part rest ih =>
    cases rest with
    | nil =>
      rw [List.intercalate_singleton] at member
      exact .inr ⟨part, List.mem_cons_self, member⟩
    | cons next rest =>
      rw [List.intercalate_cons_cons, List.mem_append, List.mem_append, List.mem_singleton] at member
      rcases member with (member | same) | member
      · exact .inr ⟨part, List.mem_cons_self, member⟩
      · exact .inl same
      · rcases ih member with same | ⟨other, later, inside⟩
        · exact .inl same
        · exact .inr ⟨other, List.mem_cons_of_mem _ later, inside⟩

theorem mem_intercalate_of_mem {separator c : α} {parts : List (List α)} {part : List α}
    (member : part ∈ parts) (inside : c ∈ part) : c ∈ List.intercalate [separator] parts := by
  induction parts with
  | nil => cases member
  | cons first rest ih =>
    cases rest with
    | nil =>
      rw [List.mem_singleton.mp member] at inside
      rwa [List.intercalate_singleton]
    | cons next rest =>
      rw [List.intercalate_cons_cons]
      rcases List.mem_cons.mp member with rfl | later
      · exact List.mem_append_left _ (List.mem_append_left _ inside)
      · exact List.mem_append_right _ (ih later)

theorem cutWhere_append_cons {part : List α} {separator : α}
    (free : ∀ c ∈ part, separates c = false) (separating : separates separator = true)
    (rest : List α) : cutWhere separates (part ++ separator :: rest) = (part, some rest) := by
  have kept : ∀ c ∈ part, (!separates c) = true := fun c member => by simp [free c member]
  simp [cutWhere, List.takeWhile_append_of_pos kept, List.dropWhile_append_of_pos kept, separating]

theorem cutWhere_of_none {text : List α} (free : ∀ c ∈ text, separates c = false) :
    cutWhere separates text = (text, none) := by
  have kept : ∀ c ∈ text, (!separates c) = true := fun c member => by simp [free c member]
  simp only [cutWhere, List.takeWhile_eq_self_iff.mpr kept, List.dropWhile_eq_nil_iff.mpr kept]

theorem cutWhere_eq_some {text front behind : List α}
    (cut : cutWhere separates text = (front, some behind)) :
    ∃ separator, text = front ++ separator :: behind ∧ separates separator = true ∧
      ∀ c ∈ front, separates c = false := by
  simp only [cutWhere, Prod.mk.injEq] at cut
  obtain ⟨taken, dropped⟩ := cut
  split at dropped
  · cases dropped
  next separator rest found =>
    cases dropped
    refine ⟨separator, ?_, ?_, fun c member => ?_⟩
    · rw [← taken, ← found, List.takeWhile_append_dropWhile]
    · have first := List.head?_dropWhile_not (!separates ·) text
      rw [found] at first
      simpa using first
    · rw [← taken] at member
      simpa using List.mem_takeWhile_imp member

theorem cutWhere_append_of_some {text front behind : List α}
    (cut : cutWhere separates text = (front, some behind)) (added : List α) :
    cutWhere separates (text ++ added) = (front, some (behind ++ added)) := by
  obtain ⟨separator, rfl, separating, free⟩ := cutWhere_eq_some cut
  rw [List.append_assoc, List.cons_append, cutWhere_append_cons free separating]

theorem cutWhere_eq_none {text front : List α} (cut : cutWhere separates text = (front, none)) :
    front = text ∧ ∀ c ∈ text, separates c = false := by
  simp only [cutWhere, Prod.mk.injEq] at cut
  obtain ⟨taken, dropped⟩ := cut
  split at dropped
  next none =>
    have free := List.dropWhile_eq_nil_iff.mp none
    refine ⟨?_, fun c member => by simpa using free c member⟩
    rw [← taken, List.takeWhile_eq_self_iff]
    exact free
  · cases dropped

theorem cutWhere_append_of_none {text front added : List α}
    (cut : cutWhere separates text = (front, none)) (free : ∀ c ∈ added, separates c = false) :
    cutWhere separates (text ++ added) = (front ++ added, none) := by
  obtain ⟨rfl, own⟩ := cutWhere_eq_none cut
  refine cutWhere_of_none fun c member => ?_
  rcases List.mem_append.mp member with before | after
  · exact own c before
  · exact free c after

end ODataTable
