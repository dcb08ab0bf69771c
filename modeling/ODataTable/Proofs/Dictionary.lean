import Mathlib.Data.String.Basic
import ODataTable.Dictionary

/-! What dictionaries hold.

A dictionary of a list has the keys of the list, each once and in ascending order, with the
value that the list gives last.
-/

set_option autoImplicit false

namespace ODataTable.Dictionary

variable {α : Type}

def keys (entries : Dictionary α) : List String := entries.map Prod.fst

theorem find?_insert (key other : String) (value : α) (entries : Dictionary α) :
    (entries.insert key value).find? other =
      if other = key then some value else entries.find? other := by
  induction entries with
  | nil => rfl
  | cons entry rest ih =>
    obtain ⟨first, kept⟩ := entry
    by_cases same : key = first
    · subst same
      by_cases found : other = key <;> simp [insert, find?, found]
    · by_cases before : key < first
      · simp [insert, find?, same, before]
      · simp only [insert, if_neg same, if_neg before, find?, ih]
        by_cases found : other = first
        · simp [found, Ne.symm same]
        · simp [found]

theorem mem_keys_insert {key other : String} {value : α} {entries : Dictionary α} :
    other ∈ (entries.insert key value).keys ↔ other = key ∨ other ∈ entries.keys := by
  induction entries with
  | nil => simp [insert, keys]
  | cons entry rest ih =>
    obtain ⟨first, kept⟩ := entry
    simp only [keys, List.map_cons, List.mem_cons] at ih ⊢
    unfold insert
    split
    next same => simp [same]
    next =>
      split
      · simp
      · rw [List.map_cons, List.mem_cons, ih]
        exact or_left_comm

/-- Whether the keys ascend, so none of them repeats. -/
def Ascending (entries : Dictionary α) : Prop :=
  entries.keys.Pairwise (· < ·)

theorem Ascending.insert {entries : Dictionary α} (ascending : entries.Ascending) (key : String)
    (value : α) : (entries.insert key value).Ascending := by
  induction entries with
  | nil => simp [Dictionary.insert, Ascending, keys]
  | cons entry rest ih =>
    obtain ⟨first, kept⟩ := entry
    obtain ⟨above, later⟩ := List.pairwise_cons.mp ascending
    unfold Dictionary.insert
    split
    next same => exact List.pairwise_cons.mpr ⟨same ▸ above, later⟩
    next other =>
      split
      next before =>
        refine List.pairwise_cons.mpr ⟨fun name member => ?_, ascending⟩
        rcases List.mem_cons.mp member with rfl | member
        · exact before
        · exact before.trans (above name member)
      next behind =>
        -- The new key goes behind the first one, which stays the least.
        have next : first < key := lt_of_le_of_ne (not_lt.mp behind) (Ne.symm other)
        refine List.pairwise_cons.mpr ⟨fun name member => ?_, ih later⟩
        rcases mem_keys_insert.mp member with rfl | member
        · exact next
        · exact above name member

def insertAll (entries : List (String × α)) (known : Dictionary α) : Dictionary α :=
  entries.foldl (fun known entry => known.insert entry.1 entry.2) known

theorem ofList_eq_insertAll (entries : List (String × α)) : ofList entries = insertAll entries [] :=
  rfl

theorem mem_keys_insertAll (entries : List (String × α)) (known : Dictionary α) (key : String) :
    key ∈ (insertAll entries known).keys ↔ key ∈ entries.map Prod.fst ∨ key ∈ known.keys := by
  induction entries generalizing known with
  | nil => simp [insertAll]
  | cons entry rest ih =>
    have step := ih (known.insert entry.1 entry.2)
    rw [mem_keys_insert] at step
    rw [List.map_cons, List.mem_cons, or_assoc, or_left_comm]
    exact step

theorem Ascending.insertAll {known : Dictionary α} (ascending : known.Ascending)
    (entries : List (String × α)) : (insertAll entries known).Ascending := by
  induction entries generalizing known with
  | nil => exact ascending
  | cons entry rest ih => exact ih (ascending.insert entry.1 entry.2)

theorem find?_insertAll_of_not_mem {entries : List (String × α)} {key : String}
    (missing : key ∉ entries.map Prod.fst) (known : Dictionary α) :
    (insertAll entries known).find? key = known.find? key := by
  induction entries generalizing known with
  | nil => rfl
  | cons entry rest ih =>
    simp only [List.map_cons, List.mem_cons, not_or] at missing
    have step := ih missing.2 (known.insert entry.1 entry.2)
    rw [find?_insert, if_neg missing.1] at step
    exact step

theorem mem_keys_ofList {entries : List (String × α)} {key : String} :
    key ∈ (ofList entries).keys ↔ key ∈ entries.map Prod.fst := by
  rw [ofList_eq_insertAll, mem_keys_insertAll]
  simp [keys]

theorem ofList_ascending (entries : List (String × α)) : (ofList entries).Ascending := by
  have empty : Ascending ([] : Dictionary α) := List.Pairwise.nil
  exact empty.insertAll entries

/-- The last value that a list gives to a key is the value of the key. -/
theorem find?_ofList {entries before after : List (String × α)} {key : String} {value : α}
    (split : entries = before ++ (key, value) :: after) (last : key ∉ after.map Prod.fst) :
    (ofList entries).find? key = some value := by
  have parts : ofList entries = insertAll after ((ofList before).insert key value) := by
    simp [split, ofList, insertAll]
  rw [parts, find?_insertAll_of_not_mem last, find?_insert, if_pos rfl]

theorem mem_of_find? {entries : Dictionary α} {key : String} {value : α}
    (found : entries.find? key = some value) : (key, value) ∈ entries := by
  induction entries with
  | nil => cases found
  | cons entry rest ih =>
    obtain ⟨first, kept⟩ := entry
    unfold find? at found
    split at found
    next same =>
      cases found
      rw [same]
      exact List.mem_cons_self
    next => exact List.mem_cons_of_mem _ (ih found)

theorem Ascending.mem_iff {entries : Dictionary α} (ascending : entries.Ascending) {key : String}
    {value : α} : (key, value) ∈ entries ↔ entries.find? key = some value := by
  refine ⟨fun member => ?_, mem_of_find?⟩
  induction entries with
  | nil => cases member
  | cons entry rest ih =>
    obtain ⟨first, kept⟩ := entry
    obtain ⟨above, later⟩ := List.pairwise_cons.mp ascending
    rcases List.mem_cons.mp member with same | member
    · cases same
      simp [find?]
    · have behind : first < key := above key (List.mem_map_of_mem member)
      rw [find?, if_neg behind.ne', ih later member]

theorem exists_last {entries : List (String × α)} {key : String}
    (member : key ∈ entries.map Prod.fst) :
    ∃ before value after, entries = before ++ (key, value) :: after ∧
      key ∉ after.map Prod.fst := by
  induction entries with
  | nil => cases member
  | cons entry rest ih =>
    -- The first entry is the last of its key only if the key does not come again.
    by_cases later : key ∈ rest.map Prod.fst
    · obtain ⟨before, value, after, rfl, last⟩ := ih later
      exact ⟨entry :: before, value, after, rfl, last⟩
    · have here : key = entry.1 := (List.mem_cons.mp member).resolve_right later
      exact ⟨[], entry.2, rest, by rw [here]; rfl, later⟩

/-- The entries of a dictionary are the last ones of the list for their keys. -/
theorem mem_ofList {entries : List (String × α)} {key : String} {value : α} :
    (key, value) ∈ ofList entries ↔
      ∃ before after, entries = before ++ (key, value) :: after ∧ key ∉ after.map Prod.fst := by
  have ascending := ofList_ascending entries
  constructor
  · intro member
    have known : key ∈ (ofList entries).keys := List.mem_map_of_mem member
    obtain ⟨before, other, after, split, last⟩ := exists_last (mem_keys_ofList.mp known)
    have found := find?_ofList split last
    rw [ascending.mem_iff.mp member] at found
    cases found
    exact ⟨before, after, split, last⟩
  · rintro ⟨before, after, split, last⟩
    exact ascending.mem_iff.mpr (find?_ofList split last)

/-- If entries are made of other things, the last of those with a key gives its value. -/
theorem mem_ofList_map {β : Type} {items : List β} {entry : β → String × α} {key : String} {value : α} :
    (key, value) ∈ ofList (items.map entry) ↔
      ∃ before item after, items = before ++ item :: after ∧ entry item = (key, value) ∧
        ∀ later ∈ after, (entry later).1 ≠ key := by
  rw [mem_ofList]
  constructor
  · rintro ⟨before, after, split, last⟩
    obtain ⟨front, back, rfl, rfl, cut⟩ := List.map_eq_append_iff.mp split
    obtain ⟨item, rest, rfl, here, rfl⟩ := List.map_eq_cons_iff.mp cut
    refine ⟨front, item, rest, rfl, here, fun later member same => last ?_⟩
    exact List.mem_map.mpr ⟨_, List.mem_map_of_mem member, same⟩
  · rintro ⟨before, item, after, rfl, here, last⟩
    refine ⟨before.map entry, after.map entry, by rw [List.map_append, List.map_cons, here], ?_⟩
    intro member
    obtain ⟨_, found, same⟩ := List.mem_map.mp member
    obtain ⟨later, member, rfl⟩ := List.mem_map.mp found
    exact last later member same

/-! Ascending entries are a dictionary already. -/

theorem insert_above {key : String} {value : α} {entries : Dictionary α}
    (above : ∀ other ∈ entries.keys, other < key) :
    entries.insert key value = entries ++ [(key, value)] := by
  induction entries with
  | nil => rfl
  | cons entry rest ih =>
    obtain ⟨first, kept⟩ := entry
    obtain ⟨below, others⟩ := List.forall_mem_cons.mp above
    rw [Dictionary.insert, if_neg below.ne', if_neg below.asymm, ih others, List.cons_append]

theorem insertAll_of_ascending {known entries : Dictionary α}
    (ascending : Ascending (known ++ entries)) : insertAll entries known = known ++ entries := by
  induction entries generalizing known with
  | nil => rw [List.append_nil]; rfl
  | cons entry rest ih =>
    have split : known ++ entry :: rest = known ++ [entry] ++ rest := by simp
    rw [split] at ascending ⊢
    have above : ∀ other ∈ known.keys, other < entry.1 := by
      simp only [Ascending, keys, List.map_append, List.pairwise_append] at ascending
      exact fun other member => ascending.1.2.2 other member _ (by simp)
    rw [← ih ascending, ← insert_above above]
    rfl

theorem ofList_of_ascending {entries : Dictionary α} (ascending : entries.Ascending) :
    ofList entries = entries :=
  insertAll_of_ascending ascending

theorem mapValues_id (entries : Dictionary α) : entries.mapValues id = entries :=
  List.map_id entries

theorem Ascending.mapValues {β : Type} {entries : Dictionary α} (ascending : entries.Ascending)
    (f : α → β) : (entries.mapValues f).Ascending := by
  have same : (entries.mapValues f).keys = entries.keys := by
    simp [keys, Dictionary.mapValues, Function.comp_def]
  rwa [Ascending, same]

theorem find?_mapValues {β : Type} (f : α → β) (entries : Dictionary α) (key : String) :
    (entries.mapValues f).find? key = (entries.find? key).map f := by
  induction entries with
  | nil => rfl
  | cons entry rest ih =>
    rw [Dictionary.mapValues, List.map_cons, find?, find?]
    split
    · rfl
    · exact ih

end ODataTable.Dictionary
