import Mathlib.Data.List.Forall2
import ODataTable.Json.Record
import ODataTable.Json.Writer
import ODataTable.Proofs.Dictionary
import ODataTable.Proofs.Json.LocalRecord
import ODataTable.Proofs.Json.Text

/-! Written JSON is read back.

A reader reads a tree if it takes the compact text of the tree as a whole, whatever stands behind
it. Lists, objects and records are read if their parts are, so a writer and a reader of one shape
are compared part by part.
-/

set_option autoImplicit false

namespace ODataTable.Json

variable {α σ : Type}

theorem encode_cons_ascii {c : Char} (ascii : c.toNat < 0x80) (text : List Char) :
    Utf8.encode (c :: text) = octet c :: Utf8.encode text := by
  rw [Utf8.encode_cons, encodeChar_ascii ascii]
  rfl

theorem skipBlanks_of_plain {b : UInt8} (plain : isBlank b = false) (rest : List UInt8) :
    skipBlanks (b :: rest) = b :: rest := by
  simp [skipBlanks, plain]

theorem skipBlanks_comma (rest : List UInt8) :
    skipBlanks (octet ',' :: rest) = octet ',' :: rest := skipBlanks_of_plain (by decide) rest

/-- How texts of trees begin: with no blank and no closing bracket. -/
def Opens (text : List Char) : Prop :=
  ∃ c rest, text = c :: rest ∧ c.toNat < 0x80 ∧ isBlank (octet c) = false ∧ octet c ≠ octet ']'

/-- The reader takes the whole text of the tree and nothing behind it. -/
structure Reads (reader : Reader α) (tree : Tree) (value : α) : Prop where
  opens : Opens tree.compact
  reads : ∀ more, reader (Utf8.encode tree.compact ++ more) = .ok (value, more)

theorem Opens.encode {text : List Char} (opens : Opens text) :
    ∃ b rest, Utf8.encode text = b :: rest ∧ isBlank b = false ∧ b ≠ octet ']' := by
  obtain ⟨c, rest, rfl, ascii, plain⟩ := opens
  exact ⟨octet c, Utf8.encode rest, encode_cons_ascii ascii rest, plain⟩

theorem compactItems_eq_map (trees : List Tree) :
    Tree.compactItems trees = trees.map Tree.compact := by
  induction trees with
  | nil => rfl
  | cons tree rest ih => rw [Tree.compactItems, ih, List.map_cons]

def writeMember (member : String × Tree) : List Char :=
  writeString member.1 ++ ':' :: member.2.compact

theorem compactMembers_eq_map (members : List (String × Tree)) :
    Tree.compactMembers members = members.map writeMember := by
  induction members with
  | nil => rfl
  | cons member rest ih => rw [Tree.compactMembers, ih, List.map_cons, writeMember]

def behindCommas (texts : List (List Char)) : List Char :=
  texts.flatMap (',' :: ·)

theorem intercalate_comma (first : List Char) (others : List (List Char)) :
    List.intercalate [','] (first :: others) = first ++ behindCommas others := by
  induction others generalizing first with
  | nil => simp [List.intercalate, behindCommas]
  | cons second others ih =>
    rw [List.intercalate_cons_cons, ih]
    simp [behindCommas]

theorem encode_behindCommas (first : List Char) (others : List (List Char)) :
    Utf8.encode (behindCommas (first :: others)) =
      octet ',' :: (Utf8.encode first ++ Utf8.encode (behindCommas others)) := by
  rw [behindCommas, List.flatMap_cons, List.cons_append, encode_cons_ascii (by decide),
    Utf8.encode_append]
  rfl

/-- The loops over items and members may take as many steps as there are octets. -/
theorem length_le_encode_intercalate {texts : List (List Char)}
    (filled : ∀ text ∈ texts, text ≠ []) :
    texts.length ≤ (Utf8.encode (List.intercalate [','] texts)).length := by
  refine Nat.le_trans ?_ (Utf8.length_le_length_encode _)
  cases texts with
  | nil => exact Nat.zero_le _
  | cons first others =>
    -- Each part but the first has a comma of its own, and the first is not empty.
    have commas : others.length ≤ (behindCommas others).length := by
      clear filled
      induction others with
      | nil => exact Nat.le_refl 0
      | cons second others ih =>
        simp only [behindCommas, List.flatMap_cons, List.length_cons, List.length_append] at ih ⊢
        omega
    have own := List.length_pos_of_ne_nil (filled first List.mem_cons_self)
    simp only [intercalate_comma, List.length_cons, List.length_append]
    omega

theorem encode_enclose {opening closing : Char} (first : opening.toNat < 0x80)
    (last : closing.toNat < 0x80) (texts : List (List Char)) (more : List UInt8) :
    Utf8.encode (Tree.enclose opening closing texts) ++ more =
      octet opening :: (Utf8.encode (List.intercalate [','] texts) ++ octet closing :: more) := by
  rw [Tree.enclose, List.cons_append, encode_cons_ascii first, Utf8.encode_append,
    encode_cons_ascii last, List.cons_append, List.append_assoc]
  rfl

theorem nextItem_first {text : List Char} (opens : Opens text) (more : List UInt8) :
    nextItem true (Utf8.encode text ++ more) = .ok (some (Utf8.encode text ++ more)) := by
  obtain ⟨b, rest, encoded, plain, notEnd⟩ := opens.encode
  simp [encoded, nextItem, skipBlanks_of_plain plain, notEnd]

theorem nextItem_later {text : List Char} (opens : Opens text) (more : List UInt8) :
    nextItem false (octet ',' :: (Utf8.encode text ++ more)) =
      .ok (some (Utf8.encode text ++ more)) := by
  obtain ⟨b, rest, encoded, plain, notEnd⟩ := opens.encode
  have other : octet ',' ≠ octet ']' := by decide
  simp [encoded, nextItem, skipBlanks_comma, skipBlanks_of_plain plain, other, notEnd]

theorem nextItem_end (first : Bool) (more : List UInt8) :
    nextItem first (octet ']' :: more) = .ok none := by
  have bracket : isBlank (octet ']') = false := by decide
  simp [nextItem, skipBlanks_of_plain bracket]

theorem closeList_end (more : List UInt8) : closeList (octet ']' :: more) = .ok more := by
  have bracket : isBlank (octet ']') = false := by decide
  simp [closeList, skipBlanks_of_plain bracket]

section
variable {item : Reader α} {trees : List Tree} {values : List α}

theorem readItems_later (each : List.Forall₂ (Reads item) trees values) (more bound : List UInt8)
    (enough : trees.length < bound.length) :
    readItems item bound false
        (Utf8.encode (behindCommas (trees.map Tree.compact)) ++ octet ']' :: more) =
      .ok (values, octet ']' :: more) := by
  -- The loop drops an octet of its bound at each item.
  induction each generalizing bound with
  | nil =>
    cases bound with
    | nil => simp at enough
    | cons _ bound => simp [readItems, behindCommas, Utf8.encode, nextItem_end, bind, Except.bind]
  | cons own others ih =>
    cases bound with
    | nil => simp at enough
    | cons _ bound =>
      have later := ih bound (by simpa using enough)
      -- What stands behind the item is the text of the later ones with the rest.
      rw [List.map_cons, encode_behindCommas, List.cons_append, List.append_assoc, readItems,
        nextItem_later own.opens]
      simp only [bind, Except.bind, own.reads, later]

theorem readItems_written (each : List.Forall₂ (Reads item) trees values) (more bound : List UInt8)
    (enough : trees.length < bound.length) :
    readItems item bound true
        (Utf8.encode (List.intercalate [','] (trees.map Tree.compact)) ++ octet ']' :: more) =
      .ok (values, octet ']' :: more) := by
  cases bound with
  | nil => simp at enough
  | cons _ bound =>
    cases each with
    | nil => simp [readItems, Utf8.encode, nextItem_end, bind, Except.bind]
    | cons own others =>
      have later := readItems_later others more bound (by simpa using enough)
      rw [List.map_cons, intercalate_comma, Utf8.encode_append, List.append_assoc, readItems,
        nextItem_first own.opens]
      simp only [bind, Except.bind, own.reads, later]

theorem compact_ne_nil (each : List.Forall₂ (Reads item) trees values) :
    ∀ text ∈ trees.map Tree.compact, text ≠ [] := by
  induction each with
  | nil => exact nofun
  | cons own _ ih =>
    obtain ⟨c, rest, text, _⟩ := own.opens
    exact List.forall_mem_cons.mpr ⟨by simp [text], ih⟩

theorem readList_written (each : List.Forall₂ (Reads item) trees values) (more : List UInt8) :
    readList item
        (Utf8.encode (List.intercalate [','] (trees.map Tree.compact)) ++ octet ']' :: more) =
      .ok (values, more) := by
  have octets := length_le_encode_intercalate (compact_ne_nil each)
  rw [readList, readItems_written each more _ (by simp at octets ⊢; omega)]
  simp only [bind, Except.bind, closeList_end]

end

/-- A written member is read and leads from one state to another. -/
def ReadsMember (member : List Char → σ → Reader σ) (state : σ) (written : String × Tree)
    (next : σ) : Prop :=
  ∀ more, member written.1.toList state
    (octet ':' :: (Utf8.encode written.2.compact ++ more)) = .ok (next, more)

inductive ReadsMembers (member : List Char → σ → Reader σ) : σ → List (String × Tree) → σ → Prop
  | nil {state : σ} : ReadsMembers member state [] state
  | cons {state next last : σ} {written : String × Tree} {members : List (String × Tree)} :
      ReadsMember member state written next → ReadsMembers member next members last →
        ReadsMembers member state (written :: members) last

theorem encode_writeMember (written : String × Tree) (more : List UInt8) :
    Utf8.encode (writeMember written) ++ more =
      octet '"' :: (Utf8.encode (written.1.toList.flatMap writeChar) ++
        octet '"' :: octet ':' :: (Utf8.encode written.2.compact ++ more)) := by
  simp [writeMember, writeString, Utf8.encode_append, encode_cons_ascii]

theorem nextKey_later (more : List UInt8) :
    nextKey false (octet ',' :: octet '"' :: more) = .ok (some more) := by
  have quote : isBlank (octet '"') = false := by decide
  have other : octet ',' ≠ octet '\x7d' := by decide
  simp [nextKey, skipBlanks_comma, skipBlanks_of_plain quote, other]

theorem nextKey_end (first : Bool) (more : List UInt8) :
    nextKey first (octet '\x7d' :: more) = .ok none := by
  have brace : isBlank (octet '\x7d') = false := by decide
  simp [nextKey, skipBlanks_of_plain brace]

theorem closeObject_end (more : List UInt8) : closeObject (octet '\x7d' :: more) = .ok more := by
  have brace : isBlank (octet '\x7d') = false := by decide
  simp [closeObject, skipBlanks_of_plain brace]

theorem readColon_written (more : List UInt8) : readColon (octet ':' :: more) = .ok more := by
  have colon : isBlank (octet ':') = false := by decide
  simp [readColon, skipBlanks_of_plain colon]

section
variable {member : List Char → σ → Reader σ} {members : List (String × Tree)} {state last : σ}

theorem readMembers_later (each : ReadsMembers member state members last) (more bound : List UInt8)
    (enough : members.length < bound.length) :
    readMembers member bound false state
        (Utf8.encode (behindCommas (members.map writeMember)) ++ octet '\x7d' :: more) =
      .ok (last, octet '\x7d' :: more) := by
  induction each generalizing bound with
  | nil =>
    cases bound with
    | nil => simp at enough
    | cons _ bound => simp [readMembers, behindCommas, Utf8.encode, nextKey_end, bind, Except.bind]
  | cons own others ih =>
    cases bound with
    | nil => simp at enough
    | cons _ bound =>
      have later := ih bound (by simpa using enough)
      rw [List.map_cons, encode_behindCommas, List.cons_append, List.append_assoc,
        encode_writeMember, readMembers, nextKey_later]
      simp only [bind, Except.bind, readString_written, own _, later]

theorem readMembers_from (each : ReadsMembers member state members last) (more bound : List UInt8)
    (enough : members.length < bound.length) :
    readMembers member bound true state
        (Utf8.encode (List.intercalate [','] (members.map writeMember)) ++ octet '\x7d' :: more) =
      .ok (last, octet '\x7d' :: more) := by
  cases bound with
  | nil => simp at enough
  | cons _ bound =>
    cases each with
    | nil => simp [readMembers, Utf8.encode, nextKey_end, bind, Except.bind]
    | cons own others =>
      have later := readMembers_later others more bound (by simpa using enough)
      rw [List.map_cons, intercalate_comma, Utf8.encode_append, List.append_assoc,
        encode_writeMember, readMembers, nextKey_first]
      simp only [bind, Except.bind, readString_written, own _, later]

theorem readMembers_written (each : ReadsMembers member state members last) (more : List UInt8)
    {input : List UInt8}
    (written : input =
      Utf8.encode (List.intercalate [','] (members.map writeMember)) ++ octet '\x7d' :: more) :
    readMembers member input true state input = .ok (last, octet '\x7d' :: more) := by
  have filled : ∀ text ∈ members.map writeMember, text ≠ [] :=
    List.forall_mem_map.mpr fun written _ => by simp [writeMember, writeString]
  have octets := length_le_encode_intercalate filled
  subst written
  exact readMembers_from each more _ (by simp at octets ⊢; omega)

theorem readObject_written (each : ReadsMembers member state members last) (more : List UInt8) :
    readObject member state
        (Utf8.encode (List.intercalate [','] (members.map writeMember)) ++ octet '\x7d' :: more) =
      .ok (last, more) := by
  rw [readObject, readMembers_written each more rfl]
  simp only [bind, Except.bind, closeObject_end]

end

theorem opens_string (text : String) : Opens (Tree.string text).compact :=
  ⟨'"', _, rfl, by decide, by decide, by decide⟩

theorem opens_list (trees : List Tree) : Opens (Tree.list trees).compact :=
  ⟨'[', _, by rw [Tree.compact, Tree.enclose]; rfl, by decide, by decide, by decide⟩

theorem opens_object (members : List (String × Tree)) : Opens (Tree.object members).compact :=
  ⟨'\x7b', _, by rw [Tree.compact, Tree.enclose]; rfl, by decide, by decide, by decide⟩

theorem encode_string (text : String) (more : List UInt8) :
    Utf8.encode (Tree.string text).compact ++ more =
      octet '"' :: (Utf8.encode (text.toList.flatMap writeChar) ++ octet '"' :: more) := by
  rw [Tree.string, Tree.compact, writeString, List.cons_append, encode_cons_ascii (by decide),
    Utf8.encode_append, encode_cons_ascii (by decide), List.cons_append, List.append_assoc]
  rfl

theorem encode_list (trees : List Tree) (more : List UInt8) :
    Utf8.encode (Tree.list trees).compact ++ more =
      octet '[' :: (Utf8.encode (List.intercalate [','] (trees.map Tree.compact)) ++
        octet ']' :: more) := by
  rw [Tree.compact, encode_enclose (by decide) (by decide), compactItems_eq_map]

theorem encode_object (members : List (String × Tree)) (more : List UInt8) :
    Utf8.encode (Tree.object members).compact ++ more =
      octet '\x7b' :: (Utf8.encode (List.intercalate [','] (members.map writeMember)) ++
        octet '\x7d' :: more) := by
  rw [Tree.compact, encode_enclose (by decide) (by decide), compactMembers_eq_map]

theorem Reads.text (text : String) : Reads readText (.string text) text := by
  refine ⟨opens_string text, fun more => ?_⟩
  rw [encode_string, readText, skipBlanks_of_plain (by decide)]
  simp [readString_written, bind, Except.bind]

theorem Reads.map {β : Type} {reader : Reader α} {tree : Tree} {value : α}
    (reads : Reads reader tree value) (f : α → β) :
    Reads (fun input => do
      let (value, input) ← reader input
      .ok (f value, input)) tree (f value) :=
  ⟨reads.opens, fun more => by simp [reads.reads, bind, Except.bind]⟩

theorem Reads.sequence {item : Reader α} {trees : List Tree} {values : List α}
    (each : List.Forall₂ (Reads item) trees values) :
    Reads (readSequence item) (.list trees) values := by
  refine ⟨opens_list trees, fun more => ?_⟩
  rw [encode_list, readSequence, skipBlanks_of_plain (by decide)]
  simp [readList_written each]

theorem Reads.null (part : Reader α) : Reads (readOptional part) .null none := by
  refine ⟨⟨'n', _, rfl, by decide, by decide, by decide⟩, fun more => ?_⟩
  change readOptional part (octet 'n' :: octet 'u' :: octet 'l' :: octet 'l' :: more) = _
  rw [readOptional, skipBlanks_of_plain (by decide)]
  rfl

theorem Reads.present {part : Reader α} {members : List (String × Tree)} {value : α}
    (reads : Reads part (.object members) value) :
    Reads (readOptional part) (.object members) (some value) := by
  refine ⟨reads.opens, fun more => ?_⟩
  have own := reads.reads more
  rw [encode_object] at own ⊢
  have noNull : octet '\x7b' ≠ octet 'n' := by decide
  rw [readOptional, skipBlanks_of_plain (by decide)]
  simp [noNull, own, bind, Except.bind]

theorem reads_map {β : Type} {item : Reader β} {values : List α} {write : α → Tree} {mean : α → β}
    (each : ∀ value ∈ values, Reads item (write value) (mean value)) :
    List.Forall₂ (Reads item) (values.map write) (values.map mean) :=
  List.forall₂_map_left_iff.mpr (List.forall₂_map_right_iff.mpr (List.forall₂_same.mpr each))

theorem Reads.items {item : Reader α} {values : List α} {write : α → Tree}
    (each : ∀ value ∈ values, Reads item (write value) value) :
    Reads (readSequence item) (.list (values.map write)) values := by
  have read : Reads (readSequence item) (.list (values.map write)) (values.map id) :=
    .sequence (reads_map each)
  rwa [List.map_id] at read

abbrev ReadsEntries (item : Reader α) : List (String × Tree) → List (String × α) → Prop :=
  List.Forall₂ fun written entry => written.1 = entry.1 ∧ Reads item written.2 entry.2

theorem readsEntries_mapValues {β : Type} {item : Reader β} {entries : List (String × α)}
    {write : α → Tree} {mean : α → β}
    (each : ∀ entry ∈ entries, Reads item (write entry.2) (mean entry.2)) :
    ReadsEntries item (Dictionary.mapValues write entries) (Dictionary.mapValues mean entries) :=
  List.forall₂_map_left_iff.mpr (List.forall₂_map_right_iff.mpr
    (List.forall₂_same.mpr fun entry member => ⟨rfl, each entry member⟩))

theorem readsMembers_entries {item : Reader α} {members : List (String × Tree)}
    {entries : List (String × α)} (each : ReadsEntries item members entries) (known : Dictionary α) :
    ReadsMembers (readEntry item) known members (Dictionary.insertAll entries known) := by
  induction each generalizing known with
  | nil => exact .nil
  | cons own _ ih =>
    obtain ⟨name, reads⟩ := own
    refine .cons (fun more => ?_) (ih _)
    simp only [readEntry, readColon_written, bind, Except.bind, reads.reads, name,
      String.ofList_toList]

theorem readObject_entries {item : Reader α} {members : List (String × Tree)}
    {entries : List (String × α)} (each : ReadsEntries item members entries) (more : List UInt8) :
    readObject (readEntry item) Dictionary.empty
        (Utf8.encode (List.intercalate [','] (members.map writeMember)) ++ octet '\x7d' :: more) =
      .ok (Dictionary.ofList entries, more) :=
  readObject_written (readsMembers_entries each Dictionary.empty) more

theorem Reads.dictionary {item : Reader α} {members : List (String × Tree)}
    {entries : List (String × α)} (each : ReadsEntries item members entries) :
    Reads (readDictionary item) (.object members) (Dictionary.ofList entries) := by
  refine ⟨opens_object members, fun more => ?_⟩
  rw [encode_object, readDictionary, skipBlanks_of_plain (by decide)]
  simp [readObject_entries each]

theorem Reads.entries {item : Reader α} {entries : Dictionary α} (ascending : entries.Ascending)
    {write : α → Tree} (each : ∀ entry ∈ entries, Reads item (write entry.2) entry.2) :
    Reads (readDictionary item) (.object (entries.mapValues write)) entries := by
  have members : ReadsEntries item (entries.mapValues write) (entries.mapValues id) :=
    readsEntries_mapValues each
  have read := Reads.dictionary members
  rwa [Dictionary.ofList_of_ascending (ascending.mapValues id), Dictionary.mapValues_id] at read

section
variable {shape : RecordShape σ α}

theorem ReadsMember.ofField {field : RecordField σ} {state next : σ} {name : String} {tree : Tree}
    (found : shape.fields.find? (fun field => field.name.toList == name.toList) = some field)
    (fresh : field.isSet state = false) (reads : Reads (field.read state) tree next) :
    ReadsMember shape.readMember state (name, tree) next := by
  intro more
  simp [RecordShape.readMember, found, fresh, readColon_written, reads.reads, bind, Except.bind]

/-- A record is read if its members lead to a state in which no field is missing. -/
theorem Reads.record {members : List (String × Tree)} {state : σ}
    (each : ReadsMembers shape.readMember shape.start members state)
    (complete : shape.missing? state = none) :
    Reads shape.read (.object members) (shape.build state) := by
  refine ⟨opens_object members, fun more => ?_⟩
  have noList : octet '\x7b' ≠ octet '[' := by decide
  rw [encode_object, RecordShape.read, skipBlanks_of_plain (by decide)]
  simp [RecordShape.readAfter, noList, readMembers_written each more rfl, complete, closeObject_end,
    bind, Except.bind]

end

section
variable {room : Nat} {rest left : List UInt8}

theorem readValue_string {text : List Char} (read : readString rest = .ok (text, left)) :
    readValue room (octet '"' :: rest) = .ok (.string (String.ofList text), left) := by
  rw [readValue, skipBlanks_of_plain (by decide)]
  change (readString rest >>= _) = _
  rw [read]
  rfl

theorem readValue_array {items : List Value}
    (read : readList (readValue room) rest = .ok (items, left)) :
    readValue (room + 1) (octet '[' :: rest) = .ok (.array items, left) := by
  rw [readValue, skipBlanks_of_plain (by decide)]
  change (readList (readValue room) rest >>= _) = _
  rw [read]
  rfl

theorem readValue_object {members : Dictionary Value}
    (read : readObject (readEntry (readValue room)) Dictionary.empty rest = .ok (members, left)) :
    readValue (room + 1) (octet '\x7b' :: rest) = .ok (.object members, left) := by
  rw [readValue, skipBlanks_of_plain (by decide)]
  change (readObject (readEntry (readValue room)) Dictionary.empty rest >>= _) = _
  rw [read]
  rfl

theorem Reads.string (text : String) : Reads (readValue room) (.string text) (.string text) := by
  refine ⟨opens_string text, fun more => ?_⟩
  rw [encode_string, readValue_string (readString_written _ _), String.ofList_toList]

theorem Reads.array {trees : List Tree} {values : List Value}
    (each : List.Forall₂ (Reads (readValue room)) trees values) :
    Reads (readValue (room + 1)) (.list trees) (.array values) := by
  refine ⟨opens_list trees, fun more => ?_⟩
  rw [encode_list, readValue_array (readList_written each _)]

theorem Reads.object {members : List (String × Tree)} {entries : List (String × Value)}
    (each : ReadsEntries (readValue room) members entries) :
    Reads (readValue (room + 1)) (.object members) (.object (Dictionary.ofList entries)) := by
  refine ⟨opens_object members, fun more => ?_⟩
  rw [encode_object, readValue_object (readObject_entries each _)]

theorem Reads.members {entries : Dictionary α} (ascending : entries.Ascending) {write : α → Tree}
    {mean : α → Value}
    (each : ∀ entry ∈ entries, Reads (readValue room) (write entry.2) (mean entry.2)) :
    Reads (readValue (room + 1)) (.object (entries.mapValues write))
      (.object (entries.mapValues mean)) := by
  have read := Reads.object (readsEntries_mapValues each)
  rwa [Dictionary.ofList_of_ascending (ascending.mapValues mean)] at read

end

theorem Reads.whole {part : Reader α} {tree : Tree} {value : α} (reads : Reads part tree value) :
    readWhole part (Utf8.encode tree.compact) = .ok value := by
  have read := reads.reads []
  rw [List.append_nil] at read
  simp [readWhole, read, skipBlanks, bind, Except.bind]

end ODataTable.Json
