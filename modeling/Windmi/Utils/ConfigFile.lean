import Mathlib.Data.List.Lex
import Windmi.Library.Bytes
import Windmi.Library.Lines
import Windmi.Library.SortedMap

/-!
# The configuration file

`Config::loadFromFile` and `Config::saveToFile` of `src/utils/Config.cpp` on the
bytes of the file.  A comment is recognised in the first column only, whereas
keys are saved without the blanks that may precede them: a commented assignment
that was indented is loaded as a key, and lost when it has been saved.
-/

namespace Windmi.Utils

open Windmi.Library

/-- `std::string`, any sequence of bytes. -/
abbrev Text := List Byte

/-- The bytes of a text that is written in the source. -/
def ascii (text : String) : Text :=
  text.toList.map fun char => BitVec.ofNat 8 char.toNat

namespace Ascii

def newline : Byte := 0x0A
def tab : Byte := 0x09
def space : Byte := 0x20
def hash : Byte := 0x23
def semicolon : Byte := 0x3B
def equals : Byte := 0x3D

end Ascii

/-- Strings are compared as sequences of unsigned bytes. -/
local instance byteOrder : LinearOrder Byte :=
  LinearOrder.lift' BitVec.toNat fun _ _ => BitVec.eq_of_toNat_eq

/-- `values_`, a `std::map`. -/
abbrev ConfigValues := SortedMap Text Text

namespace ConfigValues

/-- What the constructor sets. -/
def defaults : List (Text × Text) :=
  [(ascii "modbus.host", ascii "192.168.123.10"),
    (ascii "modbus.port", ascii "8899"),
    (ascii "modbus.slave_id", ascii "11"),
    (ascii "web.port", ascii "8080"),
    (ascii "dhw.target", ascii "45.0"),
    (ascii "heating.target", ascii "40.0")]

def create : ConfigValues :=
  SortedMap.empty.insertAll defaults

/-! ## Loading -/

/-- The lines which successive calls of `std::getline` give. -/
def getlines (text : Text) : List Text :=
  splitLines Ascii.newline text

def isBlank (byte : Byte) : Bool :=
  byte = Ascii.space ∨ byte = Ascii.tab

/-- What begins a comment. -/
def isCommentMark (byte : Byte) : Bool :=
  byte = Ascii.hash ∨ byte = Ascii.semicolon

/-- Whether the first byte of a text is one of some kind. -/
def beginsWith (kind : Byte → Bool) (text : Text) : Prop :=
  ∃ byte ∈ text.head?, kind byte = true

instance (kind : Byte → Bool) (text : Text) :
    Decidable (beginsWith kind text) :=
  decidable_of_iff (text.head?.any kind = true) (by
    rw [Option.any_eq_true]
    rfl)

/-- The assignment on a line, if there is one. -/
def parseLine (line : Text) : Option (Text × Text) :=
  if line = [] ∨ beginsWith isCommentMark line then none
  else
    match line.dropWhile (· ≠ Ascii.equals) with
    | [] => none
    | _ :: value =>
        let key := trim isBlank (line.takeWhile (· ≠ Ascii.equals))
        if key = [] then none else some (key, trim isBlank value)

def loadLine (values : ConfigValues) (line : Text) : ConfigValues :=
  match parseLine line with
  | none => values
  | some (key, value) => values.insert key value

/-- `loadFromFile`; without a file that can be opened nothing is loaded. -/
def loadFromFile (values : ConfigValues) (file : Option Text) :
    Bool × ConfigValues :=
  match file with
  | none => (false, values)
  | some text => (true, (getlines text).foldl loadLine values)

/-! ## Saving -/

def savedLine (entry : Text × Text) : Text :=
  entry.1 ++ [Ascii.space, Ascii.equals, Ascii.space] ++ entry.2

/-- What `saveToFile` writes. -/
def saveToFile (values : ConfigValues) : Text :=
  values.entries.flatMap fun entry => savedLine entry ++ [Ascii.newline]

/-! ## What is loaded -/

/-- An assignment as it comes from a line or from the defaults. -/
structure Loadable (entry : Text × Text) : Prop where
  nonempty : entry.1 ≠ []
  key : Solid isBlank entry.1
  value : Solid isBlank entry.2
  delimiter : Ascii.equals ∉ entry.1
  keyLine : Ascii.newline ∉ entry.1
  valueLine : Ascii.newline ∉ entry.2

theorem loadFromFile_eq (values : ConfigValues) (text : Text) :
    (values.loadFromFile (some text)).2 =
      values.insertAll ((getlines text).filterMap parseLine) := by
  show (getlines text).foldl loadLine values = _
  induction getlines text generalizing values with
  | nil => rfl
  | cons line lines ih =>
      rw [List.foldl_cons, ih, List.filterMap_cons, loadLine]
      cases parseLine line with
      | none => rfl
      | some entry => rfl

/-- Where a line is divided. -/
theorem head_of_dropWhile {line value : Text} {byte : Byte}
    (divided : line.dropWhile (· ≠ Ascii.equals) = byte :: value) :
    byte = Ascii.equals := by
  have stopped := List.head?_dropWhile_not (· ≠ Ascii.equals) line
  rw [divided] at stopped
  simpa using stopped

/-- The two sides of an assignment, and that the line is no comment. -/
structure Assigns (line : Text) (entry : Text × Text) : Prop where
  code : ¬ beginsWith isCommentMark line
  key : entry.1 = trim isBlank (line.takeWhile (· ≠ Ascii.equals))
  nonempty : entry.1 ≠ []
  value : ∃ value, line.dropWhile (· ≠ Ascii.equals) =
    Ascii.equals :: value ∧ entry.2 = trim isBlank value

theorem parseLine_eq_some_iff {line : Text} {entry : Text × Text} :
    parseLine line = some entry ↔ Assigns line entry := by
  unfold parseLine
  constructor
  · intro parsed
    split at parsed
    · cases parsed
    · rename_i kept
      split at parsed
      · cases parsed
      · rename_i byte value divided
        rw [head_of_dropWhile divided] at divided
        simp only at parsed
        split at parsed
        · cases parsed
        · rename_i nonempty
          rw [← Option.some.inj parsed]
          exact
            { code := fun comment => kept (Or.inr comment)
              key := rfl
              nonempty := nonempty
              value := ⟨value, divided, rfl⟩ }
  · rintro ⟨code, key, nonempty, value, divided, trimmed⟩
    have kept : ¬ (line = [] ∨ beginsWith isCommentMark line) := by
      rintro (rfl | comment)
      · exact nonempty key
      · exact code comment
    rw [if_neg kept, divided]
    simp only
    rw [← key, if_neg nonempty, ← trimmed]

theorem loadable_of_parseLine {line : Text} {entry : Text × Text}
    (single : Ascii.newline ∉ line) (parsed : parseLine line = some entry) :
    Loadable entry := by
  rcases parseLine_eq_some_iff.mp parsed with
    ⟨-, key, nonempty, value, divided, trimmed⟩
  have before {byte : Byte} (member : byte ∈ entry.1) :
      byte ∈ line.takeWhile (· ≠ Ascii.equals) := by
    rw [key] at member
    exact mem_of_mem_trim member
  have after {byte : Byte} (member : byte ∈ entry.2) : byte ∈ line := by
    rw [trimmed] at member
    apply (List.dropWhile_sublist (· ≠ Ascii.equals)).mem
    rw [divided]
    exact List.mem_cons_of_mem _ (mem_of_mem_trim member)
  exact
    { nonempty := nonempty
      key := key ▸ solid_trim _
      value := trimmed ▸ solid_trim _
      delimiter := fun member => by
        have := List.mem_takeWhile_imp (before member)
        simp at this
      keyLine := fun member => single
        ((List.takeWhile_sublist _).mem (before member))
      valueLine := fun member => single (after member) }

/-- Everything in a configuration that was loaded can be loaded. -/
theorem loadable_insertAll {values : ConfigValues}
    {entries : List (Text × Text)}
    (before : ∀ entry ∈ values.entries, Loadable entry)
    (added : ∀ entry ∈ entries, Loadable entry) :
    ∀ entry ∈ (values.insertAll entries).entries, Loadable entry := by
  induction entries generalizing values with
  | nil => exact before
  | cons first entries ih =>
      rw [List.forall_mem_cons] at added
      apply ih _ added.2
      intro entry member
      rcases mem_insertEntry member with rfl | earlier
      · exact added.1
      · exact before entry earlier

/-! ## What was saved -/

theorem beginsWith_savedLine {kind : Byte → Bool} {entry : Text × Text}
    (nonempty : entry.1 ≠ []) :
    beginsWith kind (savedLine entry) ↔ beginsWith kind entry.1 := by
  rcases entry with ⟨_ | ⟨first, key⟩, value⟩
  · exact absurd rfl nonempty
  · rfl

/-- A saved assignment is loaded unless its key begins like a comment. -/
theorem parseLine_savedLine {entry : Text × Text} (loadable : Loadable entry) :
    parseLine (savedLine entry) =
      if beginsWith isCommentMark entry.1 then none else some entry := by
  have start := @beginsWith_savedLine isCommentMark entry loadable.nonempty
  split
  · rename_i comment
    unfold parseLine
    rw [if_pos (Or.inr (start.mpr comment))]
  · rename_i code
    have inKey : ∀ byte ∈ entry.1 ++ [Ascii.space],
        decide (byte ≠ Ascii.equals) = true := by
      intro byte member
      rw [decide_eq_true_eq]
      rintro rfl
      rcases List.mem_append.mp member with inside | last
      · exact loadable.delimiter inside
      · exact absurd (List.mem_singleton.mp last) (by decide)
    have divided : savedLine entry =
        (entry.1 ++ [Ascii.space]) ++
          Ascii.equals :: ([Ascii.space] ++ entry.2) := by
      simp [savedLine]
    have blank : ∀ byte ∈ [Ascii.space], isBlank byte = true :=
      List.forall_mem_singleton.mpr (by decide)
    have key := @trim_of_blanks _ isBlank [] entry.1 [Ascii.space]
      (List.forall_mem_nil _) blank loadable.key
    have value := @trim_of_blanks _ isBlank [Ascii.space] entry.2 []
      blank (List.forall_mem_nil _) loadable.value
    rw [List.nil_append] at key
    rw [List.append_nil] at value
    refine parseLine_eq_some_iff.mpr
      { code := fun comment => code (start.mp comment)
        key := ?_
        nonempty := loadable.nonempty
        value := ⟨[Ascii.space] ++ entry.2, ?_, value.symm⟩ }
    · rw [divided, List.takeWhile_append_of_pos inKey,
        List.takeWhile_cons_of_neg (by decide), List.append_nil, key]
    · rw [divided, List.dropWhile_append_of_pos inKey,
        List.dropWhile_cons_of_neg (by decide)]

/-- Loading what was saved sets every key that does not begin a comment. -/
theorem loadFromFile_saveToFile {values : ConfigValues}
    (loadable : ∀ entry ∈ values.entries, Loadable entry)
    (start : ConfigValues) :
    (start.loadFromFile (some values.saveToFile)).2 =
      start.insertAll (values.entries.filter
        fun entry => ¬ beginsWith isCommentMark entry.1) := by
  have lines : getlines values.saveToFile =
      values.entries.map savedLine := by
    have single : ∀ line ∈ values.entries.map savedLine,
        Ascii.newline ∉ line := by
      intro line member
      rcases List.mem_map.mp member with ⟨entry, inside, rfl⟩
      have fits := loadable entry inside
      simp only [savedLine, List.mem_append, not_or]
      exact ⟨⟨fits.keyLine, by decide⟩, fits.valueLine⟩
    rw [← splitLines_flatMap single, List.flatMap_map]
    rfl
  have each : ∀ entry ∈ values.entries, (parseLine ∘ savedLine) entry =
      Option.guard (fun entry => ¬ beginsWith isCommentMark entry.1)
        entry := by
    intro entry member
    rw [Function.comp_apply, parseLine_savedLine (loadable entry member)]
    by_cases comment : beginsWith isCommentMark entry.1
    · simp [Option.guard, comment]
    · simp [Option.guard, comment]
  rw [loadFromFile_eq, lines, List.filterMap_map, List.filterMap_congr each,
    List.filterMap_eq_filter]

/-! ## Round trips -/

/-- A commented assignment that does not begin in the first column. -/
structure HiddenComment (line : Text) : Prop where
  indented : beginsWith isBlank line
  comment : beginsWith isCommentMark (line.dropWhile isBlank)
  assignment : Ascii.equals ∈ line

theorem not_mark_of_blank {byte : Byte} (blank : isBlank byte = true) :
    ¬ isCommentMark byte = true := by
  rcases of_decide_eq_true blank with rfl | rfl
  · decide
  · decide

theorem dropWhile_takeWhile_comm (line : Text) :
    (line.takeWhile (· ≠ Ascii.equals)).dropWhile isBlank =
      (line.dropWhile isBlank).takeWhile (· ≠ Ascii.equals) := by
  induction line with
  | nil => rfl
  | cons byte line ih =>
      cases blank : isBlank byte with
      | true =>
          have other : byte ≠ Ascii.equals := by
            rintro rfl
            exact absurd blank (by decide)
          rw [List.takeWhile_cons, if_pos (decide_eq_true other),
            List.dropWhile_cons_of_pos blank,
            List.dropWhile_cons_of_pos blank, ih]
      | false =>
          have solid : ¬ isBlank byte = true := by
            rw [blank]
            exact Bool.false_ne_true
          rw [List.dropWhile_cons_of_neg solid, dropWhile_of_head]
          intro first member
          rw [List.head?_takeWhile] at member
          have same := (Option.mem_filter_iff.mp member).1
          rw [← Option.some.inj same]
          exact blank

/-- A key begins as its line does after the blanks. -/
theorem beginsWith_key_iff (line : Text) :
    beginsWith isCommentMark
        (trim isBlank (line.takeWhile (· ≠ Ascii.equals))) ↔
      beginsWith isCommentMark (line.dropWhile isBlank) := by
  unfold beginsWith
  rw [head?_trim, dropWhile_takeWhile_comm, List.head?_takeWhile]
  refine exists_congr fun byte => ?_
  rw [Option.mem_filter_iff]
  constructor
  · rintro ⟨⟨member, -⟩, mark⟩
    exact ⟨member, mark⟩
  · rintro ⟨member, mark⟩
    refine ⟨⟨member, ?_⟩, mark⟩
    rw [decide_eq_true_eq]
    rintro rfl
    exact absurd mark (by decide)

theorem exists_hidden_iff {line : Text} :
    (∃ entry, parseLine line = some entry ∧
        beginsWith isCommentMark entry.1) ↔ HiddenComment line := by
  constructor
  · rintro ⟨entry, parsed, comment⟩
    rcases parseLine_eq_some_iff.mp parsed with
      ⟨code, key, nonempty, value, divided, -⟩
    rw [key, beginsWith_key_iff] at comment
    refine { indented := ?_, comment := comment, assignment := ?_ }
    · by_contra flush
      have same : line.dropWhile isBlank = line := by
        apply dropWhile_of_head
        intro byte member
        rw [← Bool.not_eq_true]
        exact fun blank => flush ⟨byte, member, blank⟩
      rw [same] at comment
      exact code comment
    · apply (List.dropWhile_sublist (· ≠ Ascii.equals)).mem
      rw [divided]
      exact List.mem_cons_self
  · rintro ⟨⟨byte, first, blank⟩, comment, assignment⟩
    have code : ¬ beginsWith isCommentMark line := by
      rintro ⟨other, also, mark⟩
      have same : other = byte := Option.mem_unique also first
      rw [same] at mark
      exact absurd mark (not_mark_of_blank blank)
    cases divided : line.dropWhile (· ≠ Ascii.equals) with
    | nil =>
        have none := List.dropWhile_eq_nil_iff.mp divided Ascii.equals
          assignment
        exact absurd none (by decide)
    | cons other value =>
        rw [head_of_dropWhile divided] at divided
        rw [← beginsWith_key_iff] at comment
        refine ⟨(trim isBlank (line.takeWhile (· ≠ Ascii.equals)),
          trim isBlank value), ?_, comment⟩
        refine parseLine_eq_some_iff.mpr
          { code := code
            key := rfl
            nonempty := ?_
            value := ⟨value, divided, rfl⟩ }
        intro empty
        rcases comment with ⟨mark, member, -⟩
        rw [show trim isBlank _ = [] from empty] at member
        exact absurd member (Option.not_mem_none _)

/-! ## The defaults -/

/-- A byte that means nothing to the loader. -/
def isPlain (byte : Byte) : Bool :=
  ¬ (isBlank byte ∨ isCommentMark byte ∨ byte = Ascii.equals ∨
    byte = Ascii.newline)

/-- What a plain text has none of. -/
theorem of_all_isPlain {text : Text} (plain : text.all isPlain = true)
    {byte : Byte} (member : byte ∈ text) :
    ¬ isBlank byte = true ∧ ¬ isCommentMark byte = true ∧
      byte ≠ Ascii.equals ∧ byte ≠ Ascii.newline := by
  have means := of_decide_eq_true (List.all_eq_true.mp plain byte member)
  rw [not_or, not_or, not_or] at means
  exact means

theorem solid_of_isPlain {text : Text} (plain : text.all isPlain = true) :
    Solid isBlank text where
  head _ member := Bool.eq_false_iff.mpr
    (of_all_isPlain plain (List.mem_of_mem_head? member)).1
  last _ member := Bool.eq_false_iff.mpr
    (of_all_isPlain plain (List.mem_of_mem_getLast? member)).1

theorem defaults_plain : ∀ entry ∈ defaults,
    entry.1 ≠ [] ∧ entry.1.all isPlain = true ∧
      entry.2.all isPlain = true := by
  decide +kernel

theorem loadable_create : ∀ entry ∈ create.entries, Loadable entry := by
  refine loadable_insertAll (List.forall_mem_nil _) fun entry member => ?_
  rcases defaults_plain entry member with ⟨nonempty, key, value⟩
  exact
    { nonempty := nonempty
      key := solid_of_isPlain key
      value := solid_of_isPlain value
      delimiter := fun inside => (of_all_isPlain key inside).2.2.1 rfl
      keyLine := fun inside => (of_all_isPlain key inside).2.2.2 rfl
      valueLine := fun inside => (of_all_isPlain value inside).2.2.2 rfl }

/-- No default begins like a comment. -/
theorem not_comment_of_create {key : Text}
    (member : (create.lookup key).isSome) :
    ¬ beginsWith isCommentMark key := by
  rw [create, SortedMap.lookup_insertAll_isSome_iff] at member
  rcases member with nothing | default
  · exact absurd nothing Bool.false_ne_true
  · rcases List.mem_map.mp default with ⟨entry, inside, rfl⟩
    rintro ⟨byte, first, mark⟩
    exact (of_all_isPlain (defaults_plain entry inside).2.1
      (List.mem_of_mem_head? first)).2.1 mark

/-! ## Loading what was loaded before -/

theorem create_insertAll_entries {values : ConfigValues}
    (complete : ∀ key, (create.lookup key).isSome →
      (values.lookup key).isSome) :
    create.insertAll values.entries = values := by
  apply SortedMap.ext_lookup
  intro key
  cases found : values.lookup key with
  | some value =>
      exact SortedMap.lookup_insertAll_of_mem create values.keys_nodup
        (SortedMap.lookup_eq_some_iff.mp found)
  | none =>
      have absent : key ∉ values.entries.map Prod.fst := by
        rw [← SortedMap.lookup_isSome_iff, found]
        exact Bool.false_ne_true
      rw [SortedMap.lookup_insertAll_of_not_mem create absent,
        ← Option.not_isSome_iff_eq_none]
      intro default
      have := complete key default
      rw [found] at this
      exact absurd this Bool.false_ne_true

/-- Saving loses the keys that begin like comments, and nothing else. -/
theorem reload_eq_iff {values : ConfigValues}
    (loadable : ∀ entry ∈ values.entries, Loadable entry)
    (complete : ∀ key, (create.lookup key).isSome →
      (values.lookup key).isSome) :
    (create.loadFromFile (some values.saveToFile)).2 = values ↔
      ∀ key, (values.lookup key).isSome →
        ¬ beginsWith isCommentMark key := by
  rw [loadFromFile_saveToFile loadable]
  constructor
  · intro same key present
    rw [← same, SortedMap.lookup_insertAll_isSome_iff] at present
    rcases present with default | saved
    · exact not_comment_of_create default
    · rcases List.mem_map.mp saved with ⟨entry, kept, rfl⟩
      exact of_decide_eq_true (List.mem_filter.mp kept).2
  · intro code
    have all : values.entries.filter
        (fun entry => ¬ beginsWith isCommentMark entry.1) =
        values.entries := by
      refine List.filter_eq_self.mpr fun entry member => ?_
      apply decide_eq_true
      apply code
      rw [SortedMap.lookup_isSome_iff]
      exact List.mem_map_of_mem member
    rw [all]
    exact create_insertAll_entries complete

/--
Saving and loading again gives back what a file was loaded as exactly when the
file has no commented assignment behind blanks.
-/
theorem reload_iff (text : Text) :
    let loaded := (create.loadFromFile (some text)).2
    (create.loadFromFile (some loaded.saveToFile)).2 = loaded ↔
      ∀ line ∈ getlines text, ¬ HiddenComment line := by
  intro loaded
  let assignments := (getlines text).filterMap parseLine
  have equal : loaded = create.insertAll assignments :=
    loadFromFile_eq create text
  have loadable : ∀ entry ∈ loaded.entries, Loadable entry := by
    rw [equal]
    refine loadable_insertAll loadable_create fun entry member => ?_
    rcases List.mem_filterMap.mp member with ⟨line, inside, parsed⟩
    exact loadable_of_parseLine
      (separator_not_mem_splitLines _ text line inside) parsed
  have keys (key : Text) : (loaded.lookup key).isSome ↔
      (create.lookup key).isSome ∨ key ∈ assignments.map Prod.fst := by
    rw [equal]
    exact SortedMap.lookup_insertAll_isSome_iff create
  rw [reload_eq_iff loadable fun key default =>
    (keys key).mpr (Or.inl default)]
  constructor
  · intro code line member hidden
    rcases exists_hidden_iff.mpr hidden with ⟨entry, parsed, comment⟩
    refine code entry.1 ((keys entry.1).mpr (Or.inr ?_)) comment
    exact List.mem_map_of_mem
      (List.mem_filterMap.mpr ⟨line, member, parsed⟩)
  · intro visible key present
    rcases (keys key).mp present with default | assigned
    · exact not_comment_of_create default
    · rcases List.mem_map.mp assigned with ⟨entry, inside, rfl⟩
      rcases List.mem_filterMap.mp inside with ⟨line, member, parsed⟩
      intro comment
      exact visible line member
        (exists_hidden_iff.mp ⟨entry, parsed, comment⟩)

/-- The line `  #a = b` is loaded, saved as a comment and lost. -/
theorem indented_comment_lost :
    let loaded := (create.loadFromFile (some (ascii "  #a = b\n"))).2
    loaded.lookup (ascii "#a") = some (ascii "b") ∧
      (create.loadFromFile (some loaded.saveToFile)).2 ≠ loaded := by
  intro loaded
  have before : loaded.lookup (ascii "#a") = some (ascii "b") := by
    decide +kernel
  have after : (create.loadFromFile
      (some loaded.saveToFile)).2.lookup (ascii "#a") = none := by
    decide +kernel
  refine ⟨before, fun same => ?_⟩
  rw [same, before] at after
  cases after

end ConfigValues

end Windmi.Utils
