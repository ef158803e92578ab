import Windmi.Library.Decimal

/-!
# Flat JSON objects

Objects whose members are numbers, texts without escapes and truth values.  The
reader accepts a part of JSON only, without blanks between the tokens and with
any number of newlines at the end; what it reads has the meaning that JSON
gives it.  A writer gives every number with the decimals that it is asked for,
and the reader finds the members again.
-/

namespace Windmi.Library.Json

open Decimal

/-! ## Reading -/

inductive Scalar where
  | number (value : ℚ)
  | text (chars : List Char)
  | truth (value : Bool)
  deriving DecidableEq

abbrev Member := List Char × Scalar

/-- What may stand in a text by itself. -/
def isTextChar (char : Char) : Bool :=
  char ≠ '"' ∧ char ≠ '\\' ∧ 0x20 ≤ char.toNat

def readSymbol (symbol : Char) : List Char → Option (List Char)
  | [] => none
  | first :: rest => if first = symbol then some rest else none

def readText (input : List Char) : Option (List Char × List Char) := do
  let input ← readSymbol '"' input
  let rest ← readSymbol '"' (input.dropWhile isTextChar)
  return (input.takeWhile isTextChar, rest)

/-- The digits before the point: no zero comes before another digit. -/
def isWhole (digits : List Char) : Prop :=
  digits ≠ [] ∧ (digits.head? = some '0' → digits = ['0'])

instance (digits : List Char) : Decidable (isWhole digits) :=
  inferInstanceAs (Decidable (_ ∧ _))

/-- The digits behind the point, which come with it. -/
def readFraction : List Char → Option (List Char × List Char)
  | '.' :: input =>
      let digits := input.takeWhile Char.isDigit
      if digits = [] then none
      else some (digits, input.dropWhile Char.isDigit)
  | input => some ([], input)

def readUnsigned (input : List Char) : Option (ℚ × List Char) := do
  let whole := input.takeWhile Char.isDigit
  guard (isWhole whole)
  let (fraction, rest) ← readFraction (input.dropWhile Char.isDigit)
  return (Decimal.unsigned whole fraction, rest)

def readNumber : List Char → Option (ℚ × List Char)
  | '-' :: input => (readUnsigned input).map fun read => (-read.1, read.2)
  | input => readUnsigned input

def readWord (word : List Char) (input : List Char) : Option (List Char) :=
  if word.isPrefixOf input then some (input.drop word.length) else none

def readScalar (input : List Char) : Option (Scalar × List Char) :=
  match input.head? with
  | some '"' => (readText input).map fun read => (.text read.1, read.2)
  | some 't' => (readWord ['t', 'r', 'u', 'e'] input).map (.truth true, ·)
  | some 'f' =>
      (readWord ['f', 'a', 'l', 's', 'e'] input).map (.truth false, ·)
  | _ => (readNumber input).map fun read => (.number read.1, read.2)

def readMember (input : List Char) : Option (Member × List Char) := do
  let (key, input) ← readText input
  let input ← readSymbol ':' input
  let (value, rest) ← readScalar input
  return ((key, value), rest)

/-- The members after the first one, at most as many as asked for. -/
def readRest : ℕ → List Char → Option (List Member × List Char)
  | 0, _ => none
  | _ + 1, '}' :: rest => some ([], rest)
  | fuel + 1, ',' :: input => do
      let (member, input) ← readMember input
      let (members, rest) ← readRest fuel input
      return (member :: members, rest)
  | _ + 1, _ => none

/-- All members, with the brace that closes the object. -/
def readMembers (input : List Char) : Option (List Member × List Char) :=
  if input.head? = some '}' then
    some ([], input.tail)
  else do
    let (member, input) ← readMember input
    let (members, rest) ← readRest (input.length + 1) input
    return (member :: members, rest)

def readObject (input : List Char) : Option (List Member) := do
  let input ← readSymbol '{' input
  let (members, rest) ← readMembers input
  if rest.all (· = '\n') then some members else none

/-! ## Writing -/

/-- A value, with the format in which it is to be written. -/
inductive Item where
  | fixed (places : ℕ) (value : ℚ)
  | integer (value : ℤ)
  | text (chars : List Char)
  | truth (value : Bool)
  deriving DecidableEq

def Item.write : Item → List Char
  | .fixed places value => Decimal.fixed places value
  | .integer value => Decimal.integer value
  | .text chars => '"' :: chars ++ ['"']
  | .truth true => ['t', 'r', 'u', 'e']
  | .truth false => ['f', 'a', 'l', 's', 'e']

/-- What stands in the object then. -/
def Item.scalar : Item → Scalar
  | .fixed places value => .number (Decimal.fixedValue places value)
  | .integer value => .number value
  | .text chars => .text chars
  | .truth value => .truth value

/-- Numbers have decimals if any are asked for, and texts no escapes. -/
def Item.Plain : Item → Prop
  | .fixed places _ => 0 < places
  | .integer _ => True
  | .text chars => ∀ char ∈ chars, isTextChar char = true
  | .truth _ => True

def writeMember (member : List Char × Item) : List Char :=
  '"' :: member.1 ++ '"' :: ':' :: member.2.write

def writeRest : List (List Char × Item) → List Char
  | [] => ['}']
  | member :: members => ',' :: writeMember member ++ writeRest members

def writeObject : List (List Char × Item) → List Char
  | [] => ['{', '}']
  | member :: members => '{' :: writeMember member ++ writeRest members

/-! ## What was written is read -/

/-- A number ends where its digits and its point do. -/
def Follows (rest : List Char) : Prop :=
  ∀ char ∈ rest.head?, char.isDigit = false ∧ char ≠ '.'

theorem readText_write {chars : List Char}
    (plain : ∀ char ∈ chars, isTextChar char = true) (rest : List Char) :
    readText ('"' :: (chars ++ '"' :: rest)) = some (chars, rest) := by
  have quote : ¬ isTextChar '"' = true := by decide
  simp [readText, readSymbol, List.takeWhile_append_of_pos plain,
    List.dropWhile_append_of_pos plain, quote]

/-- No zero comes before the other digits of a number. -/
theorem isWhole_toDigits (count : ℕ) : isWhole (Nat.toDigits 10 count) := by
  refine ⟨Nat.toDigits_ne_nil, ?_⟩
  induction count using Nat.strongRecOn with
  | ind count ih =>
      intro zero
      by_cases small : count < 10
      · rw [Nat.toDigits_of_lt_base small] at zero ⊢
        exact congrArg (fun char => [char]) (Option.some.inj zero)
      · have large : 10 ≤ count := not_lt.mp small
        rw [Nat.toDigits_of_base_le (by decide) large,
          List.head?_append_of_ne_nil _ Nat.toDigits_ne_nil] at zero
        have front := ih (count / 10) (by omega) zero
        have value := @Nat.ofDigitChars_ten_toDigits (count / 10)
        rw [front] at value
        have none : Nat.ofDigitChars 10 ['0'] 0 = 0 := by decide
        omega

theorem readUnsigned_write {whole digits : List Char} (fits : isWhole whole)
    (all : ∀ char ∈ whole, char.isDigit = true)
    (places : ∀ char ∈ digits, char.isDigit = true) (nonempty : digits ≠ [])
    {rest : List Char} (follows : Follows rest) :
    readUnsigned (whole ++ '.' :: (digits ++ rest)) =
      some (Decimal.unsigned whole digits, rest) := by
  have point := @Decimal.span_isDigit whole ('.' :: (digits ++ rest)) all (by
    rintro char ⟨⟩
    rfl)
  have tail := @Decimal.span_isDigit digits rest places fun char member =>
    (follows char member).1
  rw [List.span_eq_takeWhile_dropWhile, Prod.mk.injEq] at point tail
  simp [readUnsigned, point, fits, readFraction, tail, nonempty]

theorem readFraction_of_follows {rest : List Char} (follows : Follows rest) :
    readFraction rest = some ([], rest) := by
  unfold readFraction
  split
  · exact absurd rfl (follows '.' rfl).2
  · rfl

theorem readUnsigned_integer {whole : List Char} (fits : isWhole whole)
    (all : ∀ char ∈ whole, char.isDigit = true)
    {rest : List Char} (follows : Follows rest) :
    readUnsigned (whole ++ rest) = some (Decimal.unsigned whole [], rest) := by
  have tail := @Decimal.span_isDigit whole rest all fun char member =>
    (follows char member).1
  rw [List.span_eq_takeWhile_dropWhile, Prod.mk.injEq] at tail
  simp [readUnsigned, tail, fits, readFraction_of_follows follows]

/-- A number is read as such, with its sign. -/
theorem readScalar_number {negative : Prop} [Decidable negative]
    {unsigned rest : List Char} {first : Char}
    (head : unsigned.head? = some first) (digit : first.isDigit = true)
    {value : ℚ} (read : readUnsigned unsigned = some (value, rest)) :
    readScalar ((if negative then ['-'] else []) ++ unsigned) =
      some (.number ((if negative then -1 else 1) * value), rest) := by
  have quote : first ≠ '"' := by
    rintro rfl
    cases digit
  have true_ : first ≠ 't' := by
    rintro rfl
    cases digit
  have false_ : first ≠ 'f' := by
    rintro rfl
    cases digit
  have minus : first ≠ '-' := by
    rintro rfl
    cases digit
  cases unsigned with
  | nil => cases head
  | cons other digits =>
      cases head
      by_cases negative : negative
      · simp [negative, readScalar, readNumber, read]
      · simp [negative, readScalar, readNumber, read, quote, true_, false_,
          minus]

theorem readScalar_write {item : Item} (plain : item.Plain)
    {rest : List Char} (follows : Follows rest) :
    readScalar (item.write ++ rest) = some (item.scalar, rest) := by
  have digits (count : ℕ) : ∃ first,
      (Nat.toDigits 10 count).head? = some first ∧ first.isDigit = true := by
    rcases toDigits_eq_cons count with ⟨first, others, known, digit⟩
    exact ⟨first, by rw [known]; rfl, digit⟩
  cases item with
  | fixed places value =>
      have power : (0 : ℕ) < 10 ^ places := by positivity
      have small : units places value % 10 ^ places < 10 ^ places :=
        Nat.mod_lt _ power
      have nonempty : fraction places value ≠ [] := by
        rw [← List.length_pos_iff, fraction, length_padded plain small]
        exact plain
      have read := readUnsigned_write
        (isWhole_toDigits (units places value / 10 ^ places))
        (fun char => isDigit_of_mem_toDigits)
        (fun char => isDigit_of_mem_padded) nonempty follows
      rcases digits (units places value / 10 ^ places) with ⟨first, head, digit⟩
      have found := @readScalar_number (value < 0) _ _ _ first
        (by rw [List.head?_append_of_ne_nil _ Nat.toDigits_ne_nil, head]) digit
        _ read
      have amount := unsigned_fixed plain value
      rw [Decimal.whole, fraction] at amount
      rw [amount] at found
      simpa [Item.write, Item.scalar, fixed, sign, Decimal.whole, fraction,
        fixedValue] using found
  | integer value =>
      have read := readUnsigned_integer (isWhole_toDigits value.natAbs)
        (fun char => isDigit_of_mem_toDigits) follows
      rcases digits value.natAbs with ⟨first, head, digit⟩
      have found := @readScalar_number (value < 0) _ _ _ first
        (by rw [List.head?_append_of_ne_nil _ Nat.toDigits_ne_nil, head]) digit
        _ read
      have amount : (if value < 0 then -1 else 1 : ℚ) *
          Decimal.unsigned (Nat.toDigits 10 value.natAbs) [] = value := by
        rw [Decimal.unsigned, List.append_nil, Nat.ofDigitChars_ten_toDigits]
        split
        case isTrue negative =>
          have size : (value.natAbs : ℤ) = -value := by omega
          rw [← Int.cast_natCast, size]
          simp
        case isFalse other =>
          have size : (value.natAbs : ℤ) = value := by omega
          rw [← Int.cast_natCast, size]
          simp
      rw [amount] at found
      simpa [Item.write, Item.scalar, Decimal.integer] using found
  | text chars =>
      have read := readText_write plain rest
      simp [Item.write, Item.scalar, readScalar, read]
  | truth value =>
      cases value with
      | true => simp [Item.write, Item.scalar, readScalar, readWord]
      | false => simp [Item.write, Item.scalar, readScalar, readWord]

/-- A text without escapes and a value that can be written. -/
structure Writable (member : List Char × Item) : Prop where
  key : ∀ char ∈ member.1, isTextChar char = true
  plain : member.2.Plain

/-- What is in a member then. -/
def written (member : List Char × Item) : Member :=
  (member.1, member.2.scalar)

theorem readMember_write {member : List Char × Item}
    (writable : Writable member) {rest : List Char} (follows : Follows rest) :
    readMember (writeMember member ++ rest) = some (written member, rest) := by
  have key := readText_write writable.key (':' :: (member.2.write ++ rest))
  have value := readScalar_write writable.plain follows
  have text : writeMember member ++ rest =
      '"' :: (member.1 ++ '"' :: ':' :: (member.2.write ++ rest)) := by
    simp [writeMember]
  rw [text]
  simp [readMember, key, readSymbol, value, written]

theorem follows_writeRest (members : List (List Char × Item))
    (rest : List Char) : Follows (writeRest members ++ rest) := by
  cases members with
  | nil =>
      rintro char ⟨⟩
      exact ⟨rfl, by decide⟩
  | cons member members =>
      rintro char ⟨⟩
      exact ⟨rfl, by decide⟩

theorem readRest_write {members : List (List Char × Item)}
    (writable : ∀ member ∈ members, Writable member) {fuel : ℕ}
    (enough : members.length < fuel) (rest : List Char) :
    readRest fuel (writeRest members ++ rest) =
      some (members.map written, rest) := by
  induction members generalizing fuel with
  | nil =>
      cases fuel with
      | zero => exact absurd enough (Nat.not_lt_zero _)
      | succ fuel => rfl
  | cons member members ih =>
      cases fuel with
      | zero => exact absurd enough (Nat.not_lt_zero _)
      | succ fuel =>
          rw [List.forall_mem_cons] at writable
          have first := readMember_write writable.1
            (follows_writeRest members rest)
          have others := ih writable.2 (Nat.lt_of_succ_lt_succ enough)
          have text : writeRest (member :: members) ++ rest =
              ',' :: (writeMember member ++ (writeRest members ++ rest)) := by
            simp [writeRest]
          rw [text]
          simp [readRest, first, others]

theorem length_le_writeRest (members : List (List Char × Item)) :
    members.length ≤ (writeRest members).length := by
  induction members with
  | nil => exact Nat.zero_le _
  | cons member members ih =>
      simp only [writeRest, List.length_cons, List.length_append]
      omega

theorem readMembers_write {member : List Char × Item}
    {members : List (List Char × Item)} (writable : Writable member)
    (others : ∀ member ∈ members, Writable member) (rest : List Char) :
    readMembers (writeMember member ++ (writeRest members ++ rest)) =
      some (written member :: members.map written, rest) := by
  have first := readMember_write writable (follows_writeRest members rest)
  have enough : members.length < (writeRest members ++ rest).length + 1 := by
    have := length_le_writeRest members
    rw [List.length_append]
    omega
  have read := readRest_write others enough rest
  have quote : (writeMember member ++
      (writeRest members ++ rest)).head? ≠ some '}' := by
    simp [writeMember]
  rw [readMembers, if_neg quote, first]
  show ((readRest _ (writeRest members ++ rest)).bind _) = _
  rw [read]
  rfl

/-- The reader finds the members that the writer has been given. -/
theorem readObject_write {members : List (List Char × Item)}
    (writable : ∀ member ∈ members, Writable member) {rest : List Char}
    (newlines : rest.all (· = '\n') = true) :
    readObject (writeObject members ++ rest) = some (members.map written) := by
  cases members with
  | nil =>
      show (if rest.all (· = '\n') then some [] else none) = some []
      rw [if_pos newlines]
  | cons member members =>
      rw [List.forall_mem_cons] at writable
      have text : writeObject (member :: members) ++ rest =
          '{' :: (writeMember member ++ (writeRest members ++ rest)) := by
        simp [writeObject]
      rw [text]
      show ((readMembers (writeMember member ++
        (writeRest members ++ rest))).bind _) = _
      rw [readMembers_write writable.1 writable.2]
      exact if_pos newlines

/-- Members of bounded length. -/
theorem length_writeRest_le {members : List (List Char × Item)} {bound : ℕ}
    (short : ∀ member ∈ members, (writeMember member).length ≤ bound) :
    (writeRest members).length ≤ members.length * (bound + 1) + 1 := by
  induction members with
  | nil => simp [writeRest]
  | cons member members ih =>
      rw [List.forall_mem_cons] at short
      have others := ih short.2
      rw [writeRest, List.cons_append, List.length_cons, List.length_append,
        List.length_cons, Nat.succ_mul]
      omega

theorem length_writeObject_le {members : List (List Char × Item)} {bound : ℕ}
    (short : ∀ member ∈ members, (writeMember member).length ≤ bound) :
    (writeObject members).length ≤ members.length * (bound + 1) + 2 := by
  cases members with
  | nil => simp [writeObject]
  | cons member members =>
      rw [List.forall_mem_cons] at short
      have others := length_writeRest_le short.2
      rw [writeObject, List.cons_append, List.length_cons, List.length_append,
        List.length_cons, Nat.succ_mul]
      omega

end Windmi.Library.Json
