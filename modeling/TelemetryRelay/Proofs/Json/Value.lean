import Mathlib.Data.String.Basic
import TelemetryRelay.Proofs.Json.Number
import TelemetryRelay.Proofs.Json.Text

/-!
# Values of a document are read back

A canonical value is what the reader makes of a document without floating-point
numbers: its whole numbers fit 64 bits, the keys of its objects ascend, and it
is nested no deeper than an allowance.  Such a value is read back from its
written form, whatever follows that does not continue a number.

The first byte of a written value tells its kind, and is neither a blank nor a
closing bracket.  What is read of the inside of an array or an object are
therefore exactly its elements or members, and since keys ascend, each member
is put behind the ones before it.
-/

namespace TelemetryRelay
namespace Json

open Utf8 (encodeChars)

/-- A value that can be written and read back at a nesting allowance. -/
inductive Canonical : Nat -> Value -> Prop where
  | null {depth : Nat} : Canonical depth .null
  | boolean {depth : Nat} (value : Bool) : Canonical depth (.boolean value)
  | number {depth : Nat} {value : Int} (fits : FitsWord value) :
      Canonical depth (.number (.whole value))
  | text {depth : Nat} (content : String) : Canonical depth (.text content)
  | array {depth : Nat} {items : List Value}
      (each : forall item, item ∈ items -> Canonical depth item) :
      Canonical (depth + 1) (.array items)
  | object {depth : Nat} {members : Members}
      (ascending : members.Pairwise (·.1 < ·.1))
      (each : forall member, member ∈ members -> Canonical depth member.2) :
      Canonical (depth + 1) (.object members)

/-- More allowance does no harm. -/
theorem Canonical.mono {depth greater : Nat} {value : Value} (canonical : Canonical depth value)
    (le : depth ≤ greater) : Canonical greater value := by
  induction canonical generalizing greater with
  | null => exact .null
  | boolean value => exact .boolean value
  | number fits => exact .number fits
  | text content => exact .text content
  | array each inductionHypothesis =>
      cases greater with
      | zero => exact absurd le (Nat.not_succ_le_zero _)
      | succ greater =>
          exact .array fun item member =>
            inductionHypothesis item member (Nat.le_of_succ_le_succ le)
  | object ascending each inductionHypothesis =>
      cases greater with
      | zero => exact absurd le (Nat.not_succ_le_zero _)
      | succ greater =>
          exact .object ascending fun member present =>
            inductionHypothesis member present (Nat.le_of_succ_le_succ le)

/-! ## First bytes -/

def OpensValue (byte : UInt8) : Prop :=
  ¬ (byte = 0x20 ∨ byte = 0x09 ∨ byte = 0x0A ∨ byte = 0x0D) ∧ byte ≠ 0x5D

theorem skipBlanks_opened {byte : UInt8} (opens : OpensValue byte) (rest : List UInt8) :
    skipBlanks (byte :: rest) = byte :: rest := by
  rw [skipBlanks, if_neg opens.1]

theorem digit_bounds {byte : UInt8} (digit : (decimalDigit? byte).isSome = true) :
    0x30 ≤ byte.toNat ∧ byte.toNat ≤ 0x39 := by
  unfold decimalDigit? at digit
  split at digit
  · rename_i bounds
    rw [UInt8.le_iff_toNat_le, UInt8.le_iff_toNat_le] at bounds
    exact bounds
  · cases digit

theorem opensValue_digit {byte : UInt8} (digit : (decimalDigit? byte).isSome = true) :
    OpensValue byte := by
  have bounds := digit_bounds digit
  constructor
  · rintro (rfl | rfl | rfl | rfl) <;> exact absurd bounds (by decide)
  · rintro rfl
    exact absurd bounds (by decide)

theorem valueWith_digit (inner : Option (List UInt8 -> Step Value)) {byte : UInt8}
    (digit : (decimalDigit? byte).isSome = true) (rest : List UInt8) :
    valueWith inner (byte :: rest) =
      (number false (byte :: rest)).map fun (read, after) => (.number read, after) := by
  have bounds := digit_bounds digit
  have other (char : Char) (elsewhere : char.toNat < 0x30 ∨ 0x39 < char.toNat) :
      Char.ofUInt8 byte ≠ char := by
    rintro rfl
    change byte.toNat < 0x30 ∨ 0x39 < byte.toNat at elsewhere
    omega
  unfold valueWith
  rw [skipBlanks_opened (opensValue_digit digit)]
  dsimp only
  split
  iterate 7
    rename_i letter
    exact absurd letter (other _ (by decide))
  rw [if_pos digit]

theorem digits_opened (value : Nat) :
    exists byte bytes, encodeChars (Nat.toDigits 10 value) = byte :: bytes ∧
      (decimalDigit? byte).isSome = true := by
  have decimal : forall digit, digit ∈ Nat.toDigits 10 value -> digit.isDigit = true :=
    fun digit member => Nat.isDigit_of_mem_toDigits (by decide) (by decide) member
  cases digits : Nat.toDigits 10 value with
  | nil => exact absurd digits Nat.toDigits_ne_nil
  | cons digit later =>
      rw [digits] at decimal
      have first := decimal digit List.mem_cons_self
      exact ⟨_, _, encodeChars_digit first later, by rw [decimalDigit_toUInt8 first]; rfl⟩

theorem valueWith_whole (inner : Option (List UInt8 -> Step Value)) {value : Int}
    (fits : FitsWord value) {rest : List UInt8} (ends : EndsNumber rest) :
    valueWith inner (encodeChars (Number.whole value).render ++ rest) =
      .ok (.number (.whole value), rest) := by
  rw [Number.render, toList_toString]
  by_cases natural : 0 ≤ value
  · obtain ⟨byte, bytes, encoded, digit⟩ := digits_opened value.toNat
    have restored : ((value.toNat : Nat) : Int) = value := Int.toNat_of_nonneg natural
    have read := number_natural (restored.symm ▸ fits) ends
    rw [if_pos natural, encoded, List.cons_append, valueWith_digit inner digit,
      ← List.cons_append, ← encoded, read, restored]
    rfl
  · have restored : (-((-value).toNat : Nat) : Int) = value := by omega
    have nonzero : (-value).toNat ≠ 0 := by omega
    have read := number_negative (restored.symm ▸ fits) nonzero ends
    rw [if_neg natural]
    change (number true (encodeChars (Nat.toDigits 10 (-value).toNat) ++ rest)).map _ = _
    rw [read, restored]
    rfl

/-- The first byte of a canonical value. -/
theorem Canonical.opened {depth : Nat} {value : Value} (canonical : Canonical depth value) :
    exists byte bytes, encodeChars value.renderChars = byte :: bytes ∧ OpensValue byte := by
  cases canonical with
  | null => exact ⟨0x6E, _, rfl, by decide, by decide⟩
  | boolean value =>
      cases value with
      | false => exact ⟨0x66, _, rfl, by decide, by decide⟩
      | true => exact ⟨0x74, _, rfl, by decide, by decide⟩
  | @number _ value =>
      rw [Value.renderChars, Number.render, toList_toString]
      by_cases natural : 0 ≤ value
      · obtain ⟨byte, bytes, encoded, digit⟩ := digits_opened value.toNat
        rw [if_pos natural]
        exact ⟨byte, bytes, encoded, opensValue_digit digit⟩
      · rw [if_neg natural]
        exact ⟨0x2D, _, rfl, by decide, by decide⟩
  | text content => exact ⟨0x22, _, rfl, by decide, by decide⟩
  | array => exact ⟨0x5B, _, rfl, by decide, by decide⟩
  | object => exact ⟨0x7B, _, rfl, by decide, by decide⟩

/-! ## Elements and members -/

/-- A value that a reader of nested values reads back. -/
structure ReadsBack (item : List UInt8 -> Step Value) (value : Value) : Prop where
  opened : exists byte bytes, encodeChars value.renderChars = byte :: bytes ∧ OpensValue byte
  read : forall rest, EndsNumber rest ->
    item (encodeChars value.renderChars ++ rest) = .ok (value, rest)

/-- The elements behind the first, each behind a comma. -/
def laterItems (items : List Value) : List Char :=
  items.flatMap fun item => ',' :: item.renderChars

theorem renderItems_cons (first : Value) (later : List Value) :
    renderItems (first :: later) = first.renderChars ++ laterItems later := by
  induction later generalizing first with
  | nil => rw [renderItems, laterItems, List.flatMap_nil, List.append_nil]
  | cons next later inductionHypothesis =>
      rw [renderItems, inductionHypothesis]
      rfl

theorem encodeChars_renderItems (first : Value) (later : List Value) (rest : List UInt8) :
    encodeChars (renderItems (first :: later)) ++ rest =
      encodeChars first.renderChars ++ (encodeChars (laterItems later) ++ rest) := by
  rw [renderItems_cons, Utf8.encodeChars_append, List.append_assoc]

theorem encodeChars_laterItems (item : Value) (items : List Value) (rest : List UInt8) :
    encodeChars (laterItems (item :: items)) ++ rest =
      0x2C :: (encodeChars item.renderChars ++ (encodeChars (laterItems items) ++ rest)) := by
  change 0x2C :: (encodeChars (item.renderChars ++ laterItems items) ++ rest) = _
  rw [Utf8.encodeChars_append, List.append_assoc]

def memberChars (member : String × Value) : List Char :=
  renderText member.1 ++ ':' :: member.2.renderChars

def laterMembers (members : Members) : List Char :=
  members.flatMap fun member => ',' :: memberChars member

theorem renderMembers_cons (first : String × Value) (later : Members) :
    renderMembers (first :: later) = memberChars first ++ laterMembers later := by
  induction later generalizing first with
  | nil => rw [renderMembers, laterMembers, List.flatMap_nil, List.append_nil, memberChars]
  | cons next later inductionHypothesis =>
      rw [renderMembers, inductionHypothesis]
      change _ = (renderText first.1 ++ ':' :: first.2.renderChars) ++ _
      rw [List.append_assoc]
      rfl

/-- The bytes of a member behind its opening quote, and what follows it. -/
def memberBytes (member : String × Value) (rest : List UInt8) : List UInt8 :=
  encodeChars (member.1.toList.flatMap escapeChar) ++
    0x22 :: 0x3A :: (encodeChars member.2.renderChars ++ rest)

theorem length_le_memberBytes (member : String × Value) (rest : List UInt8) :
    rest.length ≤ (memberBytes member rest).length := by
  simp only [memberBytes, List.length_append, List.length_cons]
  omega

theorem encodeChars_memberChars (member : String × Value) (rest : List UInt8) :
    encodeChars (memberChars member) ++ rest = 0x22 :: memberBytes member rest := by
  rw [memberChars, Utf8.encodeChars_append, List.append_assoc, encodeChars_renderText]
  rfl

theorem encodeChars_renderMembers (first : String × Value) (later : Members)
    (rest : List UInt8) :
    encodeChars (renderMembers (first :: later)) ++ rest =
      0x22 :: memberBytes first (encodeChars (laterMembers later) ++ rest) := by
  rw [renderMembers_cons, Utf8.encodeChars_append, List.append_assoc, encodeChars_memberChars]

theorem encodeChars_laterMembers (member : String × Value) (members : Members)
    (rest : List UInt8) :
    encodeChars (laterMembers (member :: members)) ++ rest =
      0x2C :: 0x22 :: memberBytes member (encodeChars (laterMembers members) ++ rest) := by
  change 0x2C :: (encodeChars (memberChars member ++ laterMembers members) ++ rest) = _
  rw [Utf8.encodeChars_append, List.append_assoc, encodeChars_memberChars]

theorem endsNumber_cons {byte : UInt8} (closing : byte = 0x2C ∨ byte = 0x5D ∨ byte = 0x7D)
    (rest : List UInt8) : EndsNumber (byte :: rest) := by
  intro next head
  cases head
  rcases closing with rfl | rfl | rfl <;> decide

theorem endsNumber_laterItems (items : List Value) (rest : List UInt8) :
    EndsNumber (encodeChars (laterItems items) ++ 0x5D :: rest) := by
  cases items with
  | nil => exact endsNumber_cons (Or.inr (Or.inl rfl)) rest
  | cons item items => exact endsNumber_cons (Or.inl rfl) _

theorem endsNumber_laterMembers (members : Members) (rest : List UInt8) :
    EndsNumber (encodeChars (laterMembers members) ++ 0x7D :: rest) := by
  cases members with
  | nil => exact endsNumber_cons (Or.inr (Or.inr rfl)) rest
  | cons member members => exact endsNumber_cons (Or.inl rfl) _

/-- A budget of as many steps as there are bytes allows for one step, and what
it leaves is enough for the bytes behind the first. -/
theorem exists_budget {byte : UInt8} {rest : List UInt8} {budget : Nat}
    (enough : (byte :: rest).length ≤ budget) :
    exists less, budget = less + 1 ∧ rest.length ≤ less := by
  cases budget with
  | zero => exact absurd enough (Nat.not_succ_le_zero _)
  | succ less => exact ⟨less, rfl, Nat.le_of_succ_le_succ enough⟩

section

variable {item : List UInt8 -> Step Value}

/-- Behind an element that has been found, its value is read and then the
elements that follow. -/
theorem elements_found {budget : Nat} {first : Bool} {bytes : List UInt8} {value : Value}
    (readsBack : ReadsBack item value) {rest : List UInt8} (ends : EndsNumber rest)
    (found : nextElement first bytes = .ok (true, encodeChars value.renderChars ++ rest)) :
    elements item (budget + 1) first bytes =
      (elements item budget false rest).map fun (later, after) => (value :: later, after) := by
  rw [elements, found]
  dsimp only
  rw [readsBack.read rest ends]
  dsimp only
  cases elements item budget false rest with
  | error halt => rfl
  | ok read => rfl

theorem nextElement_first {value : Value} (readsBack : ReadsBack item value)
    (rest : List UInt8) :
    nextElement true (encodeChars value.renderChars ++ rest) =
      .ok (true, encodeChars value.renderChars ++ rest) := by
  obtain ⟨byte, bytes, encoded, opens⟩ := readsBack.opened
  rw [nextElement, encoded, List.cons_append, skipBlanks_opened opens]
  dsimp only
  rw [if_neg opens.2, if_pos rfl]

theorem nextElement_later {value : Value} (readsBack : ReadsBack item value)
    (rest : List UInt8) :
    nextElement false (0x2C :: (encodeChars value.renderChars ++ rest)) =
      .ok (true, encodeChars value.renderChars ++ rest) := by
  obtain ⟨byte, bytes, encoded, opens⟩ := readsBack.opened
  have comma : OpensValue 0x2C := ⟨by decide, by decide⟩
  unfold nextElement
  rw [skipBlanks_opened comma]
  dsimp only
  rw [if_neg (by decide), if_neg (by decide), if_pos rfl, encoded, List.cons_append,
    skipBlanks_opened opens]
  dsimp only
  rw [if_neg opens.2]

/-- The elements behind the first are read back.  Each takes at least the byte
of its comma, so that the number of bytes is budget enough. -/
theorem elements_later {items : List Value}
    (each : forall value, value ∈ items -> ReadsBack item value) (rest : List UInt8)
    {budget : Nat}
    (enough : (encodeChars (laterItems items) ++ 0x5D :: rest).length ≤ budget) :
    elements item budget false (encodeChars (laterItems items) ++ 0x5D :: rest) =
      .ok (items, rest) := by
  induction items generalizing budget with
  | nil =>
      change (0x5D :: rest).length ≤ budget at enough
      obtain ⟨less, rfl, -⟩ := exists_budget enough
      rfl
  | cons value items inductionHypothesis =>
      obtain ⟨readsBack, eachLater⟩ := List.forall_mem_cons.mp each
      rw [encodeChars_laterItems] at enough ⊢
      obtain ⟨less, rfl, enoughValue⟩ := exists_budget enough
      rw [List.length_append] at enoughValue
      have later := inductionHypothesis eachLater
        (Nat.le_trans (Nat.le_add_left _ _) enoughValue)
      rw [elements_found readsBack (endsNumber_laterItems items rest)
        (nextElement_later readsBack _), later]
      rfl

theorem elements_written {items : List Value}
    (each : forall value, value ∈ items -> ReadsBack item value) (rest : List UInt8)
    {budget : Nat}
    (enough : (encodeChars (renderItems items) ++ 0x5D :: rest).length ≤ budget) :
    elements item budget true (encodeChars (renderItems items) ++ 0x5D :: rest) =
      .ok (items, rest) := by
  cases items with
  | nil =>
      change (0x5D :: rest).length ≤ budget at enough
      obtain ⟨less, rfl, -⟩ := exists_budget enough
      rfl
  | cons value items =>
      obtain ⟨readsBack, eachLater⟩ := List.forall_mem_cons.mp each
      obtain ⟨byte, bytes, encoded, -⟩ := readsBack.opened
      rw [encodeChars_renderItems] at enough ⊢
      rw [encoded, List.cons_append] at enough
      obtain ⟨less, rfl, enoughLater⟩ := exists_budget enough
      rw [List.length_append] at enoughLater
      have later := elements_later eachLater rest
        (Nat.le_trans (Nat.le_add_left _ _) enoughLater)
      rw [elements_found readsBack (endsNumber_laterItems items rest)
        (nextElement_first readsBack _), later]
      rfl

theorem insert_last {held : Members} {key : String} {value : Value}
    (greatest : forall other, other ∈ held -> other.1 < key) :
    held.insert key value = held ++ [(key, value)] := by
  induction held with
  | nil => rfl
  | cons other held inductionHypothesis =>
      obtain ⟨less, greatestLater⟩ := List.forall_mem_cons.mp greatest
      rw [Members.insert, if_neg (lt_asymm less), if_pos less, inductionHypothesis greatestLater]
      rfl

/-- Behind a key that has been found, its value is read and then the members
that follow. -/
theorem members_found {budget : Nat} {first : Bool} {held : Members} {bytes : List UInt8}
    {member : String × Value} (readsBack : ReadsBack item member.2) {rest : List UInt8}
    (ends : EndsNumber rest) (found : nextKey first bytes = .ok (true, memberBytes member rest)) :
    members item (budget + 1) first held bytes =
      members item budget false (held.insert member.1 member.2) rest := by
  have colon : expectColon (0x3A :: (encodeChars member.2.renderChars ++ rest)) =
      .ok (encodeChars member.2.renderChars ++ rest) := rfl
  rw [members, found, memberBytes]
  dsimp only
  rw [text_written]
  dsimp only
  rw [colon]
  dsimp only
  rw [readsBack.read rest ends]

/-- The members behind the first are read back, behind those that are held. -/
theorem members_later {held behind : Members}
    (ascending : (held ++ behind).Pairwise (·.1 < ·.1))
    (each : forall member, member ∈ behind -> ReadsBack item member.2) (rest : List UInt8)
    {budget : Nat}
    (enough : (encodeChars (laterMembers behind) ++ 0x7D :: rest).length ≤ budget) :
    members item budget false held (encodeChars (laterMembers behind) ++ 0x7D :: rest) =
      .ok (held ++ behind, rest) := by
  induction behind generalizing held budget with
  | nil =>
      change (0x7D :: rest).length ≤ budget at enough
      obtain ⟨less, rfl, -⟩ := exists_budget enough
      rw [List.append_nil]
      rfl
  | cons member behind inductionHypothesis =>
      obtain ⟨readsBack, eachLater⟩ := List.forall_mem_cons.mp each
      have greatest : forall other, other ∈ held -> other.1 < member.1 := by
        intro other present
        exact (List.pairwise_append.mp ascending).2.2 other present member List.mem_cons_self
      rw [encodeChars_laterMembers] at enough ⊢
      obtain ⟨less, rfl, enoughMember⟩ := exists_budget enough
      have enoughLater := Nat.le_trans (length_le_memberBytes member _)
        (Nat.le_of_succ_le enoughMember)
      rw [members_found readsBack (endsNumber_laterMembers behind rest) rfl, insert_last greatest]
      rw [List.append_cons held member behind] at ascending ⊢
      exact inductionHypothesis ascending eachLater enoughLater

theorem members_written {all : Members} (ascending : all.Pairwise (·.1 < ·.1))
    (each : forall member, member ∈ all -> ReadsBack item member.2) (rest : List UInt8)
    {budget : Nat}
    (enough : (encodeChars (renderMembers all) ++ 0x7D :: rest).length ≤ budget) :
    members item budget true [] (encodeChars (renderMembers all) ++ 0x7D :: rest) =
      .ok (all, rest) := by
  cases all with
  | nil =>
      change (0x7D :: rest).length ≤ budget at enough
      obtain ⟨less, rfl, -⟩ := exists_budget enough
      rfl
  | cons member behind =>
      obtain ⟨readsBack, eachLater⟩ := List.forall_mem_cons.mp each
      rw [encodeChars_renderMembers] at enough ⊢
      obtain ⟨less, rfl, enoughMember⟩ := exists_budget enough
      have enoughLater := Nat.le_trans (length_le_memberBytes member _) enoughMember
      rw [members_found readsBack (endsNumber_laterMembers behind rest) rfl]
      exact @members_later item [member] behind ascending eachLater rest less enoughLater

end

/-! ## Values -/

theorem wordRests :
    "ull".toUTF8.toList = [0x75, 0x6C, 0x6C] ∧ "rue".toUTF8.toList = [0x72, 0x75, 0x65] ∧
      "alse".toUTF8.toList = [0x61, 0x6C, 0x73, 0x65] := by
  decide +kernel

theorem expectWord_written (word rest : List UInt8) :
    expectWord word (word ++ rest) = .ok rest := by
  induction word with
  | nil => rfl
  | cons byte word inductionHypothesis =>
      rw [List.cons_append, expectWord, if_pos rfl, inductionHypothesis]

/-- The reader at an allowance, with what it reads nested values with. -/
theorem value_eq (depth : Nat) : exists inner, value depth = valueWith inner := by
  cases depth with
  | zero => exact ⟨none, rfl⟩
  | succ depth => exact ⟨some (value depth), rfl⟩

theorem Canonical.readsBack {depth : Nat} {content : Value} (canonical : Canonical depth content) :
    ReadsBack (value depth) content := by
  refine ⟨canonical.opened, ?_⟩
  induction canonical with
  | @null depth =>
      intro rest _
      obtain ⟨inner, reader⟩ := value_eq depth
      rw [reader]
      change (expectWord "ull".toUTF8.toList ([0x75, 0x6C, 0x6C] ++ rest)).map _ = _
      rw [wordRests.1, expectWord_written]
      rfl
  | @boolean depth content =>
      intro rest _
      obtain ⟨inner, reader⟩ := value_eq depth
      rw [reader]
      cases content with
      | false =>
          change (expectWord "alse".toUTF8.toList ([0x61, 0x6C, 0x73, 0x65] ++ rest)).map _ = _
          rw [wordRests.2.2, expectWord_written]
          rfl
      | true =>
          change (expectWord "rue".toUTF8.toList ([0x72, 0x75, 0x65] ++ rest)).map _ = _
          rw [wordRests.2.1, expectWord_written]
          rfl
  | @number depth content fits =>
      intro rest ends
      obtain ⟨inner, reader⟩ := value_eq depth
      rw [reader, Value.renderChars]
      exact valueWith_whole inner fits ends
  | @text depth content =>
      intro rest _
      obtain ⟨inner, reader⟩ := value_eq depth
      rw [reader, Value.renderChars, encodeChars_renderText]
      change (Json.text (encodeChars (content.toList.flatMap escapeChar) ++ 0x22 :: rest)).map _ = _
      rw [text_written]
      rfl
  | @array depth items each inductionHypothesis =>
      intro rest _
      have readsBack : forall item, item ∈ items -> ReadsBack (value depth) item :=
        fun item member => ⟨(each item member).opened, inductionHypothesis item member⟩
      have layout : encodeChars (Value.array items).renderChars ++ rest =
          0x5B :: (encodeChars (renderItems items) ++ 0x5D :: rest) := by
        rw [Value.renderChars, Utf8.encodeChars_cons, Utf8.encodeChars_append]
        change 0x5B :: (_ ++ [0x5D] ++ rest) = _
        rw [List.append_assoc]
        rfl
      rw [layout]
      change (elements (value depth) _ true _).map _ = _
      rw [elements_written readsBack rest (Nat.le_refl _)]
      rfl
  | @object depth all ascending each inductionHypothesis =>
      intro rest _
      have readsBack : forall member, member ∈ all -> ReadsBack (value depth) member.2 :=
        fun member present => ⟨(each member present).opened, inductionHypothesis member present⟩
      have layout : encodeChars (Value.object all).renderChars ++ rest =
          0x7B :: (encodeChars (renderMembers all) ++ 0x7D :: rest) := by
        rw [Value.renderChars, Utf8.encodeChars_cons, Utf8.encodeChars_append]
        change 0x7B :: (_ ++ [0x7D] ++ rest) = _
        rw [List.append_assoc]
        rfl
      rw [layout]
      change (members (value depth) _ true [] _).map _ = _
      rw [members_written ascending readsBack rest (Nat.le_refl _)]
      rfl

/-- A canonical value is what a document of its written form holds. -/
theorem parse_render {content : Value} (canonical : Canonical nestingLimit content) :
    parse (Utf8.encode content.render) = .ok content := by
  have read := canonical.readsBack.read [] endsNumber_nil
  rw [List.append_nil] at read
  rw [Value.render, Utf8.encode_ofList, parse, read]
  rfl

end Json
end TelemetryRelay
