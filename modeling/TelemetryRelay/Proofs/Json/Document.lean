import TelemetryRelay.Proofs.Json.Value

/-!
# Documents whose numbers are plain

The numbers of a document can be told without reading it: outside of texts,
nothing but a number begins with a digit or a minus sign.  If each of them is
written as a whole number of 64 bits, reading the document yields a canonical
value, nested no deeper than the document is long.

Every reading step leaves bytes of the same kind behind, and this is what is
proved of each of them in turn.
-/

namespace TelemetryRelay
namespace Json

open Utf8 (encodeChars)

/-! ## Numbers as they are written -/

def behindText : List UInt8 -> List UInt8
  | [] => []
  | [_] => []
  | byte :: next :: rest =>
      if byte = 0x22 then next :: rest
      else if byte = 0x5C then behindText rest
      else behindText (next :: rest)

def opensNumeral (byte : UInt8) : Bool :=
  byte == 0x2D || (decimalDigit? byte).isSome

def continuesNumeral (byte : UInt8) : Bool :=
  (decimalDigit? byte).isSome || byte == 0x2E || byte == 0x65 || byte == 0x45 || byte == 0x2B ||
    byte == 0x2D

theorem length_behindText (bytes : List UInt8) : (behindText bytes).length ≤ bytes.length := by
  fun_induction behindText bytes with
  | case1 => exact Nat.le_refl 0
  | case2 byte => exact Nat.zero_le 1
  | case3 next rest => exact Nat.le_succ _
  | case4 next rest _ inductionHypothesis =>
      exact Nat.le_trans inductionHypothesis (Nat.le_add_right rest.length 2)
  | case5 byte next rest _ _ inductionHypothesis =>
      exact Nat.le_trans inductionHypothesis (Nat.le_succ _)

/-- The numbers of a document as they are written, in order. -/
def numerals : List UInt8 -> List (List UInt8)
  | [] => []
  | byte :: rest =>
      if byte = 0x22 then numerals (behindText rest)
      else if opensNumeral byte then
        (byte :: rest.takeWhile continuesNumeral) :: numerals (rest.dropWhile continuesNumeral)
      else numerals rest
termination_by bytes => bytes.length
decreasing_by
  · exact Nat.lt_succ_of_le (length_behindText rest)
  · exact Nat.lt_succ_of_le (List.dropWhile_suffix continuesNumeral).length_le
  · exact Nat.lt_succ_self rest.length

/-- Every number is written as a whole number of 64 bits: digits without
leading zeros, and a minus sign in front if it is below zero. -/
def PlainNumerals (document : List UInt8) : Prop :=
  forall numeral, numeral ∈ numerals document ->
    exists value : Int, FitsWord value ∧ numeral = Utf8.encode (toString value)

/-- A byte that is neither a quote nor the beginning of a number. -/
def Passive (byte : UInt8) : Prop :=
  byte ≠ 0x22 ∧ opensNumeral byte = false

instance passiveDecidable : DecidablePred Passive :=
  fun byte => inferInstanceAs (Decidable (byte ≠ 0x22 ∧ opensNumeral byte = false))

theorem numerals_passive {byte : UInt8} (passive : Passive byte) (rest : List UInt8) :
    numerals (byte :: rest) = numerals rest := by
  rw [numerals, if_neg passive.1, passive.2]
  rfl

theorem numerals_quote (rest : List UInt8) :
    numerals (0x22 :: rest) = numerals (behindText rest) := by
  rw [numerals, if_pos rfl]

/-! ## Texts -/

theorem behindText_verbatim {byte : UInt8} (quote : byte ≠ 0x22) (backslash : byte ≠ 0x5C)
    (rest : List UInt8) : behindText (byte :: rest) = behindText rest := by
  cases rest with
  | nil => rfl
  | cons next rest => rw [behindText, if_neg quote, if_neg backslash]

theorem hexDigit_verbatim {byte : UInt8} {digit : Nat} (value : hexDigit? byte = some digit) :
    byte ≠ 0x22 ∧ byte ≠ 0x5C := by
  constructor
  · rintro rfl
    cases value
  · rintro rfl
    cases value

theorem behindText_hexQuad {bytes rest : List UInt8} {code : Nat}
    (quad : hexQuad bytes = .ok (code, rest)) : behindText bytes = behindText rest := by
  unfold hexQuad at quad
  split at quad
  · split at quad
    · rename_i first second third fourth
      cases quad
      rw [behindText_verbatim (hexDigit_verbatim first).1 (hexDigit_verbatim first).2,
        behindText_verbatim (hexDigit_verbatim second).1 (hexDigit_verbatim second).2,
        behindText_verbatim (hexDigit_verbatim third).1 (hexDigit_verbatim third).2,
        behindText_verbatim (hexDigit_verbatim fourth).1 (hexDigit_verbatim fourth).2]
    · cases quad
  · cases quad

theorem behindText_trailingSurrogate {bytes rest : List UInt8} {code : Nat}
    (trailing : trailingSurrogate bytes = .ok (code, rest)) :
    behindText bytes = behindText rest := by
  unfold trailingSurrogate at trailing
  split at trailing
  · cases trailing
  · split at trailing
    · cases trailing
    · rename_i slash afterSlash backslash
      split at trailing
      · cases trailing
      · rename_i letter digits
        split at trailing
        · cases trailing
        · split at trailing
          · cases trailing
          · rename_i quad
            split at trailing
            · cases trailing
            · cases trailing
              rw [Decidable.not_not.mp backslash, behindText, if_neg (by decide), if_pos rfl]
              exact behindText_hexQuad quad

theorem behindText_unicodeEscape {bytes rest : List UInt8} {char : Char}
    (escaped : unicodeEscape bytes = .ok (char, rest)) : behindText bytes = behindText rest := by
  unfold unicodeEscape at escaped
  split at escaped
  · cases escaped
  · rename_i quad
    split at escaped
    · cases escaped
    · split at escaped
      · cases escaped
        exact behindText_hexQuad quad
      · split at escaped
        · cases escaped
        · rename_i trailing
          rw [Except.ok.injEq, Prod.mk.injEq] at escaped
          rw [behindText_hexQuad quad, behindText_trailingSurrogate trailing, escaped.2]

theorem behindText_escape {bytes rest : List UInt8} {char : Char}
    (escaped : escape bytes = .ok (char, rest)) :
    behindText (0x5C :: bytes) = behindText rest := by
  unfold escape at escaped
  split at escaped
  · cases escaped
  · rw [behindText, if_neg (by decide), if_pos rfl]
    split at escaped
    · exact behindText_unicodeEscape escaped
    · split at escaped
      · cases escaped
        rfl
      · cases escaped

/-- A text that is read ends at its closing quote. -/
theorem behindText_of_textBytes {bytes raw rest : List UInt8}
    (read : textBytes bytes = .ok (raw, rest)) : behindText bytes = rest := by
  induction size : bytes.length using Nat.strongRecOn generalizing bytes raw with
  | ind size inductionHypothesis =>
      cases bytes with
      | nil =>
          rw [textBytes] at read
          cases read
      | cons byte later =>
          rw [textBytes] at read
          by_cases quote : byte = 0x22
          · rw [if_pos quote] at read
            cases read
            rw [quote]
            cases rest with
            | nil => rfl
            | cons next later => rw [behindText, if_pos rfl]
          · rw [if_neg quote] at read
            by_cases backslash : byte = 0x5C
            · rw [if_pos backslash] at read
              split at read
              · cases read
              · rename_i found escaped
                have shorter := escape_shorter escaped
                cases inner : textBytes found.2 with
                | error halt =>
                    rw [inner] at read
                    cases read
                | ok result =>
                    rw [inner] at read
                    cases read
                    rw [backslash, behindText_escape escaped]
                    exact inductionHypothesis found.2.length
                      (by rw [← size, List.length_cons]; omega) inner rfl
            · rw [if_neg backslash] at read
              split at read
              · cases read
              · cases inner : textBytes later with
                | error halt =>
                    rw [inner] at read
                    cases read
                | ok result =>
                    rw [inner] at read
                    cases read
                    rw [behindText_verbatim quote backslash]
                    exact inductionHypothesis later.length
                      (by rw [← size, List.length_cons]; omega) inner rfl

/-! ## Bytes that are still to be read -/

theorem exists_of_map_eq_ok {α β ε : Type} {outcome : Except ε α} {use : α -> β} {result : β}
    (success : outcome.map use = .ok result) :
    exists read, outcome = .ok read ∧ use read = result := by
  cases outcome with
  | error fault => cases success
  | ok read =>
      cases success
      exact ⟨read, rfl, rfl⟩

/-- Bytes, no more than so many, that hold plain numbers only. -/
structure Legible (limit : Nat) (bytes : List UInt8) : Prop where
  short : bytes.length ≤ limit
  plain : PlainNumerals bytes

namespace Legible

variable {limit : Nat}

theorem weaken {bytes : List UInt8} (legible : Legible limit bytes) :
    Legible (limit + 1) bytes :=
  ⟨Nat.le_succ_of_le legible.short, legible.plain⟩

/-- The bytes behind one that is neither a quote nor part of a number. -/
theorem behind {byte : UInt8} {rest : List UInt8} (passive : Passive byte)
    (legible : Legible (limit + 1) (byte :: rest)) : Legible limit rest := by
  refine ⟨Nat.le_of_succ_le_succ legible.short, ?_⟩
  have plain := legible.plain
  rwa [PlainNumerals, numerals_passive passive] at plain

theorem tail {byte : UInt8} {rest : List UInt8} (passive : Passive byte)
    (legible : Legible limit (byte :: rest)) : Legible limit rest := by
  cases limit with
  | zero => exact absurd legible.short (Nat.not_succ_le_zero _)
  | succ limit => exact (legible.behind passive).weaken

theorem skipBlanks {bytes : List UInt8} (legible : Legible limit bytes) :
    Legible limit (skipBlanks bytes) := by
  induction bytes with
  | nil => exact legible
  | cons byte rest inductionHypothesis =>
      rw [Json.skipBlanks]
      split
      · rename_i blank
        apply inductionHypothesis
        apply legible.tail
        rcases blank with rfl | rfl | rfl | rfl <;> exact ⟨by decide, by decide⟩
      · exact legible

theorem expectWord {word bytes rest : List UInt8}
    (passive : forall byte, byte ∈ word -> Passive byte) (legible : Legible limit bytes)
    (read : expectWord word bytes = .ok rest) : Legible limit rest := by
  induction word generalizing bytes with
  | nil =>
      cases read
      exact legible
  | cons wanted word inductionHypothesis =>
      cases bytes with
      | nil => cases read
      | cons byte bytes =>
          rw [Json.expectWord] at read
          split at read
          · rename_i same
            subst same
            obtain ⟨first, later⟩ := List.forall_mem_cons.mp passive
            exact inductionHypothesis later (legible.tail first) read
          · cases read

theorem word {byte : UInt8} {letters later rest : List UInt8} {meant content : Value}
    (legible : Legible limit (byte :: later)) (first : Passive byte)
    (passive : forall other, other ∈ letters -> Passive other)
    (read : (Json.expectWord letters later).map (fun after => (meant, after)) =
      .ok (content, rest)) :
    content = meant ∧ Legible limit rest := by
  obtain ⟨after, found, result⟩ := exists_of_map_eq_ok read
  cases result
  exact ⟨rfl, (legible.tail first).expectWord passive found⟩

theorem text {bytes rest : List UInt8} {content : String}
    (legible : Legible limit (0x22 :: bytes)) (read : text bytes = .ok (content, rest)) :
    Legible limit rest := by
  have raw : exists raw, textBytes bytes = .ok (raw, rest) := by
    unfold Json.text at read
    cases inner : textBytes bytes with
    | error halt =>
        rw [inner] at read
        cases read
    | ok result =>
        rw [inner] at read
        dsimp only [bind, Except.bind] at read
        split at read
        · cases read
          exact ⟨_, rfl⟩
        · cases read
  obtain ⟨raw, found⟩ := raw
  have behind := behindText_of_textBytes found
  have shorter := length_behindText bytes
  have plain := legible.plain
  have short := legible.short
  rw [PlainNumerals, numerals_quote, behind] at plain
  rw [behind] at shorter
  rw [List.length_cons] at short
  exact ⟨by omega, plain⟩

/-- A number in front is a plain one. -/
theorem numeral {byte : UInt8} {rest : List UInt8} (opens : opensNumeral byte = true)
    (legible : Legible limit (byte :: rest)) :
    exists (value : Int) (behind : List UInt8), FitsWord value ∧ EndsNumber behind ∧
      byte :: rest = encodeChars (Number.whole value).render ++ behind ∧
      Legible limit behind := by
  have quote : byte ≠ 0x22 := by
    rintro rfl
    exact absurd opens (by decide)
  have plain := legible.plain
  have short := legible.short
  rw [PlainNumerals, numerals, if_neg quote, if_pos opens] at plain
  obtain ⟨⟨value, fits, written⟩, plainBehind⟩ := List.forall_mem_cons.mp plain
  refine ⟨value, rest.dropWhile continuesNumeral, fits, ?_, ?_, ?_, plainBehind⟩
  · intro next head
    have stops : continuesNumeral next = false := by
      have first := List.head?_dropWhile_not continuesNumeral rest
      rw [head] at first
      exact Bool.not_eq_true _ ▸ (by simpa using first)
    simp only [continuesNumeral, Bool.or_eq_false_iff, Option.isSome_eq_false_iff,
      Option.isNone_iff_eq_none, beq_eq_false_iff_ne] at stops
    exact ⟨stops.1.1.1.1.1, stops.1.1.1.1.2, stops.1.1.1.2, stops.1.1.2⟩
  · rw [Number.render]
    change _ = Utf8.encode (toString value) ++ _
    rw [← written, List.cons_append, List.takeWhile_append_dropWhile]
  · have shorter : (rest.dropWhile continuesNumeral).length ≤ rest.length :=
      (List.dropWhile_suffix continuesNumeral).length_le
    rw [List.length_cons] at short
    omega

theorem nextElement {first found : Bool} {bytes rest : List UInt8}
    (legible : Legible limit bytes) (read : nextElement first bytes = .ok (found, rest)) :
    Legible limit rest ∧ (found = false -> exists behind, rest = 0x5D :: behind) := by
  have unblanked := legible.skipBlanks
  unfold Json.nextElement at read
  split at read
  · cases read
  · rename_i byte later skipped
    rw [skipped] at unblanked
    by_cases closing : byte = 0x5D
    · rw [if_pos closing] at read
      cases read
      exact ⟨unblanked, fun _ => ⟨later, by rw [closing]⟩⟩
    · rw [if_neg closing] at read
      split at read
      · cases read
        exact ⟨unblanked, fun impossible => absurd impossible (by decide)⟩
      · split at read
        · rename_i comma
          subst comma
          have unblankedLater := (unblanked.tail ⟨by decide, by decide⟩).skipBlanks
          split at read
          · cases read
          · rename_i skippedLater
            rw [skippedLater] at unblankedLater
            split at read
            · cases read
            · cases read
              exact ⟨unblankedLater, fun impossible => absurd impossible (by decide)⟩
        · cases read

/-- The bytes at which a key has been found, with the quote that opens it, or
the closing brace. -/
theorem nextKey {first found : Bool} {bytes rest : List UInt8}
    (legible : Legible limit bytes) (read : nextKey first bytes = .ok (found, rest)) :
    if found then Legible limit (0x22 :: rest)
    else Legible limit rest ∧ exists behind, rest = 0x7D :: behind := by
  have unblanked := legible.skipBlanks
  unfold Json.nextKey at read
  split at read
  · cases read
  · rename_i byte later skipped
    rw [skipped] at unblanked
    by_cases closing : byte = 0x7D
    · rw [if_pos closing] at read
      cases read
      exact ⟨unblanked, later, by rw [closing]⟩
    · rw [if_neg closing] at read
      split at read
      · split at read
        · rename_i quote
          cases read
          exact quote ▸ unblanked
        · cases read
      · split at read
        · rename_i comma
          subst comma
          have unblankedLater := (unblanked.tail ⟨by decide, by decide⟩).skipBlanks
          split at read
          · cases read
          · rename_i skippedLater
            rw [skippedLater] at unblankedLater
            split at read
            · rename_i quote
              cases read
              exact quote ▸ unblankedLater
            · split at read
              · cases read
              · cases read
        · cases read

theorem expectColon {bytes rest : List UInt8} (legible : Legible limit bytes)
    (read : expectColon bytes = .ok rest) : Legible limit rest := by
  have unblanked := legible.skipBlanks
  unfold Json.expectColon at read
  split at read
  · cases read
  · rename_i byte later skipped
    rw [skipped] at unblanked
    split at read
    · rename_i colon
      subst colon
      cases read
      exact unblanked.tail ⟨by decide, by decide⟩
    · cases read

end Legible

/-! ## Members in order -/

theorem mem_insert {held : Members} {key : String} {value : Value} {member : String × Value}
    (present : member ∈ held.insert key value) : member = (key, value) ∨ member ∈ held := by
  induction held with
  | nil => exact Or.inl (List.mem_singleton.mp present)
  | cons other held inductionHypothesis =>
      rw [Members.insert] at present
      split_ifs at present
      · exact List.mem_cons.mp present
      · rcases List.mem_cons.mp present with rfl | later
        · exact Or.inr List.mem_cons_self
        · exact (inductionHypothesis later).imp_right (List.mem_cons_of_mem other)
      · exact (List.mem_cons.mp present).imp_right (List.mem_cons_of_mem other)

/-- Putting a member in its place keeps the keys in ascending order. -/
theorem ascending_insert {held : Members} (ascending : held.Pairwise (·.1 < ·.1))
    (key : String) (value : Value) : (held.insert key value).Pairwise (·.1 < ·.1) := by
  induction held with
  | nil => exact List.pairwise_singleton _ _
  | cons other held inductionHypothesis =>
      obtain ⟨least, later⟩ := List.pairwise_cons.mp ascending
      rw [Members.insert]
      split_ifs with before behind
      · apply List.pairwise_cons.mpr ⟨_, ascending⟩
        intro member present
        rcases List.mem_cons.mp present with rfl | present
        · exact before
        · exact lt_trans before (least member present)
      · apply List.pairwise_cons.mpr ⟨_, inductionHypothesis later⟩
        intro member present
        rcases mem_insert present with rfl | present
        · exact behind
        · exact least member present
      · apply List.pairwise_cons.mpr ⟨_, later⟩
        intro member present
        have same : key = other.1 := le_antisymm (not_lt.mp behind) (not_lt.mp before)
        rw [same]
        exact least member present

/-! ## Values -/

/-- A reader of values that makes canonical values of plain numbers, nested no
deeper than there are bytes. -/
def ReadsCanonical (item : List UInt8 -> Step Value) : Prop :=
  forall {limit : Nat} {bytes rest : List UInt8} {content : Value}, Legible limit bytes ->
    item bytes = .ok (content, rest) -> Canonical limit content ∧ Legible limit rest

section

variable {item : List UInt8 -> Step Value} (canonical : ReadsCanonical item)

include canonical

theorem canonical_elements {limit budget : Nat} {first : Bool} {bytes rest : List UInt8}
    {items : List Value} (legible : Legible limit bytes)
    (read : elements item budget first bytes = .ok (items, rest)) :
    (forall content, content ∈ items -> Canonical limit content) ∧ Legible limit rest := by
  induction budget generalizing first bytes items with
  | zero => cases read
  | succ budget inductionHypothesis =>
      rw [elements] at read
      split at read
      · cases read
      · rename_i closing found
        cases read
        obtain ⟨here, bracket⟩ := legible.nextElement found
        obtain ⟨behind, rfl⟩ := bracket rfl
        exact ⟨fun _ nothing => absurd nothing List.not_mem_nil, here.tail ⟨by decide, by decide⟩⟩
      · rename_i start found
        obtain ⟨here, -⟩ := legible.nextElement found
        split at read
        · cases read
        · rename_i head after headRead
          obtain ⟨headCanonical, legibleAfter⟩ := canonical here headRead
          split at read
          · cases read
          · rename_i tail last tailRead
            cases read
            obtain ⟨tailCanonical, legibleLast⟩ := inductionHypothesis legibleAfter tailRead
            refine ⟨?_, legibleLast⟩
            intro content member
            rcases List.mem_cons.mp member with rfl | member
            · exact headCanonical
            · exact tailCanonical content member

theorem canonical_members {limit budget : Nat} {first : Bool} {held all : Members}
    {bytes rest : List UInt8} (legible : Legible limit bytes)
    (ascending : held.Pairwise (·.1 < ·.1))
    (each : forall member, member ∈ held -> Canonical limit member.2)
    (read : members item budget first held bytes = .ok (all, rest)) :
    all.Pairwise (·.1 < ·.1) ∧ (forall member, member ∈ all -> Canonical limit member.2) ∧
      Legible limit rest := by
  induction budget generalizing first held bytes with
  | zero => cases read
  | succ budget inductionHypothesis =>
      rw [members] at read
      split at read
      · cases read
      · rename_i closing found
        cases read
        obtain ⟨here, behind, rfl⟩ := legible.nextKey found
        exact ⟨ascending, each, here.tail ⟨by decide, by decide⟩⟩
      · rename_i start found
        have here : Legible limit (0x22 :: start) := legible.nextKey found
        split at read
        · cases read
        · rename_i key afterKey keyRead
          have legibleKey := here.text keyRead
          split at read
          · cases read
          · rename_i afterColon colonRead
            have legibleColon := legibleKey.expectColon colonRead
            split at read
            · cases read
            · rename_i content after contentRead
              obtain ⟨contentCanonical, legibleAfter⟩ := canonical legibleColon contentRead
              apply inductionHypothesis legibleAfter (ascending_insert ascending key content) _ read
              intro member present
              rcases mem_insert present with rfl | present
              · exact contentCanonical
              · exact each member present

end

theorem skipBlanks_skipBlanks (bytes : List UInt8) :
    skipBlanks (skipBlanks bytes) = skipBlanks bytes := by
  induction bytes with
  | nil => rfl
  | cons byte rest inductionHypothesis =>
      rw [skipBlanks]
      split
      · exact inductionHypothesis
      · rename_i visible
        rw [skipBlanks, if_neg visible]

theorem valueWith_skipBlanks (inner : Option (List UInt8 -> Step Value)) (bytes : List UInt8) :
    valueWith inner (skipBlanks bytes) = valueWith inner bytes := by
  unfold valueWith
  rw [skipBlanks_skipBlanks]

theorem ofUInt8_inj {byte : UInt8} (letter : UInt8)
    (same : Char.ofUInt8 byte = Char.ofUInt8 letter) :
    byte = letter :=
  UInt8.toNat_inj.mp (congrArg Char.toNat same)

/-- A numeral is read as it is written; anything else begins with a letter, a
quote or a bracket that says what is read. -/
theorem canonical_valueWith {inner : Option (List UInt8 -> Step Value)}
    (canonical : forall item, inner = some item -> ReadsCanonical item) :
    ReadsCanonical (valueWith inner) := by
  intro limit bytes rest content legible read
  have unblanked := legible.skipBlanks
  rw [← valueWith_skipBlanks] at read
  cases skipped : skipBlanks bytes with
  | nil =>
      rw [skipped] at read
      cases read
  | cons byte later =>
      rw [skipped] at unblanked read
      by_cases opens : opensNumeral byte = true
      · obtain ⟨value, behind, fits, ends, written, legibleBehind⟩ := unblanked.numeral opens
        rw [written, valueWith_whole inner fits ends] at read
        cases read
        exact ⟨.number fits, legibleBehind⟩
      · rw [Bool.not_eq_true] at opens
        unfold valueWith at read
        rw [← skipped, skipBlanks_skipBlanks, skipped] at read
        dsimp only at read
        split at read
        · rename_i letter
          rw [ofUInt8_inj 0x6E letter] at unblanked
          rw [wordRests.1] at read
          obtain ⟨rfl, legibleBehind⟩ := unblanked.word (by decide) (by decide +kernel) read
          exact ⟨.null, legibleBehind⟩
        · rename_i letter
          rw [ofUInt8_inj 0x74 letter] at unblanked
          rw [wordRests.2.1] at read
          obtain ⟨rfl, legibleBehind⟩ := unblanked.word (by decide) (by decide +kernel) read
          exact ⟨.boolean true, legibleBehind⟩
        · rename_i letter
          rw [ofUInt8_inj 0x66 letter] at unblanked
          rw [wordRests.2.2] at read
          obtain ⟨rfl, legibleBehind⟩ := unblanked.word (by decide) (by decide +kernel) read
          exact ⟨.boolean false, legibleBehind⟩
        · rename_i letter
          rw [ofUInt8_inj 0x22 letter] at unblanked
          obtain ⟨⟨held, after⟩, textRead, result⟩ := exists_of_map_eq_ok read
          cases result
          exact ⟨.text held, unblanked.text textRead⟩
        · rename_i letter
          rw [ofUInt8_inj 0x2D letter] at opens
          cases opens
        · rename_i letter
          rw [ofUInt8_inj 0x5B letter] at unblanked
          split at read
          · cases read
          · rename_i item
            obtain ⟨⟨items, after⟩, itemsRead, result⟩ := exists_of_map_eq_ok read
            cases result
            cases limit with
            | zero => exact absurd unblanked.short (Nat.not_succ_le_zero _)
            | succ limit =>
                obtain ⟨each, legibleBehind⟩ := canonical_elements (canonical item rfl)
                  (unblanked.behind (by decide)) itemsRead
                exact ⟨.array each, legibleBehind.weaken⟩
        · rename_i letter
          rw [ofUInt8_inj 0x7B letter] at unblanked
          split at read
          · cases read
          · rename_i item
            obtain ⟨⟨all, after⟩, membersRead, result⟩ := exists_of_map_eq_ok read
            cases result
            cases limit with
            | zero => exact absurd unblanked.short (Nat.not_succ_le_zero _)
            | succ limit =>
                obtain ⟨ascending, each, legibleBehind⟩ := canonical_members (canonical item rfl)
                  (unblanked.behind (by decide)) .nil
                  (fun _ nothing => absurd nothing List.not_mem_nil) membersRead
                exact ⟨.object ascending each, legibleBehind.weaken⟩
        · split at read
          · rename_i digit
            rw [opensNumeral, digit, Bool.or_true] at opens
            cases opens
          · cases read

theorem canonical_value (depth : Nat) : ReadsCanonical (value depth) := by
  induction depth with
  | zero =>
      apply canonical_valueWith
      intro item impossible
      cases impossible
  | succ depth inductionHypothesis =>
      apply canonical_valueWith
      rintro item ⟨⟩
      exact inductionHypothesis

/-- A document of plain numbers is a canonical value, nested no deeper than the
document is long. -/
theorem canonical_of_parse {document : List UInt8} {content : Value}
    (plain : PlainNumerals document) (read : parse document = .ok content) :
    Canonical document.length content := by
  unfold parse at read
  split at read
  · cases read
  · rename_i parsed
    split at read
    · cases read
    · cases read
      exact (canonical_value nestingLimit ⟨Nat.le_refl _, plain⟩ parsed).1

end Json
end TelemetryRelay
