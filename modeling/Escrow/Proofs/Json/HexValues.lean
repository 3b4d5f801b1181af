import Escrow.Config
import Escrow.Store.Document
import Escrow.Proofs.Text.HexText

/-! Hexadecimal values in JSON.

Addresses and digests stand in JSON documents as strings holding their hexadecimal form. Such a
string is printable ASCII without quotes or backslashes, so it is written between two quotes with
nothing escaped, and its bytes are its characters' codes. The reader takes the opening quote, then
the scanner accumulates one byte a character up to the closing quote, and the bytes decode to the
string again (`str_quoted`, `value_quoted`). So every address and digest reads back from its JSON
form, through the value tree the store reads and through the direct reader of settings
(`FixedWidth.json_round_trip`). `hex_text_round_trips` gathers what reading and writing
hexadecimal addresses and digests do.
-/

set_option autoImplicit false

namespace Escrow.Json

open Escrow.Text Reading

/-! ## The cursor -/

theorem Cursor.rest_advance (c : Cursor) : c.advance.rest = c.rest.tail := by
  unfold Cursor.advance
  split
  · rename_i empty
    rw [empty]
    rfl
  · rename_i b rest ahead
    rw [ahead]
    split <;> rfl

theorem Cursor.rest_advanceBy (n : Nat) (c : Cursor) : (c.advanceBy n).rest = c.rest.drop n := by
  induction n generalizing c with
  | zero => rfl
  | succ n ih => rw [Cursor.advanceBy, ih, Cursor.rest_advance, List.drop_tail]

theorem Cursor.skipBlank_eq_self {c : Cursor} (notBlank : ∀ b ∈ c.rest.head?, Cursor.isBlank b = false) :
    c.skipBlank = c := by
  unfold Cursor.skipBlank
  cases ahead : c.rest with
  | nil => rfl
  | cons b rest =>
    rw [ahead] at notBlank
    rw [List.takeWhile_cons, if_neg (by simp [notBlank b rfl])]
    rfl

theorem peekAfterBlank_apply {c : Cursor} (notBlank : ∀ b ∈ c.rest.head?, Cursor.isBlank b = false) :
    peekAfterBlank c = .ok c.rest.head? c := by
  unfold peekAfterBlank
  rw [Cursor.skipBlank_eq_self notBlank]

theorem finish_apply {c : Cursor} (ended : c.rest = []) : finish c = .ok () c := by
  have notBlank : ∀ b ∈ c.rest.head?, Cursor.isBlank b = false := by simp [ended]
  simp only [finish, bind, EStateM.bind, peekAfterBlank_apply notBlank, ended]
  rfl

theorem document_eq_ok {α : Type} (r : Nat → Reading α) (text : String) {v : α} {c : Cursor}
    (read : r ((Cursor.ofString text).rest.length + 1) (Cursor.ofString text) = .ok v c)
    (ended : c.rest = []) : document r text = .ok v := by
  simp only [document, bind, EStateM.bind, read, finish_apply ended]
  rfl

/-! ## Plain strings -/

/-- A character a JSON string holds as itself: printable ASCII other than a quote and a
backslash. -/
def IsPlain (c : Char) : Prop := 32 ≤ c.toNat ∧ c.toNat < 128 ∧ c ≠ '"' ∧ c ≠ '\\'

instance (c : Char) : Decidable (IsPlain c) := inferInstanceAs (Decidable (_ ∧ _))

theorem isPlain_of_isHexDigit_ascii : ∀ n < 128,
    (Char.ofNat n).isHexDigit = true → IsPlain (Char.ofNat n) := by decide

theorem isPlain_of_isHexDigit {c : Char} (digit : c.isHexDigit = true) : IsPlain c := by
  have plain := isPlain_of_isHexDigit_ascii c.toNat (isHexDigit_ascii digit)
  rw [Char.ofNat_toNat] at plain
  exact plain digit

theorem escapeChar_of_plain {c : Char} (plain : IsPlain c) : escapeChar c = c.toString := by
  obtain ⟨low, -, notQuote, notBackslash⟩ := plain
  have notControl : ∀ d : Char, d.toNat < 32 → c ≠ d := fun d small same => by
    rw [same] at low
    omega
  unfold escapeChar
  rw [if_neg notQuote, if_neg notBackslash, if_neg (notControl '\n' (by decide)),
    if_neg (notControl '\r' (by decide)), if_neg (notControl '\t' (by decide)), if_neg (by omega),
    if_neg (by omega), if_neg (by omega)]

theorem Value.compact_str (s : String) : (Value.str s).compact = quote s := rfl

theorem toList_quote {s : String} (plain : ∀ c ∈ s.toList, IsPlain c) :
    (quote s).toList = '"' :: s.toList ++ ['"'] := by
  have escaped : ∀ cs : List Char, (∀ c ∈ cs, IsPlain c) →
      (cs.map escapeChar).flatMap String.toList = cs := by
    intro cs
    induction cs with
    | nil => intro _; rfl
    | cons c more ih =>
      intro plainAll
      rw [List.map_cons, List.flatMap_cons, escapeChar_of_plain (plainAll c List.mem_cons_self),
        ih fun d member => plainAll d (List.mem_cons_of_mem c member), Char.toString_eq_singleton,
        String.toList_singleton]
      rfl
  rw [quote, String.toList_append, String.toList_append, String.toList_join, escaped _ plain]
  rfl

theorem toUTF8_of_plain {s : String} (plain : ∀ d ∈ s.toList, IsPlain d) :
    s.toUTF8.toList = s.toList.map (·.val.toUInt8) := by
  rw [toList_toUTF8, flatMap_utf8EncodeChar_of_ascii fun d member => (plain d member).2.1]

theorem toUTF8_quote {s : String} (plain : ∀ c ∈ s.toList, IsPlain c) :
    (quote s).toUTF8.toList = 0x22 :: s.toUTF8.toList ++ [0x22] := by
  rw [toList_toUTF8, toList_quote plain, List.flatMap_append, List.flatMap_cons, toList_toUTF8]
  rfl

theorem ch_toUInt8 {c : Char} (ascii : c.toNat < 128) : ch c.val.toUInt8 = c := by
  rw [ch, toNat_toUInt8_of_ascii ascii, Char.ofNat_toNat]

theorem scanStr_plain (rest : List UInt8) : ∀ (cs : List Char) (taken : Nat) (acc : List UInt8),
    (∀ c ∈ cs, IsPlain c) →
    scanStr (cs.map (·.val.toUInt8) ++ 0x22 :: rest) taken acc =
      .done (taken + cs.length + 1) (acc.reverse ++ cs.map (·.val.toUInt8)) := by
  intro cs
  induction cs with
  | nil =>
    intro taken acc _
    rw [List.map_nil, List.nil_append, scanStr.eq_def]
    dsimp only
    rw [if_pos (by decide), List.append_nil, List.length_nil, Nat.add_zero]
  | cons c more ih =>
    intro taken acc plainAll
    obtain ⟨low, ascii, notQuote, notBackslash⟩ := plainAll c List.mem_cons_self
    have printable : ¬ c.val.toUInt8 < 0x20 := by
      rw [UInt8.lt_iff_toNat_lt, toNat_toUInt8_of_ascii ascii]
      exact Nat.not_lt.mpr low
    rw [List.map_cons, List.cons_append, scanStr.eq_def]
    dsimp only
    rw [ch_toUInt8 ascii, if_neg notQuote, if_neg notBackslash, if_neg printable,
      ih _ _ fun d member => plainAll d (List.mem_cons_of_mem c member)]
    simp only [List.reverse_cons, List.length_cons, List.append_assoc, List.singleton_append]
    congr 1
    omega

theorem ch_quote : ch 0x22 = '"' := by decide

theorem notBlank_of_quoted {c : Cursor} {t : List UInt8} (start : c.rest = 0x22 :: t) :
    ∀ b ∈ c.rest.head?, Cursor.isBlank b = false := by
  rw [start]
  intro b first
  cases first
  decide

theorem rest_advance_of_quoted {c : Cursor} {t : List UInt8} (start : c.rest = 0x22 :: t) :
    c.advance.rest = t := by
  rw [Cursor.rest_advance, start, List.tail_cons]

theorem strBody_plain {c : Cursor} {s : String} (plain : ∀ d ∈ s.toList, IsPlain d) {rest : List UInt8}
    (start : c.rest = s.toUTF8.toList ++ 0x22 :: rest) :
    strBody c = .ok s (c.advanceBy (s.toList.length + 1)) := by
  have scanned := scanStr_plain rest s.toList 0 [] plain
  rw [← toUTF8_of_plain plain, List.reverse_nil, List.nil_append, Nat.zero_add] at scanned
  simp only [strBody, bind, EStateM.bind, Reading.run, start, scanned, pure, EStateM.pure,
    fromUTF8?_toUTF8, Option.getD_some]

theorem rest_past_quoted {c : Cursor} {s : String} (plain : ∀ d ∈ s.toList, IsPlain d)
    {rest : List UInt8} (start : c.rest = 0x22 :: (s.toUTF8.toList ++ 0x22 :: rest)) :
    (c.advance.advanceBy (s.toList.length + 1)).rest = rest := by
  have sameLength : s.toUTF8.toList.length = s.toList.length := by
    rw [toUTF8_of_plain plain, List.length_map]
  rw [Cursor.rest_advanceBy, rest_advance_of_quoted start, ← sameLength, List.drop_append,
    List.drop_eq_nil_of_le (by omega), List.nil_append, Nat.add_sub_cancel_left]
  rfl


theorem str_quoted {c : Cursor} {s : String} (plain : ∀ d ∈ s.toList, IsPlain d) {rest : List UInt8}
    (start : c.rest = 0x22 :: (s.toUTF8.toList ++ 0x22 :: rest)) :
    ∃ c', str c = .ok s c' ∧ c'.rest = rest := by
  refine ⟨_, ?_, rest_past_quoted plain start⟩
  simp only [str, bind, EStateM.bind, peekAfterBlank_apply (notBlank_of_quoted start), start,
    List.head?_cons, ch_quote, if_pos, bump, strBody_plain plain (rest_advance_of_quoted start)]

theorem value_quoted {c : Cursor} {s : String} (plain : ∀ d ∈ s.toList, IsPlain d) {rest : List UInt8}
    (start : c.rest = 0x22 :: (s.toUTF8.toList ++ 0x22 :: rest)) (bound : Nat) :
    ∃ c', value (bound + 1) c = .ok (.str s) c' ∧ c'.rest = rest := by
  refine ⟨_, ?_, rest_past_quoted plain start⟩
  simp only [value, bind, EStateM.bind, peekAfterBlank_apply (notBlank_of_quoted start), start,
    List.head?_cons, ch_quote, bump, strBody_plain plain (rest_advance_of_quoted start), pure,
    EStateM.pure]

theorem rest_ofString_quote {s : String} (plain : ∀ d ∈ s.toList, IsPlain d) :
    (Cursor.ofString (quote s)).rest = 0x22 :: (s.toUTF8.toList ++ 0x22 :: []) := by
  rw [Cursor.ofString, toUTF8_quote plain, List.cons_append]

theorem parse_str_of_plain {s : String} (plain : ∀ d ∈ s.toList, IsPlain d) :
    Value.parse (Value.str s).compact = .ok (.str s) := by
  obtain ⟨c, read, ended⟩ := value_quoted plain (rest_ofString_quote plain) _
  exact document_eq_ok _ _ read ended

end Escrow.Json

namespace Escrow

open Escrow.Json Escrow.Json.Reading Escrow.Text

namespace FixedWidth

variable {α : Type} (F : FixedWidth α)

def readJson : Reading α := do
  let s ← str
  match F.read s with
  | .ok x => pure x
  | .error e => raise (.custom e.message)

def ofValue? (v : Value) : Option α := v.asStr.bind fun s => (F.read s).toOption

theorem isPlain_write (x : α) : ∀ c ∈ (F.write x).toList, IsPlain c := by
  intro c member
  rw [write_eq, encodeHex, String.toList_append, String.toList_ofList, List.mem_append] at member
  rcases member with inMarker | digit
  · rw [List.mem_cons, List.mem_singleton] at inMarker
    rcases inMarker with rfl | rfl <;> decide
  · rw [String.toList_ofList] at digit
    exact isPlain_of_isHexDigit (written_of_mem_flatMap_byteDigits digit).1

/-- A value's JSON string is parsed back as that string, and read back as the value, both from
the tree and directly from the text. -/
theorem json_round_trip (x : α) :
    Value.parse (Value.str (F.write x)).compact = .ok (.str (F.write x)) ∧
      F.ofValue? (.str (F.write x)) = some x ∧
      document (fun _ => F.readJson) (Value.str (F.write x)).compact = .ok x := by
  have plain := F.isPlain_write x
  rw [Value.compact_str]
  refine ⟨parse_str_of_plain plain, ?_, ?_⟩
  · simp only [ofValue?, Value.asStr, Option.bind_some, (F.read_write x).1, Except.toOption]
  · obtain ⟨c, read, ended⟩ := str_quoted plain (rest_ofString_quote plain)
    refine document_eq_ok _ _ ?_ ended
    simp only [readJson, bind, EStateM.bind, read, (F.read_write x).1, pure, EStateM.pure]

end FixedWidth

-- The two readers match on the outcome of their own `ofHex`, so they equal the shared reader
-- only once both outcomes are split.
theorem readAddress_eq : readAddress = Address.fixedWidth.readJson := by
  funext c
  simp only [readAddress, FixedWidth.readJson, bind, EStateM.bind, Address.ofHex_eq_read]
  cases str c with
  | error e after => rfl
  | ok s after =>
    dsimp only
    cases Address.fixedWidth.read s <;> rfl

theorem readDigest_eq : readDigest = Digest.fixedWidth.readJson := by
  funext c
  simp only [readDigest, FixedWidth.readJson, bind, EStateM.bind, Digest.ofHex_eq_read]
  cases str c with
  | error e after => rfl
  | ok s after =>
    dsimp only
    cases Digest.fixedWidth.read s <;> rfl

theorem addressOf?_eq : addressOf? = Address.fixedWidth.ofValue? := rfl

theorem digestOf?_eq : digestOf? = Digest.fixedWidth.ofValue? := rfl

/-- Reading and writing hexadecimal addresses and digests. A text reads as an address exactly
when, after at most one leading `0x`, it is 40 hexadecimal digits in either case, and the address
is then the one written as `0x` and those digits in lowercase; every address reads back from its
written form, with and without the `0x`, and from its JSON string, through the value tree and
directly. Digests are the same with 64 digits. -/
theorem hex_text_round_trips :
    (∀ (s : String) (a : Address), Address.ofHex s = .ok a ↔
        IsHexText 40 s ∧ a.toHex = "0x" ++ String.ofList ((hexDigitsOf s).map Char.toLower)) ∧
    (∀ s : String, (∃ a, Address.ofHex s = .ok a) ↔ IsHexText 40 s) ∧
    (∀ a : Address, Address.ofHex a.toHex = .ok a ∧
        Address.ofHex (String.ofList (hexDigitsOf a.toHex)) = .ok a ∧
        Value.parse (addressValue a).compact = .ok (addressValue a) ∧
        addressOf? (addressValue a) = some a ∧
        document (fun _ => readAddress) (addressValue a).compact = .ok a) ∧
    (∀ (s : String) (d : Digest), Digest.ofHex s = .ok d ↔
        IsHexText 64 s ∧ d.toHex = "0x" ++ String.ofList ((hexDigitsOf s).map Char.toLower)) ∧
    (∀ s : String, (∃ d, Digest.ofHex s = .ok d) ↔ IsHexText 64 s) ∧
    (∀ d : Digest, Digest.ofHex d.toHex = .ok d ∧
        Digest.ofHex (String.ofList (hexDigitsOf d.toHex)) = .ok d ∧
        Value.parse (digestValue d).compact = .ok (digestValue d) ∧
        digestOf? (digestValue d) = some d ∧
        document (fun _ => readDigest) (digestValue d).compact = .ok d) := by
  refine ⟨Address.fixedWidth.read_eq_ok_iff, Address.fixedWidth.exists_read_eq_ok_iff, fun a => ?_,
    Digest.fixedWidth.read_eq_ok_iff, Digest.fixedWidth.exists_read_eq_ok_iff, fun d => ?_⟩
  case refine_1 =>
    rw [readAddress_eq, addressOf?_eq]
    exact ⟨(Address.fixedWidth.read_write a).1, (Address.fixedWidth.read_write a).2,
      Address.fixedWidth.json_round_trip a⟩
  case refine_2 =>
    rw [readDigest_eq, digestOf?_eq]
    exact ⟨(Digest.fixedWidth.read_write d).1, (Digest.fixedWidth.read_write d).2,
      Digest.fixedWidth.json_round_trip d⟩

end Escrow
