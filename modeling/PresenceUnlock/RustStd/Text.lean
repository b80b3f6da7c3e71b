import Mathlib.Data.List.DropRight

/-!
# Rust text

The part of the Rust standard library on `str` and `[u8]` that line- and word-oriented code rests
on.  A `str` is the sequence of its Unicode scalar values; Lean's `Char` is exactly that range.
-/

namespace RustStd

/-- A Rust `str`, as the sequence of its Unicode scalar values. -/
abbrev Text := List Char

namespace Text

/-- `char::is_whitespace`: the Unicode property `White_Space`. -/
def isWhitespace (c : Char) : Bool :=
  (0x09 ≤ c.val && c.val ≤ 0x0D) || c.val == 0x20 || c.val == 0x85 || c.val == 0xA0 ||
    c.val == 0x1680 || (0x2000 ≤ c.val && c.val ≤ 0x200A) || c.val == 0x2028 ||
    c.val == 0x2029 || c.val == 0x202F || c.val == 0x205F || c.val == 0x3000

/-- `char::is_ascii_whitespace`; unlike the Unicode property it leaves out the vertical tab. -/
def isAsciiWhitespace (c : Char) : Bool :=
  c == ' ' || c == '\t' || c == '\n' || c == '\x0C' || c == '\r'

theorem bounds_of_isAlphanum {c : Char} (alphanum : c.isAlphanum = true) :
    0x2B ≤ c.toNat ∧ c.toNat ≤ 0x7A := by
  rcases Bool.or_eq_true_iff.mp alphanum with letter | digit
  · rcases Bool.or_eq_true_iff.mp letter with upper | lower
    · obtain ⟨low, high⟩ := of_decide_eq_true upper
      have low' : 0x41 ≤ c.toNat := low
      have high' : c.toNat ≤ 0x5A := high
      omega
    · obtain ⟨low, high⟩ := Bool.and_eq_true_iff.mp lower
      have low' : 0x61 ≤ c.toNat := of_decide_eq_true low
      have high' : c.toNat ≤ 0x7A := of_decide_eq_true high
      omega
  · obtain ⟨low, high⟩ := Bool.and_eq_true_iff.mp digit
    have low' : 0x30 ≤ c.toNat := of_decide_eq_true low
    have high' : c.toNat ≤ 0x39 := of_decide_eq_true high
    omega

/-- `str::as_bytes`: the UTF-8 encoding. -/
def asBytes (text : Text) : List UInt8 := text.flatMap String.utf8EncodeChar

/-- `str::len`: the number of bytes. -/
def len (text : Text) : Nat := text.asBytes.length

@[simp] theorem asBytes_append (left right : Text) :
    asBytes (left ++ right) = left.asBytes ++ right.asBytes := List.flatMap_append

/-- `String::from_utf8`: the text whose encoding these bytes are, if they are one. -/
def fromUtf8 (bytes : List UInt8) : Option Text :=
  (ByteArray.mk bytes.toArray).utf8Decode?.map Array.toList

@[simp] theorem fromUtf8_asBytes (text : Text) : fromUtf8 text.asBytes = some text := by
  have encoded : ByteArray.mk text.asBytes.toArray = text.utf8Encode := by
    apply ByteArray.ext
    simp [asBytes, List.utf8Encode]
  simp [fromUtf8, encoded]

/-- `str::trim`. -/
def trim (text : Text) : Text := (text.dropWhile isWhitespace).rdropWhile isWhitespace

/-- `str::strip_prefix`, also on slices. -/
def stripPrefix {α : Type*} [DecidableEq α] (affix text : List α) : Option (List α) :=
  if affix <+: text then some (text.drop affix.length) else none

/-- `str::strip_suffix`, also on slices. -/
def stripSuffix {α : Type*} [DecidableEq α] (affix text : List α) : Option (List α) :=
  if affix <:+ text then some (text.take (text.length - affix.length)) else none

/-- `str::split_once` on one character. -/
def splitOnce (sep : Char) (text : Text) : Option (Text × Text) :=
  match text.dropWhile (· ≠ sep) with
  | [] => none
  | _ :: rest => some (text.takeWhile (· ≠ sep), rest)

/-- `str::eq_ignore_ascii_case`. -/
def eqIgnoreAsciiCase (left right : Text) : Bool :=
  left.map Char.toLower == right.map Char.toLower

theorem trim_eq_self {text : Text} (solid : ∀ c ∈ text, isWhitespace c = false) :
    text.trim = text := by
  have front : text.dropWhile isWhitespace = text := by
    cases text with
    | nil => rfl
    | cons head tail => simp [solid head List.mem_cons_self]
  rw [trim, front, List.rdropWhile_eq_self_iff]
  intro nonempty
  simp [solid _ (List.getLast_mem nonempty)]

/-- A line of solid text is trimmed of its end. -/
theorem trim_concat_newline {text : Text} (solid : ∀ c ∈ text, isWhitespace c = false) :
    trim (text ++ ['\n']) = text := by
  cases text with
  | nil => rfl
  | cons head tail =>
      have front :
          ((head :: tail) ++ ['\n']).dropWhile isWhitespace = (head :: tail) ++ ['\n'] := by
        simp [solid head List.mem_cons_self]
      rw [trim, front, List.rdropWhile_concat_pos _ _ _ (by decide), List.rdropWhile_eq_self_iff]
      intro nonempty
      simp [solid _ (List.getLast_mem nonempty)]

/-- Trimming leaves nothing to trim. -/
@[simp] theorem trim_trim (text : Text) : text.trim.trim = text.trim := by
  have front : text.trim.dropWhile isWhitespace = text.trim := by
    have kept : text.trim <+: text.dropWhile isWhitespace := List.rdropWhile_prefix _ _
    cases trimmed : text.trim with
    | nil => rfl
    | cons head tail =>
        rw [trimmed] at kept
        obtain ⟨rest, same⟩ := kept
        have solid : isWhitespace head = false := by
          have stop := List.head?_dropWhile_not isWhitespace text
          rw [← same] at stop
          simpa using stop
        simp [solid]
  rw [trim, front]
  exact List.rdropWhile_idempotent _ _

theorem splitOnce_eq_some_iff {sep : Char} {text front back : Text} :
    splitOnce sep text = some (front, back) ↔ text = front ++ sep :: back ∧ sep ∉ front := by
  have parts := List.takeWhile_append_dropWhile (p := (· ≠ sep)) (l := text)
  have free : sep ∉ text.takeWhile (· ≠ sep) := fun member => by
    simpa using List.mem_takeWhile_imp member
  constructor
  · intro split
    rw [splitOnce.eq_def] at split
    split at split
    · cases split
    rename_i head rest dropped
    obtain ⟨rfl, rfl⟩ := Prod.mk.inj (Option.some.inj split)
    have stop := List.head?_dropWhile_not (· ≠ sep) text
    rw [dropped] at stop parts
    obtain rfl : head = sep := by simpa using stop
    exact ⟨parts.symm, free⟩
  · rintro ⟨rfl, apart⟩
    have others : ∀ c ∈ front, decide (c ≠ sep) = true := by
      intro c member
      rw [decide_eq_true_eq]
      rintro rfl
      exact apart member
    rw [splitOnce.eq_def, List.dropWhile_append_of_pos others, List.takeWhile_append_of_pos others]
    simp

@[simp] theorem stripPrefix_append {α : Type*} [DecidableEq α] (affix rest : List α) :
    stripPrefix affix (affix ++ rest) = some rest := by
  simp [stripPrefix]

theorem stripPrefix_eq_some {α : Type*} [DecidableEq α] {affix text rest : List α} :
    stripPrefix affix text = some rest ↔ text = affix ++ rest := by
  constructor
  · intro stripped
    by_cases holds : affix <+: text
    · obtain ⟨tail, rfl⟩ := holds
      simpa using stripped
    · simp [stripPrefix, holds] at stripped
  · rintro rfl
    simp

@[simp] theorem stripSuffix_append {α : Type*} [DecidableEq α] (front affix : List α) :
    stripSuffix affix (front ++ affix) = some front := by
  simp [stripSuffix]

theorem stripSuffix_eq_some {α : Type*} [DecidableEq α] {affix text front : List α} :
    stripSuffix affix text = some front ↔ text = front ++ affix := by
  constructor
  · intro stripped
    by_cases holds : affix <:+ text
    · obtain ⟨head, rfl⟩ := holds
      simpa using stripped
    · simp [stripSuffix, holds] at stripped
  · rintro rfl
    simp

/-- `str::split` on one character. -/
def split (sep : Char) (text : Text) : List Text := text.splitOnP (· == sep)

/-- The maximal runs of characters outside a class. -/
def words (blank : Char → Bool) (text : Text) : List Text :=
  (text.splitOnP blank).filter (· ≠ [])

/-- `str::split_whitespace`. -/
def splitWhitespace (text : Text) : List Text := text.words isWhitespace

/-- `str::split_ascii_whitespace`. -/
def splitAsciiWhitespace (text : Text) : List Text := text.words isAsciiWhitespace

theorem words_of_solid {blank : Char → Bool} {word : Text} (nonempty : word ≠ [])
    (solid : ∀ c ∈ word, blank c = false) : word.words blank = [word] := by
  simp [words, List.splitOnP_eq_singleton solid, nonempty]

/-- A blank-free word up to the next blank is the first word. -/
theorem words_append_cons {blank : Char → Bool} {word : Text} (nonempty : word ≠ [])
    (solid : ∀ c ∈ word, blank c = false) {sep : Char} (separates : blank sep = true)
    (rest : Text) : (word ++ sep :: rest).words blank = word :: rest.words blank := by
  rw [words, List.splitOnP_append_cons_of_forall_mem solid sep separates]
  simp [words, nonempty]

theorem words_nonempty {blank : Char → Bool} {text word : Text}
    (member : word ∈ text.words blank) : word ≠ [] := by
  simpa using (List.mem_filter.mp member).2

theorem solid_of_mem_splitOnP {α : Type*} {blank : α → Bool} (text : List α) :
    ∀ piece ∈ text.splitOnP blank, ∀ c ∈ piece, blank c = false := by
  induction text with
  | nil => simp
  | cons head tail induction =>
      rw [List.splitOnP_cons_eq_if_modifyHead]
      split
      · simpa using induction
      · rename_i separates
        cases pieces : tail.splitOnP blank with
        | nil => simp
        | cons first others =>
            rw [pieces] at induction
            simp only [List.modifyHead_cons, List.mem_cons, forall_eq_or_imp] at induction ⊢
            exact ⟨⟨by simpa using separates, induction.1⟩, induction.2⟩

/-- Splitting finds exactly the fields, free of the separator, that a text joins. -/
theorem splitOn_eq_iff {α : Type*} [DecidableEq α] {sep : α} {text : List α}
    {fields : List (List α)} (nonempty : fields ≠ []) :
    text.splitOn sep = fields ↔
      text = [sep].intercalate fields ∧ ∀ field ∈ fields, sep ∉ field := by
  constructor
  · rintro rfl
    refine ⟨(List.intercalate_splitOn sep).symm, fun field member contained => ?_⟩
    have other := solid_of_mem_splitOnP text field member sep contained
    simp at other
  · rintro ⟨rfl, apart⟩
    exact List.splitOn_intercalate sep apart nonempty

/-- Splitting looks only at the characters of the text. -/
theorem splitOnP_congr {α : Type*} {left right : α → Bool} {text : List α}
    (same : ∀ c ∈ text, left c = right c) : text.splitOnP left = text.splitOnP right := by
  induction text with
  | nil => rfl
  | cons head tail induction =>
      rw [List.splitOnP_cons_eq_if_modifyHead, List.splitOnP_cons_eq_if_modifyHead,
        same head List.mem_cons_self,
        induction fun c member => same c (List.mem_cons_of_mem head member)]

theorem words_solid {blank : Char → Bool} {text word : Text} (member : word ∈ text.words blank) :
    ∀ c ∈ word, blank c = false :=
  solid_of_mem_splitOnP text word (List.mem_filter.mp member).1

/-- A nonempty word without blanks. -/
structure Solid (blank : Char → Bool) (word : Text) : Prop where
  /-- It is not empty. -/
  nonempty : word ≠ []
  /-- It has no blank. -/
  unbroken : ∀ c ∈ word, blank c = false

theorem solid_iff_all {blank : Char → Bool} {word : Text} :
    Solid blank word ↔ word ≠ [] ∧ (word.all fun c => !blank c) = true := by
  constructor
  · rintro ⟨nonempty, unbroken⟩
    exact ⟨nonempty, by simpa using unbroken⟩
  · rintro ⟨nonempty, unbroken⟩
    exact ⟨nonempty, by simpa using unbroken⟩

instance (blank : Char → Bool) (word : Text) : Decidable (Solid blank word) :=
  decidable_of_iff _ solid_iff_all.symm

theorem solid_of_mem_words {blank : Char → Bool} {text word : Text}
    (member : word ∈ text.words blank) : Solid blank word :=
  ⟨words_nonempty member, words_solid member⟩

theorem Solid.append {blank : Char → Bool} {front back : Text}
    (nonempty : front ≠ []) (front_unbroken : ∀ c ∈ front, blank c = false)
    (back_unbroken : ∀ c ∈ back, blank c = false) : Solid blank (front ++ back) :=
  ⟨by simp [nonempty], fun c member =>
    (List.mem_append.mp member).elim (front_unbroken c) (back_unbroken c)⟩

/-- Words separated by single spaces. -/
def spaced : List Text → Text
  | [] => []
  | [word] => word
  | word :: next :: rest => word ++ ' ' :: spaced (next :: rest)

/-- Solid words are read back from their spaced form. -/
theorem words_spaced {blank : Char → Bool} (separates : blank ' ' = true) {fields : List Text}
    (solid : ∀ field ∈ fields, Solid blank field) : (spaced fields).words blank = fields := by
  induction fields with
  | nil => simp [spaced, words]
  | cons field fields induction =>
      have first := solid field List.mem_cons_self
      have rest := induction fun other member => solid other (List.mem_cons_of_mem field member)
      cases fields with
      | nil => exact words_of_solid first.nonempty first.unbroken
      | cons next fields =>
          rw [spaced, words_append_cons first.nonempty first.unbroken separates, rest]

/-- A spaced line has only spaces and the characters of its words. -/
theorem mem_spaced {fields : List Text} {c : Char} (member : c ∈ spaced fields) :
    c = ' ' ∨ ∃ field ∈ fields, c ∈ field := by
  induction fields with
  | nil => simp [spaced] at member
  | cons field fields induction =>
      cases fields with
      | nil => exact .inr ⟨field, List.mem_cons_self, member⟩
      | cons next fields =>
          rw [spaced, List.mem_append, List.mem_cons] at member
          rcases member with inside | rfl | later
          · exact .inr ⟨field, List.mem_cons_self, inside⟩
          · exact .inl rfl
          · refine (induction later).imp id fun ⟨other, known, inside⟩ => ?_
            exact ⟨other, List.mem_cons_of_mem field known, inside⟩

/-- `str::split_inclusive('\n')`: every piece but perhaps the last ends in a newline. -/
def splitInclusive : Text → List Text
  | [] => []
  | c :: rest =>
      if c = '\n' then
        [c] :: splitInclusive rest
      else
        match splitInclusive rest with
        | [] => [[c]]
        | piece :: pieces => (c :: piece) :: pieces

/-- Drop a trailing `\n` or `\r\n`; a lone carriage return stays. -/
def stripLineEnding (piece : Text) : Text :=
  match stripSuffix ['\n'] piece with
  | none => piece
  | some line => (stripSuffix ['\r'] line).getD line

/-- `str::lines`, which `BufRead::lines` also follows. -/
def lines (text : Text) : List Text := text.splitInclusive.map stripLineEnding

@[simp] theorem lines_nil : lines [] = [] := rfl

theorem splitInclusive_append_cons {line : Text} (single : '\n' ∉ line) (rest : Text) :
    splitInclusive (line ++ '\n' :: rest) = (line ++ ['\n']) :: splitInclusive rest := by
  induction line with
  | nil => simp [splitInclusive]
  | cons head tail induction =>
      have head_ne : head ≠ '\n' := by
        rintro rfl
        exact single List.mem_cons_self
      have tail_single : '\n' ∉ tail := fun member => single (List.mem_cons_of_mem head member)
      simp [splitInclusive, head_ne, induction tail_single]

/-- A terminated line that ends in no carriage return is read back as it was written. -/
theorem lines_append_cons {line : Text} (single : '\n' ∉ line)
    (plain : ¬ ['\r'] <:+ line) (rest : Text) :
    lines (line ++ '\n' :: rest) = line :: lines rest := by
  have kept : stripSuffix ['\r'] line = none := by simp [stripSuffix, plain]
  rw [lines, splitInclusive_append_cons single, List.map_cons]
  simp [stripLineEnding, kept, lines]

/-- Terminated lines are read back one by one. -/
theorem lines_flatMap_append {written : List Text}
    (single : ∀ line ∈ written, '\n' ∉ line) (plain : ∀ line ∈ written, ¬ ['\r'] <:+ line)
    (rest : Text) :
    lines (written.flatMap (fun line => line ++ ['\n']) ++ rest) = written ++ lines rest := by
  induction written with
  | nil => rfl
  | cons line written induction =>
      have later := induction
        (fun other member => single other (List.mem_cons_of_mem line member))
        (fun other member => plain other (List.mem_cons_of_mem line member))
      have first : (line :: written).flatMap (fun line => line ++ ['\n']) ++ rest =
          line ++ '\n' :: (written.flatMap (fun line => line ++ ['\n']) ++ rest) := by
        simp
      rw [first, lines_append_cons (single line List.mem_cons_self)
        (plain line List.mem_cons_self), later]
      rfl

end Text
end RustStd
